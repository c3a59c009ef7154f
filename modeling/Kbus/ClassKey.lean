import Kbus.Codec

/-! The class key. `_entire_message_from_parts` picks its ctypes class by the lengths its
padding loops reach; `_entire_message_from_bytes` by `calc_padded_name_len` and
`calc_padded_data_len` of the lengths in the header it reads. The loops reach the closed
forms for every string, and the two keys agree whenever the lengths fit the header's
`c_uint32` fields. -/
namespace Kbus

section Encoder

variable (p : Platform) (id inReplyTo : Option MessageId) (to_ from_ : UInt32)
  (origFrom finalTo : Option OrigFrom) (flags : UInt32) (name : Bytes) (data : Option Bytes)

/-- The key the decoder computes from the frame of any structure the encoder builds: the
closed forms of the lengths the header holds, each mod 2^32. -/
theorem decodedKey_entireMessageFromParts (beyond : Nat → UInt8) :
    ∃ e : EntireMessageStruct p,
      entireMessageFromBytes p
          (entireMessageFromParts p id inReplyTo to_ from_ origFrom finalTo flags name data).buf
          beyond = .ok e ∧
        e.paddedNameLen = calcPaddedNameLen (name.length % 2 ^ 32) ∧
        e.paddedDataLen = calcPaddedDataLen ((data.getD []).length % 2 ^ 32) := by
  have long : msgHeaderLen p ≤
      (entireMessageFromParts p id inReplyTo to_ from_ origFrom finalTo flags name data).buf.length := by
    rw [EntireMessageStruct.buf_length]; exact msgHeaderLen_le_size_entire p _ _
  obtain ⟨e, read, decoded, -, nameLen, dataLen, -⟩ := entireMessageFromBytes_headerImage beyond long
    (take_header_entireMessageFromParts p id inReplyTo to_ from_ origFrom finalTo flags name data)
  refine ⟨e, read, ?_, ?_⟩
  · rw [decoded.keyedName, nameLen, uint32_toNat_ofNat]
  · rw [decoded.keyedData, dataLen, uint32_toNat_ofNat]

/-- The padding loops of both encoders end at the closed forms, which are the least
multiples of four with room for the name and its NUL and for the data; and the key the
encoder picks its class by is the one the decoder computes from the header it wrote,
whenever both lengths fit a `c_uint32`. -/
theorem padding_loops_match_class_key :
    (∀ id' inReplyTo' : MessageId,
      (messageFromParts id' inReplyTo' to_ from_ origFrom finalTo flags name data).name.length =
          calcPaddedNameLen name.length ∧
        ((messageFromParts id' inReplyTo' to_ from_ origFrom finalTo flags name data).data.getD
          []).length = calcPaddedDataLen (data.getD []).length) ∧
    (entireMessageFromParts p id inReplyTo to_ from_ origFrom finalTo flags name data).paddedNameLen =
        calcPaddedNameLen name.length ∧
    (entireMessageFromParts p id inReplyTo to_ from_ origFrom finalTo flags name data).paddedDataLen =
        calcPaddedDataLen (data.getD []).length ∧
    IsLeast {k | 4 ∣ k ∧ name.length + 1 ≤ k} (calcPaddedNameLen name.length) ∧
    IsLeast {k | 4 ∣ k ∧ (data.getD []).length ≤ k} (calcPaddedDataLen (data.getD []).length) ∧
    (name.length < 2 ^ 32 → (data.getD []).length < 2 ^ 32 → ∀ beyond : Nat → UInt8,
      ∃ e : EntireMessageStruct p,
        entireMessageFromBytes p
            (entireMessageFromParts p id inReplyTo to_ from_ origFrom finalTo flags name data).buf
            beyond = .ok e ∧
          e.paddedNameLen =
            (entireMessageFromParts p id inReplyTo to_ from_ origFrom finalTo flags name data).paddedNameLen ∧
          e.paddedDataLen =
            (entireMessageFromParts p id inReplyTo to_ from_ origFrom finalTo flags name data).paddedDataLen) := by
  refine ⟨fun id' inReplyTo' => ⟨length_messageFromParts_name .., length_messageFromParts_data ..⟩,
    paddedNameLen_entireMessageFromParts .., paddedDataLen_entireMessageFromParts ..,
    calcPaddedNameLen_isLeast _, calcPaddedDataLen_isLeast _, fun nameShort dataShort beyond => ?_⟩
  obtain ⟨e, read, nameKey, dataKey⟩ :=
    decodedKey_entireMessageFromParts p id inReplyTo to_ from_ origFrom finalTo flags name data beyond
  refine ⟨e, read, ?_, ?_⟩
  · rw [nameKey, Nat.mod_eq_of_lt nameShort, paddedNameLen_entireMessageFromParts]
  · rw [dataKey, Nat.mod_eq_of_lt dataShort, paddedDataLen_entireMessageFromParts]

end Encoder

theorem padding_loops_match_class_key_fred :
    (ascii "$.Fred").length < 2 ^ 32 ∧ ((some (ascii "1234")).getD []).length < 2 ^ 32 ∧
      ∃ e : EntireMessageStruct Platform.lp64,
        entireMessageFromBytes Platform.lp64 (entireMessageFromParts Platform.lp64 none none 0 0
          none none 0 (ascii "$.Fred") (some (ascii "1234"))).buf (fun _ => 0) = .ok e ∧
        e.paddedNameLen = (entireMessageFromParts Platform.lp64 none none 0 0 none none 0
          (ascii "$.Fred") (some (ascii "1234"))).paddedNameLen ∧
        e.paddedDataLen = (entireMessageFromParts Platform.lp64 none none 0 0 none none 0
          (ascii "$.Fred") (some (ascii "1234"))).paddedDataLen :=
  ⟨by decide, by decide, (padding_loops_match_class_key Platform.lp64 none none 0 0 none none 0
    (ascii "$.Fred") (some (ascii "1234"))).2.2.2.2.2 (by decide) (by decide) _⟩

/-- A name of 2^32 bytes: the header's `name_len` wraps to 0, so the decoder keys a class
with a four-byte name area where the encoder used 2^32 + 4 bytes. -/
theorem long_name_changes_class_key :
    ∃ e : EntireMessageStruct Platform.lp64,
      entireMessageFromBytes Platform.lp64 (entireMessageFromParts Platform.lp64 none none 0 0
        none none 0 (List.replicate (2 ^ 32) 36) none).buf (fun _ => 0) = .ok e ∧
      e.paddedNameLen = 4 ∧
      (entireMessageFromParts Platform.lp64 none none 0 0 none none 0
        (List.replicate (2 ^ 32) 36) none).paddedNameLen = 2 ^ 32 + 4 := by
  obtain ⟨e, read, nameKey, -⟩ := decodedKey_entireMessageFromParts Platform.lp64 none none 0 0
    none none 0 (List.replicate (2 ^ 32) 36) none (fun _ => 0)
  refine ⟨e, read, ?_, ?_⟩
  · rw [nameKey, List.length_replicate, Nat.mod_self]; rfl
  · rw [paddedNameLen_entireMessageFromParts, List.length_replicate]; rfl

end Kbus
