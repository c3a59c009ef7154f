import Kbus.Codec

/-! The second decoder. `_pointy_message_from_bytes` builds a "pointy" header from a frame
with no checks at all, where `_entire_message_from_bytes` checks the length and the start
guard and copies the frame into its keyed class. On every frame the entire decoder accepts
and that holds what its header announces, the two structures say the same. -/
namespace Kbus

variable {p : Platform}

theorem pointyMessageFromBytes_fields {b : Bytes} {beyond : Nat → UInt8}
    {e : EntireMessageStruct p} (read : entireMessageFromBytes p b beyond = .ok e)
    (holds : msgHeaderLen p + e.paddedNameLen + e.dataLen.toNat ≤ b.length) :
    (MessageStruct.pointy (pointyMessageFromBytes p b beyond) : MessageStruct p).fields =
      (MessageStruct.entire e).fields := by
  obtain ⟨-, -, decoded⟩ := entireMessageFromBytes_ok read
  have header : e.header = structFromBytes (messageHeaderType p) b beyond := by
    rw [e.header_eq, decoded.copied]; exact header_structFromBytes_entire p _ _ _ beyond
  have room : alignUp (msgHeaderLen p + e.paddedNameLen + e.paddedDataLen) 4 + 4 ≤
      (cStruct e.types).size := end_le_size_entire p _ _
  have grow :=
    le_alignUp (msgHeaderLen p + e.paddedNameLen + e.paddedDataLen) (show 0 < 4 by decide)
  have nameIn : e.nameLen.toNat < e.paddedNameLen := decoded.keyedName ▸ lt_calcPaddedNameLen _
  have dataIn : e.dataLen.toNat ≤ e.paddedDataLen := decoded.keyedData ▸ le_calcPaddedDataLen _
  have restName : e.restName = slice e.buf (msgHeaderLen p) e.paddedNameLen := by
    simp [EntireMessageStruct.restName, fieldAt, EntireMessageStruct.types, offsetOf_entire,
      fieldSize_entire]
  have restData : e.restData = slice e.buf (msgHeaderLen p + e.paddedNameLen) e.paddedDataLen := by
    simp [EntireMessageStruct.restData, fieldAt, EntireMessageStruct.types, offsetOf_entire,
      fieldSize_entire]
  -- the name and data areas lie inside the input, so the copy holds the input's bytes there
  have name : (cString e.restName).take e.nameLen.toNat =
      cString (slice b (msgHeaderLen p) e.nameLen.toNat) := by
    rw [cString, List.take_takeWhile, restName, take_slice nameIn.le, decoded.copied,
      slice_structFromBytes beyond (by omega) (by omega)]
    rfl
  have data : e.restData.take e.dataLen.toNat =
      slice b (msgHeaderLen p + e.paddedNameLen) e.dataLen.toNat := by
    rw [restData, take_slice dataIn, decoded.copied,
      slice_structFromBytes beyond (by omega) (by omega)]
  have dataLength : (slice b (msgHeaderLen p + e.paddedNameLen) e.dataLen.toNat).length =
      e.dataLen.toNat := by
    rw [length_slice]; omega
  have keyed := decoded.keyedName
  simp only [EntireMessageStruct.nameLen, EntireMessageStruct.dataLen, header]
    at name data dataLength keyed
  rw [MessageStruct.fields_entire, header, name, data]
  rw [keyed] at dataLength ⊢
  by_cases zero : headerU32 p (structFromBytes (messageHeaderType p) b beyond) 10 = 0 <;>
    simp [MessageStruct.fields_pointy, pointyMessageFromBytes, zero, dataLength, slice_zero]

/-- The two decoders agree: on every byte string `_entire_message_from_bytes` accepts that
holds the header, the padded name and the data its header announces,
`_pointy_message_from_bytes` builds a structure that says the same, field for field, and the
two are `==`. -/
theorem pointy_decoder_agrees {b : Bytes} {beyond : Nat → UInt8} {e : EntireMessageStruct p}
    (read : entireMessageFromBytes p b beyond = .ok e)
    (holds : msgHeaderLen p + e.paddedNameLen + e.dataLen.toNat ≤ b.length) :
    (MessageStruct.pointy (pointyMessageFromBytes p b beyond) : MessageStruct p).fields =
        (MessageStruct.entire e).fields ∧
      sameMessageStruct (.pointy (pointyMessageFromBytes p b beyond)) (.entire e) = true :=
  ⟨pointyMessageFromBytes_fields read holds,
    sameMessageStruct_of_fields (pointyMessageFromBytes_fields read holds)⟩

/-- A bare LP64 header announcing the three-byte name `$.A` and no data, then that name and
its NUL. -/
theorem pointy_decoder_agrees_bare :
    ∃ e : EntireMessageStruct Platform.lp64,
      entireMessageFromBytes Platform.lp64 (headerImage Platform.lp64 ⟨0, 0⟩ ⟨0, 0⟩ 0 0 ⟨0, 0⟩
        ⟨0, 0⟩ 0 3 0 ++ (ascii "$.A" ++ [0])) (fun _ => 0) = .ok e ∧
      msgHeaderLen Platform.lp64 + e.paddedNameLen + e.dataLen.toNat ≤
        (headerImage Platform.lp64 ⟨0, 0⟩ ⟨0, 0⟩ 0 0 ⟨0, 0⟩ ⟨0, 0⟩ 0 3 0 ++ (ascii "$.A" ++ [0])).length ∧
      (MessageStruct.pointy (pointyMessageFromBytes Platform.lp64 (headerImage Platform.lp64 ⟨0, 0⟩
          ⟨0, 0⟩ 0 0 ⟨0, 0⟩ ⟨0, 0⟩ 0 3 0 ++ (ascii "$.A" ++ [0])) (fun _ => 0)) :
          MessageStruct Platform.lp64).fields = (MessageStruct.entire e).fields ∧
      sameMessageStruct (.pointy (pointyMessageFromBytes Platform.lp64 (headerImage Platform.lp64
          ⟨0, 0⟩ ⟨0, 0⟩ 0 0 ⟨0, 0⟩ ⟨0, 0⟩ 0 3 0 ++ (ascii "$.A" ++ [0])) (fun _ => 0)))
        (.entire e) = true := by
  have length : (headerImage Platform.lp64 ⟨0, 0⟩ ⟨0, 0⟩ 0 0 ⟨0, 0⟩ ⟨0, 0⟩ 0 3 0).length =
      msgHeaderLen Platform.lp64 := length_headerImage _ _ _ _ _ _ _ _ _ _
  have header : (headerImage Platform.lp64 ⟨0, 0⟩ ⟨0, 0⟩ 0 0 ⟨0, 0⟩ ⟨0, 0⟩ 0 3 0 ++
      (ascii "$.A" ++ [0])).take (msgHeaderLen Platform.lp64) =
        headerImage Platform.lp64 ⟨0, 0⟩ ⟨0, 0⟩ 0 0 ⟨0, 0⟩ ⟨0, 0⟩ 0 3 0 := List.take_left' length
  obtain ⟨e, read, decoded, -, nameLen, dataLen, -⟩ := entireMessageFromBytes_headerImage
    (fun _ => 0) (by rw [List.length_append, length]; omega) header
  have holds : msgHeaderLen Platform.lp64 + e.paddedNameLen + e.dataLen.toNat ≤
      (headerImage Platform.lp64 ⟨0, 0⟩ ⟨0, 0⟩ 0 0 ⟨0, 0⟩ ⟨0, 0⟩ 0 3 0 ++ (ascii "$.A" ++ [0])).length := by
    rw [decoded.keyedName, nameLen, dataLen, List.length_append, length, msgHeaderLen_lp64]
    decide
  exact ⟨e, read, holds, pointy_decoder_agrees read holds⟩

/-- The pointy decoder reads back every frame `to_bytes()` writes for a tuple that keeps
its fields. -/
theorem Extracted.pointy_toBytes {x : Extracted} (normal : x.Normal) (beyond : Nat → UInt8) :
    (MessageStruct.pointy (pointyMessageFromBytes p (x.toBytes p) beyond) : MessageStruct p).fields =
      x.fields := by
  obtain ⟨e, read, -, fields⟩ := x.decode_toBytes normal p beyond
  obtain ⟨-, -, decoded⟩ := entireMessageFromBytes_ok read
  have nameLen : e.nameLen = UInt32.ofNat x.name.length := congrArg Fields.nameLen fields
  have dataLen : e.dataLen = UInt32.ofNat (x.data.getD []).length := congrArg Fields.dataLen fields
  have holds : msgHeaderLen p + e.paddedNameLen + e.dataLen.toNat ≤ (x.toBytes p).length := by
    rw [x.length_toBytes, decoded.keyedName, nameLen, dataLen, uint32_toNat_ofNat,
      uint32_toNat_ofNat, Nat.mod_eq_of_lt normal.name_short, Nat.mod_eq_of_lt normal.data_short]
    have := le_calcPaddedDataLen (x.data.getD []).length
    unfold calcEntireMessageLen; omega
  exact (pointyMessageFromBytes_fields read holds).trans fields

/-- The round trip through the pointy decoder: for every message the API hands out whose
name has no NUL and is shorter than 2^32 bytes, `_pointy_message_from_bytes(m.to_bytes())`
is `==` to `m` and has the same `extract()`, whatever memory holds past the frame. -/
theorem pointy_from_bytes_to_bytes {n : Bytes} {m : Message p} (built : Built p n m)
    (clean : 0 ∉ n) (short : n.length < 2 ^ 32) (beyond : Nat → UInt8) :
    (⟨.message, .pointy (pointyMessageFromBytes p m.toBytes beyond)⟩ : Message p).equals m = true ∧
      (⟨.message, .pointy (pointyMessageFromBytes p m.toBytes beyond)⟩ : Message p).extract =
        m.extract := by
  have consistent := built.consistent clean short
  have normal := m.extract_normal consistent.data_counted
  have fields : (MessageStruct.pointy (pointyMessageFromBytes p m.toBytes beyond) :
      MessageStruct p).fields = m.extract.fields := m.extract.pointy_toBytes normal beyond
  refine ⟨sameMessageStruct_of_fields ?_, ?_⟩
  · rw [fields, Message.extract_eq, Fields.fields_extract consistent]
  · rw [Message.extract_eq, fields]
    exact Extracted.extract_fields normal

theorem pointy_from_bytes_to_bytes_fred :
    ∃ m : Message Platform.lp64,
      Message.init Platform.lp64 (ascii "$.Fred") (some (ascii "1234")) none none none none none
        none none = .ok m ∧
      (⟨.message, .pointy (pointyMessageFromBytes Platform.lp64 m.toBytes (fun _ => 0))⟩ :
        Message Platform.lp64).equals m = true ∧
      (⟨.message, .pointy (pointyMessageFromBytes Platform.lp64 m.toBytes (fun _ => 0))⟩ :
        Message Platform.lp64).extract = m.extract := by
  obtain ⟨m, created⟩ : ∃ m : Message Platform.lp64,
      Message.init Platform.lp64 (ascii "$.Fred") (some (ascii "1234")) none none none none none
        none none = .ok m := ⟨_, rfl⟩
  exact ⟨m, created, pointy_from_bytes_to_bytes (Built.ofMessageInit created) (by decide) (by decide) _⟩

end Kbus
