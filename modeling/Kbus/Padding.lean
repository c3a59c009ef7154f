import Kbus.Frame
import Mathlib.Order.Bounds.Defs

/-! The padding loops against the closed forms: `while len(s) % 4: s += '\0'` appends
NULs up to the next multiple of four, so a NUL-terminated name ends up
`calc_padded_name_len` long and data `calc_padded_data_len` long. -/
namespace Kbus

theorem padToFour_eq (s : Bytes) : padToFour s = s ++ zeros ((4 - s.length % 4) % 4) := by
  induction s using padToFour.induct with
  | case1 s done => rw [padToFour, dif_pos done, done]; simp [zeros]
  | case2 s more ih =>
    rw [padToFour, dif_neg more, ih, List.append_assoc, List.singleton_append, zeros, zeros,
      ← List.replicate_succ]
    congr 2
    simp only [List.length_append, List.length_singleton]
    omega

theorem length_padToFour (s : Bytes) : (padToFour s).length = 4 * ((s.length + 3) / 4) := by
  rw [padToFour_eq, List.length_append, length_zeros]
  omega

theorem length_padName (name : Bytes) :
    (padToFour (name ++ [0])).length = calcPaddedNameLen name.length := by
  rw [length_padToFour, List.length_append, List.length_singleton, calcPaddedNameLen]

theorem length_padData (data : Bytes) :
    (padToFour data).length = calcPaddedDataLen data.length := length_padToFour data

theorem padName_eq (name : Bytes) :
    padToFour (name ++ [0]) = name ++ zeros (calcPaddedNameLen name.length - name.length) := by
  rw [padToFour_eq, List.append_assoc]
  congr 1
  simp only [List.length_append, List.length_singleton, calcPaddedNameLen, zeros,
    List.singleton_append, ← List.replicate_succ]
  congr 1
  omega

theorem padData_eq (data : Bytes) :
    padToFour data = data ++ zeros (calcPaddedDataLen data.length - data.length) := by
  rw [padToFour_eq, calcPaddedDataLen]
  congr 2
  omega

theorem lt_calcPaddedNameLen (n : Nat) : n < calcPaddedNameLen n := by
  unfold calcPaddedNameLen; omega

theorem le_calcPaddedDataLen (n : Nat) : n ≤ calcPaddedDataLen n := by
  unfold calcPaddedDataLen; omega

theorem four_dvd_calcPaddedNameLen (n : Nat) : 4 ∣ calcPaddedNameLen n := Nat.dvd_mul_right _ _

theorem four_dvd_calcPaddedDataLen (n : Nat) : 4 ∣ calcPaddedDataLen n := Nat.dvd_mul_right _ _

/-- `calc_padded_name_len(n)` is the least multiple of four with room for the name and its
terminating NUL. -/
theorem calcPaddedNameLen_isLeast (n : Nat) :
    IsLeast {k | 4 ∣ k ∧ n + 1 ≤ k} (calcPaddedNameLen n) := by
  refine ⟨⟨four_dvd_calcPaddedNameLen n, lt_calcPaddedNameLen n⟩, ?_⟩
  rintro k ⟨⟨j, rfl⟩, room⟩
  show calcPaddedNameLen n ≤ 4 * j
  unfold calcPaddedNameLen; omega

/-- `calc_padded_data_len(n)` is the least multiple of four with room for the data. -/
theorem calcPaddedDataLen_isLeast (n : Nat) :
    IsLeast {k | 4 ∣ k ∧ n ≤ k} (calcPaddedDataLen n) := by
  refine ⟨⟨four_dvd_calcPaddedDataLen n, le_calcPaddedDataLen n⟩, ?_⟩
  rintro k ⟨⟨j, rfl⟩, room⟩
  show calcPaddedDataLen n ≤ 4 * j
  unfold calcPaddedDataLen; omega

/-! ## The loops inside the two encoders -/

section Encoders

variable (id inReplyTo : MessageId) (to_ from_ : UInt32) (origFrom finalTo : Option OrigFrom)
  (flags : UInt32) (name : Bytes) (data : Option Bytes)

theorem length_messageFromParts_name :
    (messageFromParts id inReplyTo to_ from_ origFrom finalTo flags name data).name.length =
      calcPaddedNameLen name.length :=
  length_padName name

/-- `message_from_parts` pads only data that is there: `None` and `''` give no array. -/
theorem length_messageFromParts_data :
    ((messageFromParts id inReplyTo to_ from_ origFrom finalTo flags name data).data.getD []).length =
      calcPaddedDataLen (data.getD []).length := by
  show ((if filled data then some (padToFour (data.getD [])) else none).getD []).length = _
  rcases data with _ | _ | ⟨b, bs⟩
  · rfl
  · rfl
  · exact length_padData _

end Encoders

section EntireEncoder

variable (p : Platform) (id inReplyTo : Option MessageId) (to_ from_ : UInt32)
  (origFrom finalTo : Option OrigFrom) (flags : UInt32) (name : Bytes) (data : Option Bytes)

theorem paddedNameLen_entireMessageFromParts :
    (entireMessageFromParts p id inReplyTo to_ from_ origFrom finalTo flags name data).paddedNameLen =
      calcPaddedNameLen name.length :=
  length_padName name

theorem paddedDataLen_entireMessageFromParts :
    (entireMessageFromParts p id inReplyTo to_ from_ origFrom finalTo flags name data).paddedDataLen =
      calcPaddedDataLen (data.getD []).length :=
  length_padData _

end EntireEncoder

/-- A name padded by the loop reads back, as a C string, as the name itself. -/
theorem cString_padName {name : Bytes} (clean : 0 ∉ name) :
    cString (padToFour (name ++ [0])) = name := by
  rw [padToFour_eq, List.append_assoc, List.singleton_append]
  exact cString_append_nul clean _

end Kbus
