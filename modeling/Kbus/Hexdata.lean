import Kbus.Bytes

/-! `hexdata`, the printable rendering of a byte string that the message `__repr__`
methods and the decoder's error texts use, and a reader for it. The reader recovers
every input without a backslash; a backslash in the input passes through unescaped,
so such inputs can collide with escapes. -/
namespace Kbus

/-- Python 2's `string.letters` in the C locale; `digits` and `punctuation` below are
`string.digits` and `string.punctuation`. -/
def letters : Bytes := ascii "abcdefghijklmnopqrstuvwxyzABCDEFGHIJKLMNOPQRSTUVWXYZ"

def digits : Bytes := ascii "0123456789"

def punctuation : Bytes := ascii "!\"#$%&\x27()*+,-./:;<=>?@[\\]^_\x60\x7b|\x7d~"

/-- A lowercase hex digit, as `%x` prints it. -/
def hexDigit (d : Nat) : UInt8 := if d < 10 then UInt8.ofNat (48 + d) else UInt8.ofNat (87 + d)

/-- `'\\x%02x' % ord(ch)`. -/
def hexEscape (ch : UInt8) : Bytes := ascii "\\x" ++ [hexDigit (ch.toNat / 16), hexDigit (ch.toNat % 16)]

def hexdata (data : Bytes) : Bytes :=
  let pretty := letters ++ digits ++ punctuation
  (data.map fun ch => if ch ∈ pretty then [ch] else hexEscape ch).flatten

/-- The value of a lowercase hex digit. -/
def hexValue (c : UInt8) : Option Nat :=
  if 48 ≤ c.toNat ∧ c.toNat < 58 then some (c.toNat - 48)
  else if 97 ≤ c.toNat ∧ c.toNat < 103 then some (c.toNat - 87)
  else none

/-- Reads `hexdata`'s output back: `\xHH` is one byte, any other byte stands for itself. -/
def unhexdata : Bytes → Option Bytes
  | [] => some []
  | c :: rest =>
    if c = 92 then
      match rest with
      | x :: hi :: lo :: rest =>
        if x = 120 then
          match hexValue hi, hexValue lo, unhexdata rest with
          | some h, some l, some r => some (UInt8.ofNat (16 * h + l) :: r)
          | _, _, _ => none
        else none
      | _ => none
    else (unhexdata rest).map (c :: ·)

theorem unhexdata_cons_of_ne {c : UInt8} (plain : c ≠ 92) (rest : Bytes) :
    unhexdata (c :: rest) = (unhexdata rest).map (c :: ·) := by
  rw [unhexdata.eq_def]
  exact if_neg plain

theorem hexValue_hexDigit : ∀ d < 16, hexValue (hexDigit d) = some d := by decide

theorem hexEscape_eq (ch : UInt8) :
    hexEscape ch = [92, 120, hexDigit (ch.toNat / 16), hexDigit (ch.toNat % 16)] := rfl

theorem unhexdata_hexEscape (ch : UInt8) (rest : Bytes) :
    unhexdata (hexEscape ch ++ rest) = (unhexdata rest).map (ch :: ·) := by
  have bound : ch.toNat < 256 := ch.toNat_lt_size
  have hi := hexValue_hexDigit (ch.toNat / 16) (by omega)
  have lo := hexValue_hexDigit (ch.toNat % 16) (by omega)
  have byte : UInt8.ofNat (16 * (ch.toNat / 16) + ch.toNat % 16) = ch := by
    rw [show 16 * (ch.toNat / 16) + ch.toNat % 16 = ch.toNat by omega]
    exact UInt8.toNat.inj (by simp; omega)
  rw [hexEscape_eq]
  cases h : unhexdata rest <;> simp [unhexdata, hi, lo, byte, h]

/-- Without a backslash in the input, `hexdata` loses nothing. -/
theorem unhexdata_hexdata (data : Bytes) (plain : 92 ∉ data) :
    unhexdata (hexdata data) = some data := by
  induction data with
  | nil => rfl
  | cons ch rest ih =>
    simp only [List.mem_cons, not_or] at plain
    have tail := ih plain.2
    simp only [hexdata, List.map_cons, List.flatten_cons] at tail ⊢
    split
    · rw [List.singleton_append, unhexdata_cons_of_ne (Ne.symm plain.1), tail]; rfl
    · rw [unhexdata_hexEscape, tail]; rfl

/-! ## What `hexdata` writes -/

theorem hexDigit_printable : ∀ d < 16, hexDigit d ∈ letters ++ digits ++ punctuation := by
  decide

theorem hexEscape_printable (ch : UInt8) :
    ∀ c ∈ hexEscape ch, c ∈ letters ++ digits ++ punctuation := by
  have bound : ch.toNat < 256 := ch.toNat_lt_size
  rw [hexEscape_eq]
  simp only [List.mem_cons, List.not_mem_nil, or_false]
  rintro c (rfl | rfl | rfl | rfl)
  · decide
  · decide
  · exact hexDigit_printable _ (by omega)
  · exact hexDigit_printable _ (by omega)

/-- As its docstring says, `hexdata` writes only letters, digits and punctuation, whatever
the input: no whitespace and no control byte. -/
theorem hexdata_printable (data : Bytes) : ∀ c ∈ hexdata data, c ∈ letters ++ digits ++ punctuation := by
  intro c mem
  simp only [hexdata, List.mem_flatten, List.mem_map] at mem
  obtain ⟨_, ⟨ch, -, rfl⟩, inWord⟩ := mem
  split at inWord
  · rename_i pretty
    exact List.mem_singleton.1 inWord ▸ pretty
  · exact hexEscape_printable ch c inWord

/-- The backslash of the escape `hexdata` writes for a space. -/
theorem hexdata_printable_space :
    92 ∈ hexdata [32] ∧ (92 : UInt8) ∈ letters ++ digits ++ punctuation :=
  ⟨by decide, hexdata_printable [32] 92 (by decide)⟩

theorem hexdata_injective_of_plain {s t : Bytes} (ps : 92 ∉ s) (pt : 92 ∉ t)
    (same : hexdata s = hexdata t) : s = t := by
  have h := unhexdata_hexdata s ps
  rwa [same, unhexdata_hexdata t pt, Option.some_inj, eq_comm] at h

/-- On inputs without a backslash, `hexdata` is as lossless as its docstring says: distinct
inputs render differently. -/
theorem hexdata_ne_of_plain {s t : Bytes} (ps : 92 ∉ s) (pt : 92 ∉ t) (differ : s ≠ t) :
    hexdata s ≠ hexdata t :=
  fun same => differ (hexdata_injective_of_plain ps pt same)

theorem hexdata_ne_of_plain_space :
    92 ∉ [32] ∧ 92 ∉ ascii "x20" ∧ [32] ≠ ascii "x20" ∧ hexdata [32] ≠ hexdata (ascii "x20") :=
  ⟨by decide, by decide, by decide, hexdata_ne_of_plain (by decide) (by decide) (by decide)⟩

/-- A space and the four characters of its escape render alike. -/
theorem hexdata_space_collides :
    [32] ≠ ascii "\\x20" ∧ hexdata [32] = hexdata (ascii "\\x20") := by
  decide

end Kbus
