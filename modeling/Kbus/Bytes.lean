import Mathlib.Algebra.Group.Nat.Basic
import Mathlib.Data.List.Basic

/-! Python 2 byte strings and the views ctypes takes of them: the bytes of a C string,
a slice, an in-place store, and a native `c_uint32`. Every later layout and codec lemma
is stated with these few operations. -/
namespace Kbus

/-- A Python 2 `str`: a string of bytes. -/
abbrev Bytes := List UInt8

/-- The bytes of an ASCII literal of the source. -/
def ascii (s : String) : Bytes := s.toList.map Char.toUInt8

/-- The NUL bytes a zero-initialised ctypes buffer holds. -/
def zeros (n : Nat) : Bytes := List.replicate n 0

/-- What a `c_char_p`, or a `c_char` array field, reads back: the bytes before the first NUL. -/
def cString (b : Bytes) : Bytes := b.takeWhile (· != 0)

/-- `b[off:off+len]`. -/
def slice (b : Bytes) (off len : Nat) : Bytes := (b.drop off).take len

/-- `v` stored over `b` from `off` on, as assigning a ctypes field does: the buffer keeps
its length. -/
def patch (b : Bytes) (off : Nat) (v : Bytes) : Bytes :=
  (b.take off ++ v ++ b.drop (off + v.length)).take b.length

@[simp] theorem length_zeros (n : Nat) : (zeros n).length = n := List.length_replicate _ _

theorem zeros_add (m n : Nat) : zeros (m + n) = zeros m ++ zeros n := List.replicate_add _ _ _

@[simp] theorem uint8_toNat_ofNat (n : Nat) : (UInt8.ofNat n).toNat = n % 256 := rfl

@[simp] theorem uint32_toNat_ofNat (n : Nat) : (UInt32.ofNat n).toNat = n % 2 ^ 32 := rfl

theorem uint32_ofNat_toNat (v : UInt32) : UInt32.ofNat v.toNat = v :=
  UInt32.toNat.inj (by rw [uint32_toNat_ofNat]; exact Nat.mod_eq_of_lt v.toNat_lt_size)

/-! ## Slices and stores -/

@[simp] theorem length_slice (b : Bytes) (off len : Nat) :
    (slice b off len).length = min len (b.length - off) := by
  simp [slice, Nat.min_comm]

theorem slice_zero (b : Bytes) (off : Nat) : slice b off 0 = [] := List.take_zero _

theorem slice_append_left {a b : Bytes} {off len : Nat} (inside : off + len ≤ a.length) :
    slice (a ++ b) off len = slice a off len := by
  rw [slice, slice, List.drop_append_of_le_length (by omega),
    List.take_append_of_le_length (by simp; omega)]

theorem slice_append_right (a b : Bytes) (off len : Nat) :
    slice (a ++ b) (a.length + off) len = slice b off len := by
  rw [slice, slice, List.drop_append]

theorem slice_append_of_le {a b : Bytes} {off len : Nat} (past : a.length ≤ off) :
    slice (a ++ b) off len = slice b (off - a.length) len := by
  obtain ⟨k, rfl⟩ := Nat.exists_eq_add_of_le past
  rw [slice_append_right, Nat.add_sub_cancel_left]

theorem slice_append_exact (a b c : Bytes) : slice (a ++ b ++ c) a.length b.length = b := by
  rw [List.append_assoc, slice, List.drop_left' rfl, List.take_left' rfl]

theorem slice_take {b : Bytes} {n off len : Nat} (inside : off + len ≤ n) :
    slice (b.take n) off len = slice b off len := by
  simp only [slice, List.drop_take, List.take_take]
  congr 1
  omega

theorem take_slice {b : Bytes} {off len n : Nat} (within : n ≤ len) :
    (slice b off len).take n = slice b off n := by
  simp only [slice, List.take_take, Nat.min_eq_left within]

theorem slice_slice (b : Bytes) (off len off' len' : Nat) (inside : off' + len' ≤ len) :
    slice (slice b off len) off' len' = slice b (off + off') len' := by
  simp only [slice, List.drop_take, List.drop_drop, List.take_take]
  congr 1
  omega

@[simp] theorem length_patch (b : Bytes) (off : Nat) (v : Bytes) :
    (patch b off v).length = b.length := by
  simp only [patch, List.length_take, List.length_append, List.length_drop]
  omega

theorem patch_eq {b : Bytes} {off : Nat} (v : Bytes) (inside : off + v.length ≤ b.length) :
    patch b off v = b.take off ++ v ++ b.drop (off + v.length) :=
  List.take_of_length_le (by simp; omega)

theorem slice_patch_same {b : Bytes} {off : Nat} (v : Bytes) (inside : off + v.length ≤ b.length) :
    slice (patch b off v) off v.length = v := by
  have kept : (b.take off).length = off := by simp; omega
  have h := slice_append_exact (b.take off) v (b.drop (off + v.length))
  rwa [kept, ← patch_eq v inside] at h

theorem slice_patch_apart {b : Bytes} {off off' len : Nat} (v : Bytes)
    (inside : off + v.length ≤ b.length) (apart : off' + len ≤ off ∨ off + v.length ≤ off') :
    slice (patch b off v) off' len = slice b off' len := by
  rw [patch_eq v inside]
  rcases apart with before | after
  · rw [List.append_assoc, slice_append_left (by simp; omega), slice_take before]
  · have front : (b.take off ++ v).length = off + v.length := by simp; omega
    have whole : (b.take (off + v.length)).length = off + v.length := by simp; omega
    conv_rhs => rw [← List.take_append_drop (off + v.length) b]
    rw [slice_append_of_le (by omega), slice_append_of_le (by omega), front, whole]

/-! ## C strings -/

theorem cString_append_nul {a : Bytes} (clean : 0 ∉ a) (rest : Bytes) :
    cString (a ++ 0 :: rest) = a := by
  induction a with
  | nil => simp [cString]
  | cons x xs ih =>
    have hx : x ≠ 0 := fun h => clean (h ▸ List.mem_cons_self _ _)
    simp only [List.mem_cons, not_or] at clean
    simp only [cString, List.cons_append, List.takeWhile_cons, bne_iff_ne, ne_eq, hx,
      not_false_eq_true, ↓reduceIte, List.cons.injEq, true_and]
    exact ih clean.2

theorem cString_prefix (b : Bytes) : ∃ rest, b = cString b ++ rest :=
  ⟨b.dropWhile (· != 0), (List.takeWhile_append_dropWhile _ _).symm⟩

theorem nul_not_mem_cString (b : Bytes) : 0 ∉ cString b := by
  intro h
  simpa using List.mem_takeWhile_imp h

theorem take_cString_of_clean {b : Bytes} {n : Nat} (clean : 0 ∉ b.take n) :
    (cString b).take n = b.take n := by
  induction b generalizing n with
  | nil => simp [cString]
  | cons x xs ih =>
    cases n with
    | zero => simp
    | succ n =>
      have hx : x ≠ 0 := fun h => clean (by simp [h])
      simp only [List.take_succ_cons, List.mem_cons, not_or] at clean
      simp only [cString, List.takeWhile_cons, bne_iff_ne, ne_eq, hx, not_false_eq_true,
        ↓reduceIte, List.take_succ_cons, List.cons.injEq, true_and]
      exact ih clean.2

/-! ## Platforms -/

/-- The C data model ctypes follows: the width of a pointer and the byte order of integers. -/
structure Platform where
  pointerSize : Nat
  bigEndian : Bool
  pointer_size : pointerSize = 4 ∨ pointerSize = 8

/-- A 64-bit little-endian machine, as on x86-64 Linux. -/
def Platform.lp64 : Platform := ⟨8, false, .inr rfl⟩

/-- The four bytes of a `c_uint32` in memory. -/
def Platform.u32Bytes (p : Platform) (v : UInt32) : Bytes :=
  let n := v.toNat
  let little := [n, n / 0x100, n / 0x10000, n / 0x1000000].map UInt8.ofNat
  if p.bigEndian then little.reverse else little

/-- The `c_uint32` that four bytes hold, as ctypes and `struct.unpack('=L', ...)` read it. -/
def Platform.u32Of (p : Platform) (b : Bytes) : UInt32 :=
  let little := if p.bigEndian then b.reverse else b
  UInt32.ofNat (little.foldr (fun x acc => x.toNat + 0x100 * acc) 0)

@[simp] theorem length_u32Bytes (p : Platform) (v : UInt32) : (p.u32Bytes v).length = 4 := by
  unfold Platform.u32Bytes; split <;> rfl

@[simp] theorem u32Of_u32Bytes (p : Platform) (v : UInt32) : p.u32Of (p.u32Bytes v) = v := by
  have bound := v.toNat_lt_size
  apply UInt32.toNat.inj
  unfold Platform.u32Of Platform.u32Bytes
  cases p.bigEndian <;> simp [UInt32.size] at bound ⊢ <;> omega

theorem u32Bytes_injective (p : Platform) {v w : UInt32} (same : p.u32Bytes v = p.u32Bytes w) :
    v = w := by
  rw [← u32Of_u32Bytes p v, same, u32Of_u32Bytes]

end Kbus
