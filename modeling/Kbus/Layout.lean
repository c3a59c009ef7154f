import Kbus.Bytes

/-! The ctypes layout rule for a `Structure`: each field at the first offset past the
previous one that its alignment allows, the whole rounded up to its largest alignment.
`pack` is a fresh instance (a zero-filled buffer with every field stored) and `fieldAt`
a field read; the frame's sizes and offsets are all computed by these. -/
namespace Kbus

/-- A ctypes type, by what the layout rule reads of it. -/
structure CType where
  size : Nat
  align : Nat
  align_pos : 0 < align
deriving DecidableEq

/-- The first multiple of `align` at or past `cur`. -/
def alignUp (cur align : Nat) : Nat := (cur + align - 1) / align * align

def offsetsFrom : Nat → List CType → List Nat
  | _, [] => []
  | cur, t :: ts => alignUp cur t.align :: offsetsFrom (alignUp cur t.align + t.size) ts

def endFrom : Nat → List CType → Nat
  | cur, [] => cur
  | cur, t :: ts => endFrom (alignUp cur t.align + t.size) ts

def alignOf (ts : List CType) : Nat := ts.foldr (fun t a => max t.align a) 1

theorem alignOf_pos (ts : List CType) : 0 < alignOf ts := by
  induction ts with
  | nil => exact Nat.one_pos
  | cons t ts ih => exact Nat.lt_of_lt_of_le ih (Nat.le_max_right _ _)

/-- The type of a `Structure` subclass with these `_fields_`. -/
def cStruct (ts : List CType) : CType :=
  ⟨alignUp (endFrom 0 ts) (alignOf ts), alignOf ts, alignOf_pos ts⟩

def offsetOf (ts : List CType) (i : Nat) : Nat := (offsetsFrom 0 ts).getD i 0

def fieldSize (ts : List CType) (i : Nat) : Nat := (ts.map CType.size).getD i 0

/-- Reading field `i` of a structure held in `buf`. -/
def fieldAt (ts : List CType) (buf : Bytes) (i : Nat) : Bytes :=
  slice buf (offsetOf ts i) (fieldSize ts i)

/-- Assigning field `i` of a structure held in `buf`. -/
def setField (ts : List CType) (buf : Bytes) (i : Nat) (v : Bytes) : Bytes :=
  patch buf (offsetOf ts i) v

def packFrom : Nat → List (CType × Bytes) → Bytes
  | _, [] => []
  | cur, (t, v) :: fs =>
    zeros (alignUp cur t.align - cur) ++ v ++ packFrom (alignUp cur t.align + t.size) fs

/-- A fresh instance: the zero-filled buffer of the structure with each field stored. -/
def pack (fs : List (CType × Bytes)) : Bytes :=
  let body := packFrom 0 fs
  body ++ zeros ((cStruct (fs.map Prod.fst)).size - body.length)

/-- Every field value has the size of its type. -/
def Sized (fs : List (CType × Bytes)) : Prop := ∀ f ∈ fs, f.2.length = f.1.size

theorem le_alignUp (cur : Nat) {align : Nat} (pos : 0 < align) : cur ≤ alignUp cur align := by
  have : cur + align - 1 < (cur + align - 1) / align * align + align := Nat.lt_div_mul_add pos
  unfold alignUp; omega

theorem alignUp_lt (cur : Nat) {align : Nat} (pos : 0 < align) : alignUp cur align < cur + align := by
  have := Nat.div_mul_le_self (cur + align - 1) align
  unfold alignUp; omega

theorem alignUp_of_dvd {cur align : Nat} (pos : 0 < align) (aligned : align ∣ cur) :
    alignUp cur align = cur := by
  obtain ⟨k, rfl⟩ := aligned
  have : (align * k + align - 1) / align = k :=
    Nat.div_eq_of_lt_le (by rw [Nat.mul_comm]; omega) (by rw [Nat.succ_mul, Nat.mul_comm]; omega)
  rw [alignUp, this, Nat.mul_comm]

@[simp] theorem alignUp_one (cur : Nat) : alignUp cur 1 = cur := by simp [alignUp]

theorem le_endFrom (cur : Nat) (ts : List CType) : cur ≤ endFrom cur ts := by
  induction ts generalizing cur with
  | nil => exact le_rfl
  | cons t ts ih => exact (le_alignUp cur t.align_pos).trans ((Nat.le_add_right _ _).trans (ih _))

theorem length_packFrom (cur : Nat) (fs : List (CType × Bytes)) (sized : Sized fs) :
    (packFrom cur fs).length + cur = endFrom cur (fs.map Prod.fst) := by
  induction fs generalizing cur with
  | nil => simp [packFrom, endFrom]
  | cons f fs ih =>
    obtain ⟨t, v⟩ := f
    have hv : v.length = t.size := sized _ (List.mem_cons_self _ _)
    have rest := ih (alignUp cur t.align + t.size) (fun g hg => sized g (List.mem_cons_of_mem _ hg))
    have := le_alignUp cur t.align_pos
    simp only [packFrom, endFrom, List.map_cons, List.length_append, length_zeros, hv] at rest ⊢
    omega

theorem length_pack (fs : List (CType × Bytes)) (sized : Sized fs) :
    (pack fs).length = (cStruct (fs.map Prod.fst)).size := by
  have body := length_packFrom 0 fs sized
  have := le_alignUp (endFrom 0 (fs.map Prod.fst)) (cStruct (fs.map Prod.fst)).align_pos
  simp only [pack, cStruct, List.length_append, length_zeros] at body this ⊢
  omega

theorem slice_packFrom (fs : List (CType × Bytes)) (sized : Sized fs) (cur : Nat)
    (pre post : Bytes) (before : pre.length = cur) (i : Nat) (hi : i < fs.length) :
    slice (pre ++ packFrom cur fs ++ post) ((offsetsFrom cur (fs.map Prod.fst)).getD i 0)
      (fs[i].1.size) = fs[i].2 := by
  induction fs generalizing cur pre i with
  | nil => simp at hi
  | cons f fs ih =>
    obtain ⟨t, v⟩ := f
    have hv : v.length = t.size := sized _ (List.mem_cons_self _ _)
    have grow := le_alignUp cur t.align_pos
    cases i with
    | zero =>
      have hz : (pre ++ zeros (alignUp cur t.align - cur)).length = alignUp cur t.align := by
        simp; omega
      have h := slice_append_exact (pre ++ zeros (alignUp cur t.align - cur)) v
        (packFrom (alignUp cur t.align + t.size) fs ++ post)
      simp only [hz, hv, List.append_assoc] at h
      simpa [packFrom, offsetsFrom, List.append_assoc] using h
    | succ i =>
      have h := ih (fun g hg => sized g (List.mem_cons_of_mem _ hg)) (alignUp cur t.align + t.size)
        (pre ++ zeros (alignUp cur t.align - cur) ++ v) (by simp [hv]; omega) i
        (by simpa using hi)
      simpa [packFrom, offsetsFrom, List.append_assoc] using h

theorem fieldAt_pack (fs : List (CType × Bytes)) (sized : Sized fs) (i : Nat) (hi : i < fs.length) :
    fieldAt (fs.map Prod.fst) (pack fs) i = fs[i].2 := by
  have h := slice_packFrom fs sized 0 [] (zeros ((cStruct (fs.map Prod.fst)).size -
    (packFrom 0 fs).length)) rfl i hi
  simpa [fieldAt, offsetOf, fieldSize, pack, hi] using h

end Kbus
