import Kbus.Layout
import Mathlib.Algebra.Group.Int

/-! `MessageId` and `OrigFrom`: pairs of `c_uint32`, compared by `__cmp__`, and the
offsetting `MessageId.__add__`, whose sum goes back into a `c_uint32`. -/
namespace Kbus

/-- What ctypes stores when a Python int is assigned to a `c_uint32`: the int mod 2^32. -/
def cUint32Of (v : Int) : UInt32 := UInt32.ofNat (v % 2 ^ 32).toNat

structure MessageId where
  networkId : UInt32
  serialNum : UInt32
deriving DecidableEq, Repr

structure OrigFrom where
  networkId : UInt32
  localId : UInt32
deriving DecidableEq, Repr

def MessageId.cmp (a b : MessageId) : Ordering :=
  if a.networkId = b.networkId then
    if a.serialNum = b.serialNum then .eq
    else if a.serialNum < b.serialNum then .lt
    else .gt
  else if a.networkId < b.networkId then .lt
  else .gt

def OrigFrom.cmp (a b : OrigFrom) : Ordering :=
  if a.networkId = b.networkId then
    if a.localId = b.localId then .eq
    else if a.localId < b.localId then .lt
    else .gt
  else if a.networkId < b.networkId then .lt
  else .gt

/-- Python 2 answers `a < b` through `__cmp__`. -/
def MessageId.Lt (a b : MessageId) : Prop := a.cmp b = .lt

instance (a b : MessageId) : Decidable (a.Lt b) := inferInstanceAs (Decidable (_ = _))

theorem uint32_lt_iff {a b : UInt32} : a < b ↔ a.toNat < b.toNat := Iff.rfl

/-! ## The order `__cmp__` gives -/

/-- The comparison both `__cmp__` methods make: by the first `c_uint32`, then by the
second. -/
def lexCmp (a₁ a₂ b₁ b₂ : UInt32) : Ordering :=
  if a₁ = b₁ then
    if a₂ = b₂ then .eq
    else if a₂ < b₂ then .lt
    else .gt
  else if a₁ < b₁ then .lt
  else .gt

theorem MessageId.cmp_eq_lexCmp (a b : MessageId) :
    a.cmp b = lexCmp a.networkId a.serialNum b.networkId b.serialNum := rfl

theorem OrigFrom.cmp_eq_lexCmp (a b : OrigFrom) :
    a.cmp b = lexCmp a.networkId a.localId b.networkId b.localId := rfl

theorem uint32_eq_iff {a b : UInt32} : a = b ↔ a.toNat = b.toNat := ⟨congrArg _, UInt32.toNat.inj⟩

section Lex

variable (a₁ a₂ b₁ b₂ : UInt32)

theorem lexCmp_lt_iff :
    lexCmp a₁ a₂ b₁ b₂ = .lt ↔ a₁ < b₁ ∨ a₁ = b₁ ∧ a₂ < b₂ := by
  simp only [lexCmp, uint32_eq_iff, uint32_lt_iff]
  split_ifs <;> simp <;> omega

theorem lexCmp_swap : lexCmp b₁ b₂ a₁ a₂ = (lexCmp a₁ a₂ b₁ b₂).swap := by
  simp only [lexCmp, uint32_eq_iff, uint32_lt_iff]
  split_ifs <;> first | rfl | omega

end Lex

theorem lexCmp_lt_trans {a₁ a₂ b₁ b₂ c₁ c₂ : UInt32} (ab : lexCmp a₁ a₂ b₁ b₂ = .lt)
    (bc : lexCmp b₁ b₂ c₁ c₂ = .lt) : lexCmp a₁ a₂ c₁ c₂ = .lt := by
  rw [lexCmp_lt_iff, uint32_eq_iff, uint32_lt_iff, uint32_lt_iff] at ab bc ⊢
  omega

/-- `MessageId.__cmp__` and `OrigFrom.__cmp__` order their pairs lexicographically, by
`network_id` first: `<` is that order, it is transitive, and swapping the operands swaps
the answer, so `<`, `==` and `>` agree with each other as Python's sorting needs. -/
theorem cmp_lexicographic :
    (∀ a b : MessageId, a.Lt b ↔ a.networkId < b.networkId ∨
        a.networkId = b.networkId ∧ a.serialNum < b.serialNum) ∧
      (∀ a b : MessageId, b.cmp a = (a.cmp b).swap) ∧
      (∀ a b c : MessageId, a.Lt b → b.Lt c → a.Lt c) ∧
      (∀ a b : OrigFrom, a.cmp b = .lt ↔ a.networkId < b.networkId ∨
        a.networkId = b.networkId ∧ a.localId < b.localId) ∧
      (∀ a b : OrigFrom, b.cmp a = (a.cmp b).swap) ∧
      (∀ a b c : OrigFrom, a.cmp b = .lt → b.cmp c = .lt → a.cmp c = .lt) :=
  ⟨fun _ _ => lexCmp_lt_iff .., fun _ _ => lexCmp_swap .., fun _ _ _ => lexCmp_lt_trans,
    fun _ _ => lexCmp_lt_iff .., fun _ _ => lexCmp_swap .., fun _ _ _ => lexCmp_lt_trans⟩

def MessageId.add (a : MessageId) (other : Int) : MessageId :=
  ⟨a.networkId, cUint32Of (a.serialNum.toNat + other)⟩

theorem MessageId.cmp_eq_iff {a b : MessageId} : a.cmp b = .eq ↔ a = b := by
  cases a; cases b
  simp only [cmp, mk.injEq]
  split_ifs <;> simp_all

theorem OrigFrom.cmp_eq_iff {a b : OrigFrom} : a.cmp b = .eq ↔ a = b := by
  cases a; cases b
  simp only [cmp, mk.injEq]
  split_ifs <;> simp_all

@[simp] theorem MessageId.cmp_self (a : MessageId) : a.cmp a = .eq := MessageId.cmp_eq_iff.2 rfl

@[simp] theorem OrigFrom.cmp_self (a : OrigFrom) : a.cmp a = .eq := OrigFrom.cmp_eq_iff.2 rfl


theorem toNat_cUint32Of (v : Int) (lo : 0 ≤ v) (hi : v < 2 ^ 32) : (cUint32Of v).toNat = v.toNat := by
  simp only [cUint32Of, uint32_toNat_ofNat]
  omega

theorem MessageId.add_networkId (a : MessageId) (other : Int) :
    (a.add other).networkId = a.networkId := rfl

/-- The serial number an offset produces wraps at 2^32. -/
theorem MessageId.add_serialNum (a : MessageId) (other : Int) :
    ((a.add other).serialNum.toNat : Int) = (a.serialNum.toNat + other) % 2 ^ 32 := by
  simp only [add, cUint32Of, uint32_toNat_ofNat]
  omega

/-- Offsets that keep the serial number below 2^32 give increasing ids on one network. -/
theorem MessageId.add_lt_add_of_room (a : MessageId) (j k : Int) (nonneg : 0 ≤ j) (less : j < k)
    (room : a.serialNum.toNat + k < 2 ^ 32) :
    (a.add j).Lt (a.add k) ∧ (a.add j).networkId = a.networkId ∧
      (a.add k).networkId = a.networkId := by
  have hj := toNat_cUint32Of (a.serialNum.toNat + j) (by omega) (by omega)
  have hk := toNat_cUint32Of (a.serialNum.toNat + k) (by omega) (by omega)
  have lt : (a.add j).serialNum < (a.add k).serialNum := by
    rw [uint32_lt_iff]; simp only [add]; omega
  refine ⟨?_, rfl, rfl⟩
  simp [Lt, cmp, add_networkId, lt, UInt32.ne_of_lt lt]

theorem MessageId.add_lt_add_one_two : 0 ≤ (1 : Int) ∧ (1 : Int) < 2 ∧
    (MessageId.mk 1 2).serialNum.toNat + 2 < 2 ^ 32 ∧
    ((MessageId.mk 1 2).add 1).Lt ((MessageId.mk 1 2).add 2) :=
  ⟨by decide, by decide, by decide,
    (MessageId.add_lt_add_of_room ⟨1, 2⟩ 1 2 (by decide) (by decide) (by decide)).1⟩

/-- At the top serial number an offset of one wraps to zero, below the offset of zero. -/
theorem MessageId.add_wraps_at_top :
    0 ≤ (0 : Int) ∧ (0 : Int) < 1 ∧ ¬ ((MessageId.mk 0 0xFFFFFFFF).add 0).Lt ((MessageId.mk 0 0xFFFFFFFF).add 1) := by
  decide

end Kbus
