import Kbus.Codec
import Kbus.Merge
import Kbus.Mutators

/-! `==` and `equivalent()`. `_same_message_struct` compares every header field a message
carries, and the data only where `data_len` is not zero; `_equivalent_message_struct`
keeps of these only `to`, the lengths, the name and the data. Both are therefore
equivalence relations on every pair of messages, whichever form holds them. On messages
whose header counts what they hold, `==` is equality of `extract()` and `equivalent()` is
agreement on `to`, `name` and `data`, so the header fields a sender or KBUS fills in, and
any run of the flag setters, never change what `equivalent()` says. -/
namespace Kbus

variable {p : Platform}

/-! ## What the two comparisons read -/

/-- The data the comparisons read: none where `data_len` is zero. -/
def Fields.comparedData (f : Fields) : Bytes := if f.dataLen = 0 then [] else f.cData

/-- What `_same_message_struct` compares. -/
def Fields.sameKey (f : Fields) : Fields := { f with cData := f.comparedData }

/-- What `_equivalent_message_struct` compares: of what `_same_message_struct` compares,
`to`, the lengths, the name and the data. -/
def Fields.equivalentKey (f : Fields) : UInt32 × UInt32 × UInt32 × Bytes × Bytes :=
  (f.sameKey.to_, f.sameKey.nameLen, f.sameKey.dataLen, f.sameKey.name, f.sameKey.cData)

theorem ordering_bne_eq (o : Ordering) : (o != .eq) = !decide (o = .eq) := by
  cases o <;> rfl

theorem ite_false_eq_true {c : Prop} [Decidable c] {d : Bool} :
    ((if c then false else d) = true) ↔ ¬c ∧ d = true := by
  by_cases h : c <;> simp [h]

theorem sameMessageStruct_iff (a b : MessageStruct p) :
    sameMessageStruct a b = true ↔ a.fields.sameKey = b.fields.sameKey := by
  simp only [sameMessageStruct, MessageStruct.fields, Fields.sameKey, Fields.comparedData,
    Fields.mk.injEq, ordering_bne_eq, bne_iff_ne, ne_eq, MessageId.cmp_eq_iff,
    OrigFrom.cmp_eq_iff, Bool.or_eq_true, Bool.not_eq_true', decide_eq_false_iff_not,
    decide_eq_true_eq, beq_iff_eq, ite_false_eq_true, not_or, not_not]
  by_cases sameLen : a.dataLen = b.dataLen
  · by_cases zero : b.dataLen = 0 <;> simp [sameLen, zero, and_assoc]
  · simp [sameLen]

theorem equivalentMessageStruct_iff (a b : MessageStruct p) :
    equivalentMessageStruct a b = true ↔ a.fields.equivalentKey = b.fields.equivalentKey := by
  simp only [equivalentMessageStruct, MessageStruct.fields, Fields.equivalentKey, Fields.sameKey,
    Fields.comparedData, Prod.mk.injEq, bne_iff_ne, ne_eq, Bool.or_eq_true, decide_eq_true_eq,
    beq_iff_eq, ite_false_eq_true, not_or, not_not]
  by_cases sameLen : a.dataLen = b.dataLen
  · by_cases zero : b.dataLen = 0 <;> simp [sameLen, zero, and_assoc]
  · simp [sameLen]

theorem Message.equals_iff_sameKey (a b : Message p) :
    a.equals b = true ↔ a.msg.fields.sameKey = b.msg.fields.sameKey :=
  sameMessageStruct_iff a.msg b.msg

theorem Message.equivalent_iff_key (a b : Message p) :
    a.equivalent b = true ↔ a.msg.fields.equivalentKey = b.msg.fields.equivalentKey :=
  equivalentMessageStruct_iff a.msg b.msg

/-- A relation that compares one key of its two sides. -/
theorem equivalence_of_key {α β : Type} {r : α → α → Prop} (key : α → β)
    (iff : ∀ a b, r a b ↔ key a = key b) : Equivalence r where
  refl a := (iff a a).2 rfl
  symm h := (iff _ _).2 ((iff _ _).1 h).symm
  trans h₁ h₂ := (iff _ _).2 (((iff _ _).1 h₁).trans ((iff _ _).1 h₂))

/-- `==` and `equivalent()` are equivalence relations on all messages, whichever form holds
them, and `==` implies `equivalent()`. -/
theorem message_comparisons_are_equivalences :
    Equivalence (fun a b : Message p => a.equals b = true) ∧
      Equivalence (fun a b : Message p => a.equivalent b = true) ∧
      ∀ a b : Message p, a.equals b = true → a.equivalent b = true :=
  ⟨equivalence_of_key _ Message.equals_iff_sameKey,
    equivalence_of_key _ Message.equivalent_iff_key,
    fun a b same => (Message.equivalent_iff_key a b).2
      (congrArg (fun k : Fields => (k.to_, k.nameLen, k.dataLen, k.name, k.cData))
        ((Message.equals_iff_sameKey a b).1 same))⟩

/-! ## Read through `extract()` -/

section Consistent

variable {f g : Fields}

theorem Fields.comparedData_eq (f : Fields) : f.comparedData = f.extract.data.getD [] := by
  unfold comparedData Fields.extract; split <;> rfl

theorem Fields.data_extract (f : Fields) :
    f.extract.data = if f.dataLen = 0 then none else some f.comparedData := by
  unfold comparedData Fields.extract; split <;> rfl

theorem Fields.extract_sameKey (f : Fields) : f.sameKey.extract = f.extract := by
  simp only [sameKey, Fields.extract, comparedData]
  split <;> rfl

theorem Fields.Consistent.name_extract (consistent : f.Consistent) : f.extract.name = f.name :=
  List.take_of_length_le consistent.name_counted.le

theorem Fields.Consistent.nameLen_eq (consistent : f.Consistent) :
    f.nameLen = UInt32.ofNat f.extract.name.length := by
  rw [consistent.name_extract, consistent.name_counted, uint32_ofNat_toNat]

theorem Fields.Consistent.dataLen_eq (consistent : f.Consistent) :
    f.dataLen = UInt32.ofNat (f.extract.data.getD []).length := by
  rw [← comparedData_eq, comparedData]
  split
  · rename_i zero; rw [zero]; rfl
  · rw [consistent.data_counted, uint32_ofNat_toNat]

/-- Between consistent structures, `equivalent()` is agreement on `to` and on the `name`
and `data` that `extract()` reads. -/
theorem Fields.equivalentKey_eq_iff (cf : f.Consistent) (cg : g.Consistent) :
    f.equivalentKey = g.equivalentKey ↔
      f.to_ = g.to_ ∧ f.extract.name = g.extract.name ∧ f.extract.data = g.extract.data := by
  simp only [equivalentKey, sameKey, Prod.mk.injEq]
  constructor
  · rintro ⟨sameTo, -, dataLen, name, data⟩
    refine ⟨sameTo, by rw [cf.name_extract, cg.name_extract, name], ?_⟩
    rw [f.data_extract, g.data_extract, dataLen, data]
  · rintro ⟨sameTo, name, data⟩
    refine ⟨sameTo, by rw [cf.nameLen_eq, cg.nameLen_eq, name],
      by rw [cf.dataLen_eq, cg.dataLen_eq, data], by rw [← cf.name_extract, ← cg.name_extract, name],
      by rw [f.comparedData_eq, g.comparedData_eq, data]⟩

end Consistent

/-- On messages whose header counts what they hold, `==` is equality of `extract()`. -/
theorem Message.equals_iff_extract {a b : Message p} (ca : a.msg.fields.Consistent)
    (cb : b.msg.fields.Consistent) : a.equals b = true ↔ a.extract = b.extract := by
  refine ⟨fun same => ?_, Message.equals_of_extract ca cb⟩
  rw [a.extract_eq, b.extract_eq, ← Fields.extract_sameKey, (a.equals_iff_sameKey b).1 same,
    Fields.extract_sameKey]

theorem equals_iff_extract_fred :
    ∃ a b : Message Platform.lp64,
      Message.init Platform.lp64 (ascii "$.Fred") (some (ascii "1234")) none none none none none
        none none = .ok a ∧
      Message.init Platform.lp64 (ascii "$.Fred") (some (ascii "1234")) (some 3) none none none
        none none none = .ok b ∧
      a.msg.fields.Consistent ∧ b.msg.fields.Consistent ∧
      (a.equals b = true ↔ a.extract = b.extract) := by
  obtain ⟨a, madeA⟩ : ∃ a : Message Platform.lp64,
      Message.init Platform.lp64 (ascii "$.Fred") (some (ascii "1234")) none none none none none
        none none = .ok a := ⟨_, rfl⟩
  obtain ⟨b, madeB⟩ : ∃ b : Message Platform.lp64,
      Message.init Platform.lp64 (ascii "$.Fred") (some (ascii "1234")) (some 3) none none none
        none none none = .ok b := ⟨_, rfl⟩
  have ca := (Built.ofMessageInit madeA).consistent (by decide) (by decide)
  have cb := (Built.ofMessageInit madeB).consistent (by decide) (by decide)
  exact ⟨a, b, madeA, madeB, ca, cb, Message.equals_iff_extract ca cb⟩

/-- On messages whose header counts what they hold, `equivalent()` is agreement on `to`,
`name` and `data`: `id`, `in_reply_to`, `from_`, `orig_from`, `final_to` and `flags` are
not compared. -/
theorem Message.equivalent_iff {a b : Message p} (ca : a.msg.fields.Consistent)
    (cb : b.msg.fields.Consistent) :
    a.equivalent b = true ↔ a.to_ = b.to_ ∧ a.name = b.name ∧ a.data = b.data :=
  (a.equivalent_iff_key b).trans (Fields.equivalentKey_eq_iff ca cb)

theorem equivalent_iff_fred :
    ∃ a b : Message Platform.lp64,
      Message.init Platform.lp64 (ascii "$.Fred") (some (ascii "1234")) none none none none none
        none none = .ok a ∧
      Message.init Platform.lp64 (ascii "$.Fred") (some (ascii "1234")) none (some 27) none none
        none none (some ⟨0, 132⟩) = .ok b ∧
      a.msg.fields.Consistent ∧ b.msg.fields.Consistent ∧
      (a.equivalent b = true ↔ a.to_ = b.to_ ∧ a.name = b.name ∧ a.data = b.data) := by
  obtain ⟨a, madeA⟩ : ∃ a : Message Platform.lp64,
      Message.init Platform.lp64 (ascii "$.Fred") (some (ascii "1234")) none none none none none
        none none = .ok a := ⟨_, rfl⟩
  obtain ⟨b, madeB⟩ : ∃ b : Message Platform.lp64,
      Message.init Platform.lp64 (ascii "$.Fred") (some (ascii "1234")) none (some 27) none none
        none none (some ⟨0, 132⟩) = .ok b := ⟨_, rfl⟩
  have ca := (Built.ofMessageInit madeA).consistent (by decide) (by decide)
  have cb := (Built.ofMessageInit madeB).consistent (by decide) (by decide)
  exact ⟨a, b, madeA, madeB, ca, cb, Message.equivalent_iff ca cb⟩

/-! ## What keeps `equivalent()` -/

@[simp] theorem Fields.equivalentKey_flags (f : Fields) (v : UInt32) :
    { f with flags := v }.equivalentKey = f.equivalentKey := rfl

theorem Fields.eq_of_rest {f g : Fields} (rest : { f with flags := 0 } = { g with flags := 0 })
    (flags : f.flags = g.flags) : f = g := by
  cases f; cases g
  simp_all

/-- After any run of `set_urgent` and `set_want_reply` calls, each one's exception caught, the
message is `equivalent()` to what it was, and `==` to it exactly when its flags came back to
what they were. -/
theorem runMutators_equivalent (m : Message p) (calls : List MutatorCall) :
    (runMutators m calls).equivalent m = true ∧
      ((runMutators m calls).equals m = true ↔ (runMutators m calls).flags = m.flags) := by
  have rest := (runMutators_flagsChanged m calls).rest_eq
  refine ⟨(Message.equivalent_iff_key _ _).2 ?_, Message.equals_iff_sameKey _ _ |>.trans ?_⟩
  · rw [← Fields.equivalentKey_flags _ 0, rest, Fields.equivalentKey_flags]
  · exact ⟨congrArg Fields.flags, fun flags => by rw [Fields.eq_of_rest rest flags]⟩

/-- A class's own steps change only `in_reply_to`, `orig_from`, `final_to` and `flags`. -/
theorem MessageClass.finish_equivalentKey {cls : MessageClass} {s : MessageStruct p}
    {m : Message p} (finished : cls.finish s = .ok m) :
    m.msg.fields.equivalentKey = s.fields.equivalentKey := by
  obtain ⟨-, ⟨-, same⟩ | ⟨-, same⟩ | ⟨-, -, same, -⟩⟩ := MessageClass.finish_ok finished <;>
    rw [same] <;> rfl

/-- The key the comparisons read off a structure built from a tuple depends only on its
`to`, `name` and `data`. -/
theorem Extracted.equivalentKey_fields {x y : Extracted} (sameTo : x.to_ = y.to_)
    (name : x.name = y.name) (data : x.data = y.data) :
    x.fields.equivalentKey = y.fields.equivalentKey := by
  simp only [Extracted.fields, Fields.equivalentKey, Fields.sameKey, Fields.comparedData, sameTo,
    name, data]

/-- `from_message(m, ...)` and `from_sequence(m.extract(), ...)` of every class, given only
header overrides (`from_`, `orig_from`, `final_to`, `in_reply_to`, `flags`, `id`), return a
message `equivalent()` to `m` whenever they return, once `m`'s header counts what it holds. -/
theorem fromMessage_equivalent {m m' : Message p} (consistent : m.msg.fields.Consistent)
    (cls : MessageClass) (from_ : Option UInt32) (origFrom finalTo : Option OrigFrom)
    (inReplyTo : Option MessageId) (flags : Option UInt32) (id : Option MessageId)
    (finished : cls.finish (.pointy (mergeArgs m.extract none none from_ origFrom finalTo
      inReplyTo flags id)) = .ok m') :
    m'.equivalent m = true := by
  have normal := m.extract_normal consistent.data_counted
  have dataShort : ((none.or m.extract.data).getD []).length < 2 ^ 32 := normal.data_short
  rw [Message.equivalent_iff_key, MessageClass.finish_equivalentKey finished, mergeArgs_eq,
    fields_fromData normal.name_clean dataShort, ← Fields.fields_extract consistent,
    ← m.extract_eq]
  exact Extracted.equivalentKey_fields rfl rfl (readData_of_normal normal)

theorem fromMessage_equivalent_fred :
    ∃ m m' : Message Platform.lp64,
      Message.init Platform.lp64 (ascii "$.Fred") (some (ascii "1234")) none none none none none
        none none = .ok m ∧
      m.msg.fields.Consistent ∧
      MessageClass.request.finish (.pointy (mergeArgs m.extract none none (some 27) none none none
        none none)) = .ok m' ∧
      m'.equivalent m = true := by
  obtain ⟨m, made⟩ : ∃ m : Message Platform.lp64,
      Message.init Platform.lp64 (ascii "$.Fred") (some (ascii "1234")) none none none none none
        none none = .ok m := ⟨_, rfl⟩
  have consistent := (Built.ofMessageInit made).consistent (by decide) (by decide)
  exact ⟨m, _, made, consistent, rfl,
    fromMessage_equivalent consistent .request (some 27) none none none none none rfl⟩

end Kbus
