import Kbus.Fields

/-! Runs of the public mutators. A program may call `set_urgent` and `set_want_reply` in
any order, any number of times, catching what they raise. Whatever the run, the message
keeps its class and every field but `flags`; of `flags` only URGENT and WANT_A_REPLY
change, each to the value of the last call that sets it, and WANT_A_REPLY not at all on
an Announcement or a Request, whose `set_want_reply` always raises. -/
namespace Kbus

variable {p : Platform}

/-- A call of `set_urgent(value)` or `set_want_reply(value)`. -/
inductive MutatorCall
  | setUrgent (value : Bool)
  | setWantReply (value : Bool)

namespace MutatorCall

/-- The object after the call, as a caller that catches the exception sees it: a call that
raises leaves the object as it was. -/
def apply (m : Message p) : MutatorCall → Message p
  | setUrgent value => m.setUrgent value
  | setWantReply value =>
    match m.setWantReply value with
    | .ok m' => m'
    | .error _ => m

def urgentValue : MutatorCall → Option Bool
  | setUrgent value => some value
  | setWantReply _ => none

def wantReplyValue : MutatorCall → Option Bool
  | setUrgent _ => none
  | setWantReply value => some value

end MutatorCall

def runMutators (m : Message p) (calls : List MutatorCall) : Message p :=
  calls.foldl MutatorCall.apply m

/-- The value the last call of `calls` that `pick` reads one from gives. -/
def lastValue (pick : MutatorCall → Option Bool) : List MutatorCall → Option Bool
  | [] => none
  | c :: cs => (lastValue pick cs).or (pick c)

/-- `set_want_reply` raises on these classes whatever its argument. -/
def MessageClass.refusesWantReply : MessageClass → Bool
  | .announcement | .request => true
  | _ => false

/-- `m'` is `m` with at most URGENT and WANT_A_REPLY changed, to `urgent` and `wantReply`
where these are given. -/
structure FlagsChanged (m m' : Message p) (urgent wantReply : Option Bool) : Prop where
  cls_eq : m'.cls = m.cls
  rest_eq : { m'.msg.fields with flags := 0 } = { m.msg.fields with flags := 0 }
  others_eq : m'.flags &&& ~~~(Message.urgent ||| Message.wantAReply) =
    m.flags &&& ~~~(Message.urgent ||| Message.wantAReply)
  isUrgent_eq : m'.isUrgent = urgent.getD m.isUrgent
  isRequest_eq : m'.isRequest = wantReply.getD m.isRequest

theorem FlagsChanged.refl (m : Message p) : FlagsChanged m m none none :=
  ⟨rfl, rfl, rfl, rfl, rfl⟩

theorem option_getD_or (a b : Option Bool) (x : Bool) : (a.or b).getD x = a.getD (b.getD x) := by
  cases a <;> rfl

theorem FlagsChanged.trans {m m₁ m₂ : Message p} {u₁ w₁ u₂ w₂ : Option Bool}
    (first : FlagsChanged m m₁ u₁ w₁) (second : FlagsChanged m₁ m₂ u₂ w₂) :
    FlagsChanged m m₂ (u₂.or u₁) (w₂.or w₁) where
  cls_eq := second.cls_eq.trans first.cls_eq
  rest_eq := second.rest_eq.trans first.rest_eq
  others_eq := second.others_eq.trans first.others_eq
  isUrgent_eq := by rw [second.isUrgent_eq, first.isUrgent_eq, option_getD_or]
  isRequest_eq := by rw [second.isRequest_eq, first.isRequest_eq, option_getD_or]

/-! ## One call -/

section OneFlag

variable (f w : UInt32) (value : Bool)

/-- The flags word `set_urgent` and `set_want_reply` store. -/
theorem setOrClear_and_self (nonzero : w ≠ 0) :
    ((if value then setBit f w else clearBit f w) &&& w != 0) = value := by
  cases value
  · simp [clearBit_and_self]
  · simpa [setBit_and_self] using nonzero

theorem setOrClear_and_of_disjoint {u : UInt32} (apart : w &&& u = 0) :
    (if value then setBit f w else clearBit f w) &&& u = f &&& u := by
  cases value
  · exact clearBit_and_of_disjoint f apart
  · exact setBit_and_of_disjoint f apart

end OneFlag

theorem flagsChanged_setFlags (m : Message p) (v : UInt32) (urgent wantReply : Option Bool)
    (others : v &&& ~~~(Message.urgent ||| Message.wantAReply) =
      m.flags &&& ~~~(Message.urgent ||| Message.wantAReply))
    (isUrgent : (v &&& Message.urgent != 0) = urgent.getD m.isUrgent)
    (isRequest : (v &&& Message.wantAReply != 0) = wantReply.getD m.isRequest) :
    FlagsChanged m ⟨m.cls, m.msg.setFlags v⟩ urgent wantReply := by
  have fields := MessageStruct.fields_setFlags m.msg v
  have flags : (m.msg.setFlags v).flags = v := congrArg Fields.flags fields
  refine ⟨rfl, by rw [fields], ?_, ?_, ?_⟩
  · show (m.msg.setFlags v).flags &&& _ = _
    rw [flags, others]
  · show ((m.msg.setFlags v).flags &&& _ != 0) = _
    rw [flags, isUrgent]
  · show ((m.msg.setFlags v).flags &&& _ != 0) = _
    rw [flags, isRequest]

theorem MutatorCall.apply_flagsChanged (m : Message p) (c : MutatorCall) :
    FlagsChanged m (c.apply m) c.urgentValue
      (if m.cls.refusesWantReply then none else c.wantReplyValue) := by
  have urgentApart : Message.urgent &&& Message.wantAReply = 0 := by decide
  have wantApart : Message.wantAReply &&& Message.urgent = 0 := by decide
  cases c with
  | setUrgent value =>
    apply flagsChanged_setFlags
    · exact setOrClear_and_of_disjoint _ _ value (by decide)
    · exact setOrClear_and_self _ _ value (by decide)
    · rw [setOrClear_and_of_disjoint _ _ value urgentApart, MutatorCall.wantReplyValue, ite_self]
      rfl
  | setWantReply value =>
    obtain ⟨cls, msg⟩ := m
    cases cls
    case announcement => exact FlagsChanged.refl _
    case request => exact FlagsChanged.refl _
    all_goals
      apply flagsChanged_setFlags
      · exact setOrClear_and_of_disjoint _ _ value (by decide)
      · rw [setOrClear_and_of_disjoint _ _ value wantApart]
        rfl
      · exact setOrClear_and_self _ _ value (by decide)

/-! ## Whole runs -/

@[simp] theorem runMutators_cons (m : Message p) (c : MutatorCall) (cs : List MutatorCall) :
    runMutators m (c :: cs) = runMutators (c.apply m) cs := rfl

/-- Any run of `set_urgent` and `set_want_reply` calls, each one's exception caught: the class
and every field but `flags` stay; of `flags` only URGENT and WANT_A_REPLY change, each to the
value of the last call that sets it, and WANT_A_REPLY never on an Announcement or a Request. -/
theorem runMutators_flagsChanged (m : Message p) (calls : List MutatorCall) :
    FlagsChanged m (runMutators m calls) (lastValue MutatorCall.urgentValue calls)
      (if m.cls.refusesWantReply then none else lastValue MutatorCall.wantReplyValue calls) := by
  induction calls generalizing m with
  | nil => simpa only [lastValue, ite_self] using FlagsChanged.refl m
  | cons c cs ih =>
    have step := c.apply_flagsChanged m
    have rest := ih (c.apply m)
    rw [step.cls_eq] at rest
    have run := step.trans rest
    rw [runMutators_cons, lastValue, lastValue]
    generalize m.cls.refusesWantReply = refuses at run ⊢
    cases refuses <;> exact run

/-- What `extract()` reads is kept but for `flags`. -/
theorem FlagsChanged.extract_eq {m m' : Message p} {urgent wantReply : Option Bool}
    (changed : FlagsChanged m m' urgent wantReply) :
    m'.extract = { m.extract with flags := m'.flags } := by
  have rest := changed.rest_eq
  simp only [MessageStruct.fields, Fields.mk.injEq, and_true] at rest
  obtain ⟨id, inReplyTo, to_, from_, origFrom, finalTo, nameLen, dataLen, name, cData⟩ := rest
  simp only [Message.extract, Message.id, Message.inReplyTo, Message.to_, Message.from_,
    Message.origFrom, Message.finalTo, Message.name, Message.data, id, inReplyTo, to_, from_,
    origFrom, finalTo, nameLen, dataLen, name, cData]

/-- Any run of `set_urgent` and `set_want_reply` calls, each one's exception caught, keeps
the object's class and everything `extract()` returns but `flags`. Of `flags` it changes
only URGENT and WANT_A_REPLY: `is_urgent()` answers the value of the last `set_urgent` call,
and `is_request()` that of the last `set_want_reply` call, but on an Announcement or a
Request, whose `set_want_reply` always raises, it keeps its answer. -/
theorem mutator_runs (m : Message p) (calls : List MutatorCall) :
    (runMutators m calls).cls = m.cls ∧
      (runMutators m calls).extract = { m.extract with flags := (runMutators m calls).flags } ∧
      (runMutators m calls).flags &&& ~~~(Message.urgent ||| Message.wantAReply) =
        m.flags &&& ~~~(Message.urgent ||| Message.wantAReply) ∧
      (runMutators m calls).isUrgent = (lastValue MutatorCall.urgentValue calls).getD m.isUrgent ∧
      (runMutators m calls).isRequest = (if m.cls.refusesWantReply then none
        else lastValue MutatorCall.wantReplyValue calls).getD m.isRequest :=
  have changed := runMutators_flagsChanged m calls
  ⟨changed.cls_eq, changed.extract_eq, changed.others_eq, changed.isUrgent_eq, changed.isRequest_eq⟩

end Kbus
