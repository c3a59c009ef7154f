import Kbus.Merge

/-! Chains of stateful requests. `stateful_request` sends a new Request to where an earlier
Reply or stateful Request points, and the Request it makes is again a stateful Request
pointing there, so a chain of any length keeps its target. -/
namespace Kbus

variable {p : Platform}

/-- `r1 = stateful_request(e, n1)`, then `r(i+1) = stateful_request(r(i), n(i+1))`: the
requests of the chain, in order. -/
def statefulChain (earlier : Message p) : List Bytes → Except MessageError (List (Message p))
  | [] => .ok []
  | name :: names => do
    let r ← statefulRequest earlier name none none none none
    let rest ← statefulChain r names
    pure (r :: rest)

/-- The `to` and `final_to` that `stateful_request` takes from an earlier message. -/
def statefulTarget (m : Message p) : UInt32 × Option OrigFrom :=
  if m.isReply then (m.from_, m.origFrom) else (m.to_, m.finalTo)

/-- A name `Message.__init__` accepts: it starts `$.` and its `c_uint32` length is at
least 3. -/
def ValidName (name : Bytes) : Prop :=
  (ascii "$.").isPrefixOf name = true ∧ 3 ≤ name.length % 2 ^ 32

instance : DecidablePred ValidName := fun _ => inferInstanceAs (Decidable (_ ∧ _))

theorem messageInit_valid {name : Bytes} (valid : ValidName name) (data : Option Bytes)
    (to_ from_ : Option UInt32) (origFrom finalTo : Option OrigFrom) (inReplyTo : Option MessageId)
    (flags : Option UInt32) (id : Option MessageId) :
    messageInit name data to_ from_ origFrom finalTo inReplyTo flags id =
      .ok (fromData name data to_ from_ origFrom finalTo inReplyTo flags id) := by
  have long : ¬name.length % 4294967296 < 3 := by have := valid.2; omega
  simp [messageInit, valid.1, MessageHeaderStruct.check, fromData, messageFromParts, long]

/-- `Request(name, ...)` with a valid name: the structure `_from_data` builds, with
WANT_A_REPLY set. -/
theorem Request.init_valid {name : Bytes} (valid : ValidName name) (data : Option Bytes)
    (to_ from_ : Option UInt32) (finalTo : Option OrigFrom) (flags : Option UInt32)
    (id : Option MessageId) :
    Request.init p name data to_ from_ finalTo flags id =
      .ok ⟨.request, .pointy { fromData name data to_ from_ none finalTo none flags id with
        flags := setBit (flags.getD 0) Message.wantAReply }⟩ := by
  rw [Request.init, messageInit_valid valid]; rfl

/-- One step of a chain: after a Reply that names its sender, or after a stateful Request
that is not a Reply, `stateful_request` makes a stateful Request with the same target. -/
theorem statefulRequest_step {earlier : Message p}
    (source : (earlier.isReply ∧ earlier.from_ ≠ 0) ∨ (¬earlier.isReply ∧ earlier.isStatefulRequest))
    {name : Bytes} (valid : ValidName name) (data : Option Bytes) (from_ flags : Option UInt32)
    (id : Option MessageId) :
    ∃ r, statefulRequest earlier name data from_ flags id = .ok r ∧ r.cls = .request ∧
      r.isReply = false ∧ r.isStatefulRequest = true ∧ statefulTarget r = statefulTarget earlier := by
  -- which branch `stateful_request` takes, and that the target it copies is a Ksock
  obtain ⟨made, sent⟩ : statefulRequest earlier name data from_ flags id =
      Request.init p name data (some (statefulTarget earlier).1) from_ (statefulTarget earlier).2
        flags id ∧ (statefulTarget earlier).1 ≠ 0 := by
    rcases source with ⟨reply, sender⟩ | ⟨reply, stateful⟩
    · exact ⟨by simp [statefulRequest, statefulTarget, reply],
        by simpa [statefulTarget, reply] using sender⟩
    · have sent : earlier.to_ ≠ 0 := by
        simp only [Message.isStatefulRequest, Bool.and_eq_true, bne_iff_ne] at stateful
        exact stateful.2
      exact ⟨by simp [statefulRequest, statefulTarget, reply, stateful],
        by simpa [statefulTarget, reply] using sent⟩
  have final : readOrigFrom ((statefulTarget earlier).2.getD ⟨0, 0⟩) = (statefulTarget earlier).2 := by
    apply readOrigFrom_getD
    unfold statefulTarget
    split <;> simp [Message.origFrom, Message.finalTo]
  rw [made, Request.init_valid valid]
  refine ⟨_, rfl, rfl, rfl, ?_, ?_⟩
  · simpa [Message.isStatefulRequest, Message.to_, MessageStruct.to_, fromData, messageFromParts]
      using ⟨setBit_wantAReply_set _, sent⟩
  · exact Prod.ext rfl final

/-- A whole chain: every request of it is a stateful Request with the target of the message
the chain started from. -/
theorem statefulChain_run {earlier : Message p}
    (source : (earlier.isReply ∧ earlier.from_ ≠ 0) ∨ (¬earlier.isReply ∧ earlier.isStatefulRequest))
    {names : List Bytes} (valid : ∀ n ∈ names, ValidName n) :
    ∃ rs, statefulChain earlier names = .ok rs ∧ rs.length = names.length ∧
      ∀ r ∈ rs, r.cls = .request ∧ r.isReply = false ∧ r.isStatefulRequest = true ∧
        statefulTarget r = statefulTarget earlier := by
  induction names generalizing earlier with
  | nil => exact ⟨[], rfl, rfl, by simp⟩
  | cons name names ih =>
    obtain ⟨r, made, request, notReply, stateful, target⟩ :=
      statefulRequest_step source (valid name (List.mem_cons_self _ _)) none none none none
    obtain ⟨rs, chained, length, each⟩ :=
      ih (.inr ⟨by simp [notReply], stateful⟩) fun n mem => valid n (List.mem_cons_of_mem _ mem)
    refine ⟨r :: rs, by rw [statefulChain, made]; exact congrArg (Except.map _) chained,
      by simp [length], ?_⟩
    intro r' mem
    rcases List.mem_cons.1 mem with rfl | later
    · exact ⟨request, notReply, stateful, target⟩
    · obtain ⟨cls, notReply', stateful', target'⟩ := each r' later
      exact ⟨cls, notReply', stateful', target'.trans target⟩

theorem stateful_chain_keeps_target (e : Message p)
    (source : (e.isReply ∧ e.from_ ≠ 0) ∨ (¬e.isReply ∧ e.isStatefulRequest))
    (names : List Bytes) (valid : ∀ n ∈ names, ValidName n) :
    ∃ rs, statefulChain e names = .ok rs ∧ rs.length = names.length ∧
      ∀ r ∈ rs, r.cls = .request ∧ r.isStatefulRequest = true ∧
        (e.isReply → r.to_ = e.from_ ∧ r.finalTo = e.origFrom) ∧
        (¬e.isReply → r.to_ = e.to_ ∧ r.finalTo = e.finalTo) := by
  obtain ⟨rs, chained, length, each⟩ := statefulChain_run source valid
  refine ⟨rs, chained, length, fun r mem => ?_⟩
  obtain ⟨cls, notReply, stateful, target⟩ := each r mem
  refine ⟨cls, stateful, fun reply => ?_, fun reply => ?_⟩ <;>
    simpa [statefulTarget, notReply, reply, Prod.ext_iff] using target

theorem stateful_chain_keeps_target_fred :
    ∃ e, Reply.init Platform.lp64 (ascii "$.Fred") none (some 27) (some 39) none (some ⟨0, 132⟩)
      none none = .ok e ∧
    ∃ rs, statefulChain e [ascii "$.SomethingElse", ascii "$.Again"] = .ok rs ∧ rs.length = 2 ∧
      ∀ r ∈ rs, r.isStatefulRequest = true ∧ r.to_ = 39 :=
  ⟨_, rfl, (stateful_chain_keeps_target _ (.inl ⟨by decide, by decide⟩) _ (by decide)).imp
    fun _ ⟨chained, length, each⟩ => ⟨chained, length, fun r mem =>
      ⟨(each r mem).2.1, ((each r mem).2.2.1 rfl).1⟩⟩⟩

/-- A name of two bytes stops a chain; so does a stateful Request that answers an earlier
message and has no sender, which `stateful_request` takes as a Reply. -/
theorem stateful_chain_breaks :
    (∃ e, Reply.init Platform.lp64 (ascii "$.Fred") none (some 27) (some 39) none (some ⟨0, 132⟩)
        none none = .ok e ∧ e.from_ ≠ 0 ∧ ∃ err, statefulChain e [ascii "$."] = .error err) ∧
    (∃ src e, Message.init Platform.lp64 (ascii "$.Fred") none (some 5) none none none
        (some ⟨1, 1⟩) none none = .ok src ∧
      Request.fromMessage src none none none none none none = .ok e ∧
      e.cls = .request ∧ e.isStatefulRequest = true ∧
      (∃ r, statefulRequest e (ascii "$.Jim") none none none none = .ok r ∧
        r.isStatefulRequest = false ∧ r.to_ ≠ e.to_) ∧
      ∃ err, statefulChain e [ascii "$.Jim", ascii "$.Bob"] = .error err) :=
  ⟨⟨_, rfl, by decide, _, rfl⟩, ⟨_, _, rfl, rfl, rfl, by decide, ⟨_, rfl, by decide, by decide⟩, _, rfl⟩⟩

end Kbus
