import Kbus.Stateful

/-! The request and reply conversation as `messages.py` takes part in it: which names and
ids the constructors accept, what `reply_to` makes of a request it is asked to answer, and
how `split_replier_bind_event_data` reads the payload of a `$.KBUS.ReplierBindEvent`. -/
namespace Kbus

variable {p : Platform}

/-! ## What the constructors accept -/

/-- `Message.__init__`'s tests, all at once: the name must start `$.`, and `_check` then
refuses only a `name_len` under 3. Its guard tests never fire on the structure
`_from_data` has just built. -/
theorem messageInit_eq (name : Bytes) (data : Option Bytes) (to_ from_ : Option UInt32)
    (origFrom finalTo : Option OrigFrom) (inReplyTo : Option MessageId) (flags : Option UInt32)
    (id : Option MessageId) :
    messageInit name data to_ from_ origFrom finalTo inReplyTo flags id =
      if (ascii "$.").isPrefixOf name then
        if name.length % 2 ^ 32 < 3 then
          .error (.valueError ("Message name is " ++ toString (name.length % 2 ^ 32) ++
            " long, minimum is 3 (e.g., \x27$.*\x27)"))
        else .ok (fromData name data to_ from_ origFrom finalTo inReplyTo flags id)
      else .error (.valueError ("Message name \"" ++ latin1 name ++ "\" does not start \"$.\"")) := by
  unfold messageInit
  split
  · simp only [MessageHeaderStruct.check, fromData, messageFromParts, ne_eq, not_true_eq_false,
      if_false, uint32_toNat_ofNat]
    by_cases short : name.length % 2 ^ 32 < 3
    · rw [if_pos short, if_pos short]
    · rw [if_neg short, if_neg short]
  · rfl

theorem messageInit_ok_iff (name : Bytes) (data : Option Bytes) (to_ from_ : Option UInt32)
    (origFrom finalTo : Option OrigFrom) (inReplyTo : Option MessageId) (flags : Option UInt32)
    (id : Option MessageId) :
    (∃ h, messageInit name data to_ from_ origFrom finalTo inReplyTo flags id = .ok h) ↔
      ValidName name := by
  rw [messageInit_eq, ValidName]
  by_cases start : (ascii "$.").isPrefixOf name
  · by_cases short : name.length % 2 ^ 32 < 3
    · simp [start, short, -Nat.reducePow]
    · simp only [start, short, if_true, if_false, Except.ok.injEq, exists_eq', true_and, true_iff]
      omega
  · simp [start]

theorem MessageClass.finish_pointy_ok_iff (cls : MessageClass) (h : MessageHeaderStruct) :
    (∃ m : Message p, cls.finish (.pointy h) = .ok m) ↔ (cls = .reply → h.inReplyTo ≠ ⟨0, 0⟩) := by
  cases cls
  case reply =>
    by_cases answered : h.inReplyTo = ⟨0, 0⟩ <;>
      simp [MessageClass.finish, MessageStruct.inReplyTo, answered]
  all_goals simp [MessageClass.finish]

/-- `__init__` of a class: `Message.__init__`, then the class's own steps. -/
theorem init_ok_iff (cls : MessageClass) (name : Bytes) (data : Option Bytes)
    (to_ from_ : Option UInt32) (origFrom finalTo : Option OrigFrom) (inReplyTo : Option MessageId)
    (flags : Option UInt32) (id : Option MessageId) :
    (∃ m : Message p, (messageInit name data to_ from_ origFrom finalTo inReplyTo flags id).bind
        (fun h => cls.finish (.pointy h)) = .ok m) ↔
      ValidName name ∧ (cls = .reply → inReplyTo.getD ⟨0, 0⟩ ≠ ⟨0, 0⟩) := by
  by_cases valid : ValidName name
  · rw [messageInit_valid valid]
    exact (MessageClass.finish_pointy_ok_iff cls _).trans (and_iff_right valid).symm
  · obtain ⟨err, refused⟩ : ∃ err, messageInit name data to_ from_ origFrom finalTo inReplyTo
        flags id = .error err := by
      cases made : messageInit name data to_ from_ origFrom finalTo inReplyTo flags id with
      | error err => exact ⟨err, rfl⟩
      | ok h => exact absurd ((messageInit_ok_iff ..).1 ⟨h, made⟩) valid
    rw [refused]
    simp [valid, Except.bind]

/-- Which arguments the constructors accept: `Message`, `Announcement` and `Request` any name
that starts `$.` and is at least 3 bytes long (as a `c_uint32` counts it), and `Reply` such a
name with an `in_reply_to` other than `(0, 0)`. Nothing else about the arguments can make
them raise. -/
theorem constructors_accept_iff (p : Platform) (name : Bytes) (data : Option Bytes)
    (to_ from_ : Option UInt32) (origFrom finalTo : Option OrigFrom) (inReplyTo : Option MessageId)
    (flags : Option UInt32) (id : Option MessageId) :
    ((∃ m, Message.init p name data to_ from_ origFrom finalTo inReplyTo flags id = .ok m) ↔
        ValidName name) ∧
      ((∃ m, Announcement.init p name data to_ from_ flags id = .ok m) ↔ ValidName name) ∧
      ((∃ m, Request.init p name data to_ from_ finalTo flags id = .ok m) ↔ ValidName name) ∧
      ((∃ m, Reply.init p name data to_ from_ origFrom inReplyTo flags id = .ok m) ↔
        ValidName name ∧ inReplyTo.getD ⟨0, 0⟩ ≠ ⟨0, 0⟩) :=
  ⟨(init_ok_iff .message ..).trans (and_iff_left nofun),
    (init_ok_iff .announcement ..).trans (and_iff_left nofun),
    (init_ok_iff .request ..).trans (and_iff_left nofun),
    (init_ok_iff .reply ..).trans (and_congr_right' (imp_iff_right rfl))⟩

/-! ## `reply_to` -/

theorem Message.id_getD_ne_iff (m : Message p) : m.id.getD ⟨0, 0⟩ ≠ ⟨0, 0⟩ ↔ m.id.isSome := by
  unfold Message.id; split <;> simp_all

theorem Message.id_bind_readId (m : Message p) : m.id.bind readId = m.id := by
  unfold Message.id readId; split <;> simp_all

/-- `reply_to(original, ...)` answers exactly an original with both WANT_A_REPLY and
WANT_YOU_TO_REPLY set, that carries an id and a name `Message.__init__` accepts. -/
theorem replyTo_ok_iff (original : Message p) (data : Option Bytes) (flags : UInt32) :
    (∃ r, replyTo original data flags = .ok r) ↔
      original.flags &&& (Message.wantAReply ||| Message.wantYouToReply) =
          Message.wantAReply ||| Message.wantYouToReply ∧
        original.id.isSome ∧ ValidName original.name := by
  unfold replyTo
  split
  · rename_i unwanted
    simp [unwanted]
  · rename_i wanted
    rw [not_not] at wanted
    rw [Reply.init, init_ok_iff, ← original.id_getD_ne_iff]
    simp [wanted, and_comm]

/-- The Reply `reply_to` makes goes to the original's sender and answers the original's id
under the original's name, with the caller's flags and data; it takes nothing else from the
original, neither its flags nor its `orig_from` or `final_to`. -/
theorem replyTo_extract {original r : Message p} {data : Option Bytes} {flags : UInt32}
    (made : replyTo original data flags = .ok r) (dataShort : (data.getD []).length < 2 ^ 32) :
    r.cls = .reply ∧
      r.extract = ⟨none, original.id, original.from_, 0, none, none, flags, original.name,
        readData data⟩ := by
  unfold replyTo at made
  split at made
  · cases made
  rw [Reply.init] at made
  rw [messageInit_valid ((init_ok_iff .reply ..).1 ⟨r, made⟩).1] at made
  obtain ⟨cls, ⟨reply, -⟩ | ⟨reply, -⟩ | ⟨-, -, same, -⟩⟩ := MessageClass.finish_ok
    (show MessageClass.reply.finish (.pointy _) = .ok r from made)
  · cases reply
  · cases reply
  refine ⟨cls, ?_⟩
  have clean : 0 ∉ original.name := original.extract_name_clean
  have short : original.name.length < 2 ^ 32 := original.extract_name_short
  rw [Message.extract_eq, same, fields_fromData clean dataShort,
    extract_fields_mk _ _ _ _ _ _ _ short ((length_readData_le data).trans_lt dataShort)]
  simp only [readData_readData, original.id_bind_readId]
  rfl

/-- The request of `reply_to`'s docstring, `Message('$.Fred', data='1234', from_=27, to=99,
id=MessageId(0, 132), flags=0x3)`, as the structure `message_from_parts` builds for it. -/
theorem replyTo_extract_fred :
    ∃ r : Message Platform.lp64,
      replyTo ⟨.message, .pointy ⟨Message.startGuard, ⟨0, 132⟩, ⟨0, 0⟩, 99, 27, ⟨0, 0⟩, ⟨0, 0⟩, 0, 3,
        6, 4, ascii "$.Fred" ++ [0, 0], some (ascii "1234"), Message.endGuard⟩⟩
        (some (ascii "1234")) 0x100 = .ok r ∧
      ((some (ascii "1234")).getD []).length < 2 ^ 32 ∧
      r.cls = .reply ∧
      r.extract = ⟨none, some ⟨0, 132⟩, 27, 0, none, none, 0x100, ascii "$.Fred",
        some (ascii "1234")⟩ :=
  by
  obtain ⟨r, made⟩ : ∃ r : Message Platform.lp64,
      replyTo ⟨.message, .pointy ⟨Message.startGuard, ⟨0, 132⟩, ⟨0, 0⟩, 99, 27, ⟨0, 0⟩, ⟨0, 0⟩, 0, 3,
        6, 4, ascii "$.Fred" ++ [0, 0], some (ascii "1234"), Message.endGuard⟩⟩
        (some (ascii "1234")) 0x100 = .ok r := by
    unfold replyTo
    rw [if_neg (by decide), Reply.init, messageInit_valid (by decide)]
    exact ⟨_, rfl⟩
  exact ⟨r, made, by decide, replyTo_extract made (by decide)⟩

/-! ## Replier bind events -/

/-- `split_replier_bind_event_data` reads back what `_ReplierBindEventHeader` lays out: a
payload of `is_bind`, `binder` and `name_len` as native `c_uint32`s, then the name, gives
`(is_bind, binder, name)` whatever follows the name. -/
theorem splitReplierBindEventData_payload (p : Platform) (isBind binder : UInt32) {name : Bytes}
    (short : name.length < 2 ^ 32) (rest : Bytes) (beyond : Nat → UInt8) :
    splitReplierBindEventData p (p.u32Bytes isBind ++ p.u32Bytes binder ++
      p.u32Bytes (UInt32.ofNat name.length) ++ name ++ rest) beyond = (isBind, binder, name) := by
  have size : (cStruct replierBindEventHeaderTypes).size = 12 := by decide
  have nameLen : (UInt32.ofNat name.length).toNat = name.length := by
    rw [uint32_toNat_ofNat, Nat.mod_eq_of_lt short]
  have long : (cStruct replierBindEventHeaderTypes).size ≤ (p.u32Bytes isBind ++ p.u32Bytes binder ++
      p.u32Bytes (UInt32.ofNat name.length) ++ name ++ rest).length := by
    simp only [size, List.length_append, length_u32Bytes]; omega
  -- the three fields, each read from the copy of the first 12 bytes
  have field : ∀ i < 3, ∀ data : Bytes, 12 ≤ data.length →
      fieldAt replierBindEventHeaderTypes (data.take 12) i = slice data (4 * i) 4 := by
    intro i hi data _
    rw [fieldAt, slice_take (by interval_cases i <;> decide)]
    interval_cases i <;> rfl
  have la := length_u32Bytes p isBind
  have lb := length_u32Bytes p binder
  have lc := length_u32Bytes p (UInt32.ofNat name.length)
  simp only [splitReplierBindEventData]
  rw [structFromBytes_of_le beyond long, size, field 0 (by decide) _ (size ▸ long),
    field 1 (by decide) _ (size ▸ long), field 2 (by decide) _ (size ▸ long)]
  have first := slice_append_exact [] (p.u32Bytes isBind)
    (p.u32Bytes binder ++ p.u32Bytes (UInt32.ofNat name.length) ++ name ++ rest)
  have second := slice_append_exact (p.u32Bytes isBind) (p.u32Bytes binder)
    (p.u32Bytes (UInt32.ofNat name.length) ++ name ++ rest)
  have third := slice_append_exact (p.u32Bytes isBind ++ p.u32Bytes binder)
    (p.u32Bytes (UInt32.ofNat name.length)) (name ++ rest)
  have named := slice_append_exact
    (p.u32Bytes isBind ++ p.u32Bytes binder ++ p.u32Bytes (UInt32.ofNat name.length)) name rest
  simp only [List.nil_append, List.length_nil, List.length_append, la, lb, lc, List.append_assoc,
    Nat.reduceAdd] at first second third named
  simp only [List.append_assoc, Nat.reduceMul, first, second, third, u32Of_u32Bytes, nameLen, named]

theorem splitReplierBindEventData_payload_fred :
    (ascii "$.Fred").length < 2 ^ 32 ∧
      splitReplierBindEventData Platform.lp64 (Platform.lp64.u32Bytes 1 ++
        Platform.lp64.u32Bytes 27 ++ Platform.lp64.u32Bytes (UInt32.ofNat (ascii "$.Fred").length) ++
        ascii "$.Fred" ++ [0, 0]) (fun _ => 0) = (1, 27, ascii "$.Fred") :=
  ⟨by decide, splitReplierBindEventData_payload _ _ _ (by decide) _ _⟩

end Kbus
