import Kbus.Fields

/-! The messages a program can hold: what the public constructors return, changed by any
run of `set_urgent` and `set_want_reply`. Along every such run the structure keeps the
name it was made with, and each class keeps what its constructors give it. -/
namespace Kbus

variable {p : Platform}

/-- The `name_len` bytes after an entire structure's header, NULs included. -/
def EntireMessageStruct.rawName (e : EntireMessageStruct p) : Bytes :=
  e.restName.take e.nameLen.toNat

/-! ## Decoding -/

/-- `e` is what `_entire_message_from_bytes` makes of `arg`: an instance of the class its
own header's lengths key, filled by a copy of `arg`. -/
structure DecodedFrom (e : EntireMessageStruct p) (arg : Bytes) (beyond : Nat → UInt8) : Prop where
  keyedName : e.paddedNameLen = calcPaddedNameLen e.nameLen.toNat
  keyedData : e.paddedDataLen = calcPaddedDataLen e.dataLen.toNat
  copied : e.buf = structFromBytes (cStruct e.types) arg beyond

theorem header_structFromBytes_entire (p : Platform) (pn pd : Nat) (arg : Bytes)
    (beyond : Nat → UInt8) :
    (structFromBytes (cStruct (entireMessageTypes p pn pd)) arg beyond).take (msgHeaderLen p) =
      structFromBytes (messageHeaderType p) arg beyond :=
  structFromBytes_take arg beyond (msgHeaderLen_le_size_entire p pn pd)

/-- What a successful `_entire_message_from_bytes` has checked and made. -/
theorem entireMessageFromBytes_ok {arg : Bytes} {beyond : Nat → UInt8} {e : EntireMessageStruct p}
    (read : entireMessageFromBytes p arg beyond = .ok e) :
    msgHeaderLen p ≤ arg.length ∧ p.u32Of (arg.take 4) = Message.startGuard ∧
      DecodedFrom e arg beyond := by
  unfold entireMessageFromBytes at read
  by_cases short : arg.length < msgHeaderLen p
  · rw [if_pos short] at read; cases read
  rw [if_neg short] at read
  by_cases guard : p.u32Of (arg.take 4) = Message.startGuard
  · rw [if_neg (not_not.2 guard)] at read
    cases Except.ok.inj read
    refine ⟨by omega, guard, ?_, ?_, rfl⟩ <;>
      simp only [EntireMessageStruct.nameLen, EntireMessageStruct.dataLen,
        EntireMessageStruct.header_eq, header_structFromBytes_entire]
  · rw [if_pos guard] at read; cases read

theorem entireMessageFromBytes_isOk {arg : Bytes} (beyond : Nat → UInt8)
    (long : msgHeaderLen p ≤ arg.length) (guard : p.u32Of (arg.take 4) = Message.startGuard) :
    ∃ e : EntireMessageStruct p, entireMessageFromBytes p arg beyond = .ok e := by
  unfold entireMessageFromBytes
  rw [if_neg (by omega), if_neg (not_not.2 guard)]
  exact ⟨_, rfl⟩

/-- `m` is a message the public API hands out, made with the name `n`: the name argument
of `__init__`, the name of the tuple or message `from_sequence` and `from_message` copy, or
the `name_len` bytes after the header of the frame `from_bytes` decodes. -/
inductive Built (p : Platform) : Bytes → Message p → Prop
  /-- `__init__`, `from_message` and `from_sequence` of every class but Status: a structure
  made by `_from_data`, then the class's own steps. -/
  | made {m : Message p} (cls : MessageClass) (pointyClass : cls ≠ .status) (name : Bytes)
      (data : Option Bytes) (to_ from_ : Option UInt32) (origFrom finalTo : Option OrigFrom)
      (inReplyTo : Option MessageId) (flags : Option UInt32) (id : Option MessageId)
      (finished : cls.finish (.pointy (fromData name data to_ from_ origFrom finalTo inReplyTo flags
        id)) = .ok m) :
      Built p name m
  /-- `from_bytes` of every class. -/
  | decoded {m : Message p} {e : EntireMessageStruct p} (cls : MessageClass) (arg : Bytes)
      (beyond : Nat → UInt8) (read : entireMessageFromBytes p arg beyond = .ok e)
      (finished : cls.finish (.entire e) = .ok m) :
      Built p e.rawName m
  | urgent {n : Bytes} {m : Message p} (value : Bool) (built : Built p n m) :
      Built p n (m.setUrgent value)
  | wantReply {n : Bytes} {m m' : Message p} (value : Bool) (built : Built p n m)
      (changed : m.setWantReply value = .ok m') :
      Built p n m'

/-! ## What one step can do -/

theorem messageInit_ok {name : Bytes} {data : Option Bytes} {to_ from_ : Option UInt32}
    {origFrom finalTo : Option OrigFrom} {inReplyTo : Option MessageId} {flags : Option UInt32}
    {id : Option MessageId} {h : MessageHeaderStruct}
    (made : messageInit name data to_ from_ origFrom finalTo inReplyTo flags id = .ok h) :
    h = fromData name data to_ from_ origFrom finalTo inReplyTo flags id := by
  unfold messageInit at made
  dsimp only at made
  split at made
  · split at made
    · exact (Except.ok.inj made).symm
    · cases made
  · cases made

/-- The steps a class's constructors take after building the structure. -/
theorem MessageClass.finish_ok {cls : MessageClass} {s : MessageStruct p} {m : Message p}
    (finished : cls.finish s = .ok m) :
    m.cls = cls ∧
      (cls = .announcement ∧
          m.msg.fields = { s.fields with inReplyTo := ⟨0, 0⟩, origFrom := ⟨0, 0⟩, finalTo := ⟨0, 0⟩ } ∨
        cls = .request ∧ m.msg.fields = { s.fields with flags := setBit s.flags Message.wantAReply } ∨
        cls ≠ .announcement ∧ cls ≠ .request ∧ m.msg = s ∧
          (cls = .reply → s.inReplyTo ≠ ⟨0, 0⟩)) := by
  cases cls with
  | announcement =>
    cases Except.ok.inj finished
    refine ⟨rfl, .inl ⟨rfl, ?_⟩⟩
    rw [MessageStruct.fields_setFinalTo, MessageStruct.fields_setOrigFrom,
      MessageStruct.fields_setInReplyTo]
  | request =>
    cases Except.ok.inj finished
    exact ⟨rfl, .inr (.inl ⟨rfl, MessageStruct.fields_setFlags _ _⟩)⟩
  | reply =>
    simp only [MessageClass.finish] at finished
    split at finished
    · cases finished
    · cases Except.ok.inj finished
      exact ⟨rfl, .inr (.inr ⟨nofun, nofun, rfl, fun _ => ‹_›⟩)⟩
  | message => cases Except.ok.inj finished; exact ⟨rfl, .inr (.inr ⟨nofun, nofun, rfl, nofun⟩)⟩
  | status => cases Except.ok.inj finished; exact ⟨rfl, .inr (.inr ⟨nofun, nofun, rfl, nofun⟩)⟩

theorem Message.setWantReply_ok {m m' : Message p} {value : Bool}
    (changed : m.setWantReply value = .ok m') :
    m.cls ≠ .announcement ∧ m.cls ≠ .request ∧
      m' = ⟨m.cls, m.msg.setFlags (if value then setBit m.msg.flags Message.wantAReply
        else clearBit m.msg.flags Message.wantAReply)⟩ := by
  unfold Message.setWantReply at changed
  split at changed
  · cases changed
  · cases changed
  · cases Except.ok.inj changed
    exact ⟨‹_›, ‹_›, rfl⟩

/-! ## Every public constructor builds a `Built` message -/

theorem Built.merged (cls : MessageClass) (pointyClass : cls ≠ .status) {x : Extracted}
    {data : Option Bytes} {to_ from_ : Option UInt32} {origFrom finalTo : Option OrigFrom}
    {inReplyTo : Option MessageId} {flags : Option UInt32} {id : Option MessageId} {m : Message p}
    (finished : cls.finish (.pointy (mergeArgs x data to_ from_ origFrom finalTo inReplyTo flags id)) =
      .ok m) :
    Built p x.name m :=
  .made cls pointyClass _ _ _ _ _ _ _ _ _ finished

theorem Built.initialised (cls : MessageClass) (pointyClass : cls ≠ .status) {name : Bytes}
    {data : Option Bytes} {to_ from_ : Option UInt32} {origFrom finalTo : Option OrigFrom}
    {inReplyTo : Option MessageId} {flags : Option UInt32} {id : Option MessageId} {m : Message p}
    (created : (messageInit name data to_ from_ origFrom finalTo inReplyTo flags id).bind
      (fun h => cls.finish (.pointy h)) = .ok m) :
    Built p name m := by
  cases made : messageInit name data to_ from_ origFrom finalTo inReplyTo flags id with
  | error err => rw [made] at created; cases created
  | ok h =>
    rw [made] at created
    rw [messageInit_ok made] at created
    exact .made cls pointyClass _ _ _ _ _ _ _ _ _ created

section Constructors

variable {name : Bytes} {data : Option Bytes} {to_ from_ : Option UInt32}
  {origFrom finalTo : Option OrigFrom} {inReplyTo : Option MessageId} {flags : Option UInt32}
  {id : Option MessageId} {m src : Message p} {seq : Extracted}

theorem Built.ofMessageInit
    (created : Message.init p name data to_ from_ origFrom finalTo inReplyTo flags id = .ok m) :
    Built p name m := Built.initialised .message nofun created

theorem Built.ofAnnouncementInit
    (created : Announcement.init p name data to_ from_ flags id = .ok m) : Built p name m :=
  Built.initialised .announcement nofun created

theorem Built.ofRequestInit (created : Request.init p name data to_ from_ finalTo flags id = .ok m) :
    Built p name m := Built.initialised .request nofun created

theorem Built.ofReplyInit
    (created : Reply.init p name data to_ from_ origFrom inReplyTo flags id = .ok m) :
    Built p name m := Built.initialised .reply nofun created

theorem Built.ofMessageFromMessage
    (created : Message.fromMessage src data to_ from_ origFrom finalTo inReplyTo flags id = .ok m) :
    Built p src.name m := Built.merged .message nofun created

theorem Built.ofAnnouncementFromMessage
    (created : Announcement.fromMessage src data to_ from_ flags id = .ok m) : Built p src.name m :=
  Built.merged .announcement nofun created

theorem Built.ofRequestFromMessage
    (created : Request.fromMessage src data to_ from_ finalTo flags id = .ok m) :
    Built p src.name m := Built.merged .request nofun created

theorem Built.ofReplyFromMessage
    (created : Reply.fromMessage src data to_ from_ origFrom inReplyTo flags id = .ok m) :
    Built p src.name m := Built.merged .reply nofun created

theorem Built.ofMessageFromSequence
    (created : Message.fromSequence p seq data to_ from_ origFrom finalTo inReplyTo flags id = .ok m) :
    Built p seq.name m := Built.merged .message nofun created

theorem Built.ofAnnouncementFromSequence
    (created : Announcement.fromSequence p seq data to_ from_ flags id = .ok m) :
    Built p seq.name m := Built.merged .announcement nofun created

theorem Built.ofRequestFromSequence
    (created : Request.fromSequence p seq data to_ from_ finalTo flags id = .ok m) :
    Built p seq.name m := Built.merged .request nofun created

theorem Built.ofReplyFromSequence
    (created : Reply.fromSequence p seq data to_ from_ origFrom inReplyTo flags id = .ok m) :
    Built p seq.name m := Built.merged .reply nofun created

theorem Built.ofFromBytes {cls : MessageClass} {arg : Bytes} {beyond : Nat → UInt8}
    (created : cls.fromBytes p arg beyond = .ok m) :
    ∃ e : EntireMessageStruct p, entireMessageFromBytes p arg beyond = .ok e ∧ Built p e.rawName m := by
  unfold MessageClass.fromBytes at created
  cases read : entireMessageFromBytes p arg beyond with
  | error err => rw [read] at created; cases created
  | ok e => rw [read] at created; exact ⟨e, rfl, .decoded cls arg beyond read created⟩

theorem Built.ofReplyTo {original : Message p} {flags : UInt32}
    (created : replyTo original data flags = .ok m) : Built p original.name m := by
  unfold replyTo at created
  split at created
  · cases created
  · exact Built.ofReplyInit created

theorem Built.ofStatefulRequest {earlierMsg : Message p} {from_ : Option UInt32}
    (created : statefulRequest earlierMsg name data from_ flags id = .ok m) : Built p name m := by
  unfold statefulRequest at created
  split at created
  · exact Built.ofRequestInit created
  · split at created
    · exact Built.ofRequestInit created
    · cases created

end Constructors

/-! ## The name a structure holds -/

/-- What the header's lengths say of a structure made with the name `n`: it holds `n` when
`n` has no NUL, `name_len` is `len(n)` as a `c_uint32` keeps it, and `data_len` counts the
data it holds. -/
structure Fields.Intact (f : Fields) (n : Bytes) : Prop where
  name_eq : 0 ∉ n → f.name = n
  nameLen_eq : f.nameLen = UInt32.ofNat n.length
  dataLen_eq : f.cData.length = f.dataLen.toNat

theorem messageFromParts_intact (id inReplyTo : MessageId) (to_ from_ : UInt32)
    (origFrom finalTo : Option OrigFrom) (flags : UInt32) (name : Bytes) (data : Option Bytes) :
    (MessageStruct.pointy (messageFromParts id inReplyTo to_ from_ origFrom finalTo flags name data) :
      MessageStruct p).fields.Intact name := by
  refine ⟨cString_padName, rfl, ?_⟩
  simp only [MessageStruct.fields, MessageStruct.cData, MessageStruct.dataLen, messageFromParts]
  cases filled data
  · simp
  · have := length_padToFour (data.getD [])
    simp only [if_true, Option.getD_some, List.length_take, uint32_toNat_ofNat]
    omega

theorem DecodedFrom.intact {e : EntireMessageStruct p} {arg : Bytes}
    {beyond : Nat → UInt8} (decoded : DecodedFrom e arg beyond) : (MessageStruct.entire e).fields.Intact e.rawName := by
  have nameRoom := lt_calcPaddedNameLen e.nameLen.toNat
  have dataRoom := le_calcPaddedDataLen e.dataLen.toNat
  have nameLength := e.length_restName
  have dataLength := e.length_restData
  have keyed := decoded.keyedName
  have keyedData := decoded.keyedData
  refine ⟨take_cString_of_clean, ?_, ?_⟩
  · simp only [MessageStruct.fields, MessageStruct.nameLen, EntireMessageStruct.rawName,
      List.length_take]
    rw [Nat.min_eq_left (by omega), uint32_ofNat_toNat]
  · simp only [MessageStruct.fields, MessageStruct.cData, MessageStruct.dataLen,
      EntireMessageStruct.data, List.length_take]
    omega

/-- A class's own steps keep the name and data a structure holds. -/
theorem MessageClass.finish_intact {cls : MessageClass} {s : MessageStruct p} {m : Message p}
    {n : Bytes} (finished : cls.finish s = .ok m) (intact : s.fields.Intact n) :
    m.msg.fields.Intact n := by
  obtain ⟨-, ⟨-, same⟩ | ⟨-, same⟩ | ⟨-, -, same, -⟩⟩ := MessageClass.finish_ok finished
  · rw [same]; exact ⟨intact.1, intact.2, intact.3⟩
  · rw [same]; exact ⟨intact.1, intact.2, intact.3⟩
  · rw [same]; exact intact

theorem Message.setUrgent_fields (m : Message p) (value : Bool) :
    (m.setUrgent value).msg.fields = { m.msg.fields with flags :=
      (if value then setBit m.msg.flags Message.urgent else clearBit m.msg.flags Message.urgent) } :=
  MessageStruct.fields_setFlags _ _

/-- Every message the API hands out holds the name it was made with, when that name has no
NUL, and its header counts that name and the data it holds. -/
theorem Built.intact {n : Bytes} {m : Message p} (built : Built p n m) : m.msg.fields.Intact n := by
  induction built with
  | made cls _ name data to_ from_ origFrom finalTo inReplyTo flags id finished =>
    exact MessageClass.finish_intact finished (messageFromParts_intact _ _ _ _ _ _ _ _ _)
  | decoded cls arg beyond read finished =>
    exact MessageClass.finish_intact finished (entireMessageFromBytes_ok read).2.2.intact
  | urgent value built ih =>
    rw [Message.setUrgent_fields]
    exact ⟨ih.1, ih.2, ih.3⟩
  | wantReply value built changed ih =>
    obtain ⟨-, -, rfl⟩ := Message.setWantReply_ok changed
    rw [MessageStruct.fields_setFlags]
    exact ⟨ih.1, ih.2, ih.3⟩

/-! ## What each class keeps -/

/-- The invariant each subclass's constructors establish, read on the fields: an
Announcement has no `in_reply_to`, `orig_from` or `final_to`, a Request has WANT_A_REPLY,
a Reply has an `in_reply_to`. -/
structure ClassInvariant (cls : MessageClass) (f : Fields) : Prop where
  announcement : cls = .announcement →
    f.inReplyTo = ⟨0, 0⟩ ∧ f.origFrom = ⟨0, 0⟩ ∧ f.finalTo = ⟨0, 0⟩
  request : cls = .request → f.flags &&& Message.wantAReply ≠ 0
  reply : cls = .reply → f.inReplyTo ≠ ⟨0, 0⟩

theorem MessageClass.finish_classInvariant {cls : MessageClass} {s : MessageStruct p}
    {m : Message p} (finished : cls.finish s = .ok m) : ClassInvariant m.cls m.msg.fields := by
  obtain ⟨hcls, ⟨rfl, same⟩ | ⟨rfl, same⟩ | ⟨notAnn, notReq, same, reply⟩⟩ :=
    MessageClass.finish_ok finished <;> rw [hcls, same]
  · exact ⟨fun _ => ⟨rfl, rfl, rfl⟩, nofun, nofun⟩
  · exact ⟨nofun, fun _ => setBit_wantAReply_set _, nofun⟩
  · exact ⟨fun h => absurd h notAnn, fun h => absurd h notReq, reply⟩

/-- `set_urgent` and `set_want_reply` change only flags a class does not fix. -/
theorem Built.classInvariant {n : Bytes} {m : Message p} (built : Built p n m) :
    ClassInvariant m.cls m.msg.fields := by
  induction built with
  | made cls _ name data to_ from_ origFrom finalTo inReplyTo flags id finished =>
    exact MessageClass.finish_classInvariant finished
  | decoded cls arg beyond read finished => exact MessageClass.finish_classInvariant finished
  | @urgent n m value built ih =>
    have apart : Message.urgent &&& Message.wantAReply = 0 := by decide
    have kept : (if value then setBit m.msg.flags Message.urgent
        else clearBit m.msg.flags Message.urgent) &&& Message.wantAReply =
        m.msg.flags &&& Message.wantAReply := by
      split
      · exact setBit_and_of_disjoint _ apart
      · exact clearBit_and_of_disjoint _ apart
    rw [Message.setUrgent_fields]
    exact ⟨ih.announcement, fun h => kept ▸ ih.request h, ih.reply⟩
  | wantReply value built changed ih =>
    obtain ⟨notAnn, notReq, rfl⟩ := Message.setWantReply_ok changed
    rw [MessageStruct.fields_setFlags]
    exact ⟨fun h => absurd h notAnn, fun h => absurd h notReq, ih.reply⟩

/-- The subtype invariants, over every message the API hands out and every run of its
mutators. -/
theorem built_class_invariants {n : Bytes} {m : Message p} (built : Built p n m) :
    (m.cls = .announcement →
        m.inReplyTo = none ∧ m.origFrom = none ∧ m.finalTo = none ∧ m.isReply = false) ∧
      (m.cls = .request → m.isRequest = true) ∧
      (m.cls = .reply → m.isReply = true) := by
  have inv := built.classInvariant
  refine ⟨fun h => ?_, fun h => ?_, fun h => ?_⟩
  · obtain ⟨hi, ho, hf⟩ := inv.announcement h
    have hi : m.msg.inReplyTo = ⟨0, 0⟩ := hi
    have ho : m.msg.origFrom = ⟨0, 0⟩ := ho
    have hf : m.msg.finalTo = ⟨0, 0⟩ := hf
    simp [Message.inReplyTo, Message.origFrom, Message.finalTo, Message.isReply, hi, ho, hf]
  · have hr : m.msg.flags &&& Message.wantAReply ≠ 0 := inv.request h
    simpa [Message.isRequest] using hr
  · have hr : m.msg.inReplyTo ≠ ⟨0, 0⟩ := inv.reply h
    simp [Message.isReply, Message.inReplyTo, hr]

theorem built_class_invariants_fred :
    ∃ m : Message Platform.lp64,
      Announcement.init Platform.lp64 (ascii "$.Fred") none none none none none = .ok m ∧
      (m.cls = .announcement →
        m.inReplyTo = none ∧ m.origFrom = none ∧ m.finalTo = none ∧ m.isReply = false) ∧
      (m.cls = .request → m.isRequest = true) ∧ (m.cls = .reply → m.isReply = true) :=
  by
  obtain ⟨m, created⟩ : ∃ m : Message Platform.lp64,
      Announcement.init Platform.lp64 (ascii "$.Fred") none none none none none = .ok m := ⟨_, rfl⟩
  exact ⟨m, created, built_class_invariants (Built.ofAnnouncementInit created)⟩

/-- An Announcement keeps a WANT_A_REPLY it is given: `Announcement('$.Fred',
flags=WANT_A_REPLY)`, and `Announcement.from_message` of a plain message with that flag,
answer `is_request()` with true, while `set_want_reply` on an Announcement refuses the flag
with "Announcements are not Requests". -/
theorem announcement_keeps_want_a_reply :
    ∃ m : Message Platform.lp64,
      Announcement.init Platform.lp64 (ascii "$.Fred") none none none (some Message.wantAReply)
        none = .ok m ∧ m.cls = .announcement ∧ m.isRequest = true ∧
      m.setWantReply true = .error (.typeError "Announcements are not Requests") ∧
      ∃ plain a : Message Platform.lp64,
        Message.init Platform.lp64 (ascii "$.Fred") none none none none none none none none =
          .ok plain ∧
        Announcement.fromMessage plain none none none (some Message.wantAReply) none = .ok a ∧
        a.cls = .announcement ∧ a.isRequest = true :=
  ⟨_, rfl, rfl, by decide, rfl, _, _, rfl, rfl, rfl, by decide⟩

end Kbus
