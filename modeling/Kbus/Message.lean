import Kbus.Frame

/-! The `Message` class and its subclasses: the `msg` structure in either form, the
properties and `extract()`, the constructors, the mutators, `to_bytes` and `cast`, and
the module functions `reply_to` and `stateful_request`. -/
namespace Kbus

/-- The `msg` attribute of a `Message`: a "pointy" header whose name and data are behind
pointers, or an "entire" structure with name and data inside its own buffer. -/
inductive MessageStruct (p : Platform)
  | pointy (h : MessageHeaderStruct)
  | entire (e : EntireMessageStruct p)

namespace MessageStruct

variable {p : Platform}

def id : MessageStruct p → MessageId
  | pointy h => h.id
  | entire e => e.id

def inReplyTo : MessageStruct p → MessageId
  | pointy h => h.inReplyTo
  | entire e => e.inReplyTo

def to_ : MessageStruct p → UInt32
  | pointy h => h.to_
  | entire e => e.to_

def from_ : MessageStruct p → UInt32
  | pointy h => h.from_
  | entire e => e.from_

def origFrom : MessageStruct p → OrigFrom
  | pointy h => h.origFrom
  | entire e => e.origFrom

def finalTo : MessageStruct p → OrigFrom
  | pointy h => h.finalTo
  | entire e => e.finalTo

def flags : MessageStruct p → UInt32
  | pointy h => h.flags
  | entire e => e.flags

def nameLen : MessageStruct p → UInt32
  | pointy h => h.nameLen
  | entire e => e.nameLen

def dataLen : MessageStruct p → UInt32
  | pointy h => h.dataLen
  | entire e => e.dataLen

/-- The structure's `name` attribute: the `c_char_p` read up to its NUL, or the entire
form's `name` property. -/
def name : MessageStruct p → Bytes
  | pointy h => cString h.name
  | entire e => e.name

/-- `c_data_as_string(msg.data, msg.data_len)`, which the code takes when `data_len` is
non-zero. -/
def cData : MessageStruct p → Bytes
  | pointy h => (h.data.getD []).take h.dataLen.toNat
  | entire e => e.data

def setFlags (v : UInt32) : MessageStruct p → MessageStruct p
  | pointy h => pointy { h with flags := v }
  | entire e => entire (e.setHeaderField 8 (p.u32Bytes v))

def setInReplyTo (v : MessageId) : MessageStruct p → MessageStruct p
  | pointy h => pointy { h with inReplyTo := v }
  | entire e => entire (e.setHeaderField 2 (v.toBytes p))

def setOrigFrom (v : OrigFrom) : MessageStruct p → MessageStruct p
  | pointy h => pointy { h with origFrom := v }
  | entire e => entire (e.setHeaderField 5 (v.toBytes p))

def setFinalTo (v : OrigFrom) : MessageStruct p → MessageStruct p
  | pointy h => pointy { h with finalTo := v }
  | entire e => entire (e.setHeaderField 6 (v.toBytes p))

end MessageStruct

def sameMessageStruct {p : Platform} (this that : MessageStruct p) : Bool :=
  if this.id.cmp that.id != .eq || this.inReplyTo.cmp that.inReplyTo != .eq ||
      this.to_ != that.to_ || this.from_ != that.from_ ||
      this.origFrom.cmp that.origFrom != .eq || this.finalTo.cmp that.finalTo != .eq ||
      this.flags != that.flags || this.nameLen != that.nameLen ||
      this.dataLen != that.dataLen || this.name != that.name then false
  else if this.dataLen != 0 then this.cData == that.cData
  else true

/-- `_equivalent_message_struct(this, that)`: `to`, `name_len`, `data_len`, `name` and, where
`data_len` is non-zero, the data; ids, flags, `from_` and the provenance fields are not
compared. -/
def equivalentMessageStruct {p : Platform} (this that : MessageStruct p) : Bool :=
  if this.to_ != that.to_ || this.nameLen != that.nameLen || this.dataLen != that.dataLen ||
      this.name != that.name then false
  else if this.dataLen != 0 then this.cData == that.cData
  else true

inductive MessageClass
  | message
  | announcement
  | request
  | reply
  | status
deriving DecidableEq, Repr

/-- A `Message` object: its class and its `msg` attribute. -/
structure Message (p : Platform) where
  cls : MessageClass
  msg : MessageStruct p

/-- The tuple `extract()` returns and `from_sequence` takes. -/
structure Extracted where
  id : Option MessageId
  inReplyTo : Option MessageId
  to_ : UInt32
  from_ : UInt32
  origFrom : Option OrigFrom
  finalTo : Option OrigFrom
  flags : UInt32
  name : Bytes
  data : Option Bytes
deriving DecidableEq

/-- The body of `to_bytes()` after `self.extract()`: `_entire_message_from_parts`,
`_struct_to_bytes`, and the cut to `calc_entire_message_len`. -/
def Extracted.toBytes (x : Extracted) (p : Platform) : Bytes :=
  let tmp := entireMessageFromParts p x.id x.inReplyTo x.to_ x.from_ x.origFrom x.finalTo x.flags
    x.name x.data
  tmp.buf.take (calcEntireMessageLen p x.name.length (x.data.getD []).length)

namespace Message

variable {p : Platform}

def id (m : Message p) : Option MessageId :=
  if m.msg.id = ⟨0, 0⟩ then none else some m.msg.id

def inReplyTo (m : Message p) : Option MessageId :=
  if m.msg.inReplyTo = ⟨0, 0⟩ then none else some m.msg.inReplyTo

def to_ (m : Message p) : UInt32 := m.msg.to_

def from_ (m : Message p) : UInt32 := m.msg.from_

def origFrom (m : Message p) : Option OrigFrom :=
  if m.msg.origFrom = ⟨0, 0⟩ then none else some m.msg.origFrom

def finalTo (m : Message p) : Option OrigFrom :=
  if m.msg.finalTo = ⟨0, 0⟩ then none else some m.msg.finalTo

def flags (m : Message p) : UInt32 := m.msg.flags

def name (m : Message p) : Bytes := m.msg.name.take m.msg.nameLen.toNat

def data (m : Message p) : Option Bytes :=
  if m.msg.dataLen = 0 then none else some m.msg.cData

def extract (m : Message p) : Extracted :=
  ⟨m.id, m.inReplyTo, m.to_, m.from_, m.origFrom, m.finalTo, m.flags, m.name, m.data⟩

def equals (m other : Message p) : Bool := sameMessageStruct m.msg other.msg

def isReply (m : Message p) : Bool := m.inReplyTo.isSome

def isRequest (m : Message p) : Bool := m.msg.flags &&& wantAReply != 0

def isStatefulRequest (m : Message p) : Bool := m.msg.flags &&& wantAReply != 0 && m.to_ != 0

def wantsUsToReply (m : Message p) : Bool := m.msg.flags &&& wantYouToReply != 0

def isSynthetic (m : Message p) : Bool := m.msg.flags &&& synthetic != 0

def isUrgent (m : Message p) : Bool := m.msg.flags &&& urgent != 0

def equivalent (m other : Message p) : Bool := equivalentMessageStruct m.msg other.msg

def totalLength (m : Message p) : Nat :=
  calcEntireMessageLen p m.msg.nameLen.toNat m.msg.dataLen.toNat

end Message

def fromData (name : Bytes) (data : Option Bytes) (to_ from_ : Option UInt32)
    (origFrom finalTo : Option OrigFrom) (inReplyTo : Option MessageId) (flags : Option UInt32)
    (id : Option MessageId) : MessageHeaderStruct :=
  messageFromParts (id.getD ⟨0, 0⟩) (inReplyTo.getD ⟨0, 0⟩) (to_.getD 0) (from_.getD 0)
    (some (origFrom.getD ⟨0, 0⟩)) (some (finalTo.getD ⟨0, 0⟩)) (flags.getD 0) name data

/-- `Message._merge_args`: each argument that is not `None` replaces the extracted value. -/
def mergeArgs (extracted : Extracted) (data : Option Bytes) (to_ from_ : Option UInt32)
    (origFrom finalTo : Option OrigFrom) (inReplyTo : Option MessageId) (flags : Option UInt32)
    (id : Option MessageId) : MessageHeaderStruct :=
  fromData extracted.name (data.or extracted.data) (some (to_.getD extracted.to_))
    (some (from_.getD extracted.from_)) (origFrom.or extracted.origFrom)
    (finalTo.or extracted.finalTo) (inReplyTo.or extracted.inReplyTo)
    (some (flags.getD extracted.flags)) (id.or extracted.id)

/-- `Message.__init__` before the subclass's own steps: the name test, `_from_data` and
`_check`. -/
def messageInit (name : Bytes) (data : Option Bytes) (to_ from_ : Option UInt32)
    (origFrom finalTo : Option OrigFrom) (inReplyTo : Option MessageId) (flags : Option UInt32)
    (id : Option MessageId) : Except MessageError MessageHeaderStruct :=
  if (ascii "$.").isPrefixOf name then
    let h := fromData name data to_ from_ origFrom finalTo inReplyTo flags id
    match h.check with
    | .ok () => .ok h
    | .error err => .error err
  else .error (.valueError ("Message name \"" ++ latin1 name ++ "\" does not start \"$.\""))

/-- What a class's constructors do to the structure they have just built: an Announcement
clears `in_reply_to`, `orig_from` and `final_to`, a Request sets WANT_A_REPLY, a Reply
insists on an `in_reply_to`. -/
def MessageClass.finish {p : Platform} (cls : MessageClass) (msg : MessageStruct p) :
    Except MessageError (Message p) :=
  match cls with
  | .announcement =>
    .ok ⟨.announcement, ((msg.setInReplyTo ⟨0, 0⟩).setOrigFrom ⟨0, 0⟩).setFinalTo ⟨0, 0⟩⟩
  | .request => .ok ⟨.request, msg.setFlags (setBit msg.flags Message.wantAReply)⟩
  | .reply =>
    if msg.inReplyTo = ⟨0, 0⟩ then .error (.valueError "A Reply must specify in_reply_to")
    else .ok ⟨.reply, msg⟩
  | cls => .ok ⟨cls, msg⟩

/-! ## Constructors

`Message.init` and the subclasses' `init` are their `__init__`, each with the source's
arguments in the source's order. -/

def Message.init (p : Platform) (name : Bytes) (data : Option Bytes) (to_ from_ : Option UInt32)
    (origFrom finalTo : Option OrigFrom) (inReplyTo : Option MessageId) (flags : Option UInt32)
    (id : Option MessageId) : Except MessageError (Message p) :=
  (messageInit name data to_ from_ origFrom finalTo inReplyTo flags id).bind
    fun h => MessageClass.message.finish (.pointy h)

def Announcement.init (p : Platform) (name : Bytes) (data : Option Bytes)
    (to_ from_ : Option UInt32) (flags : Option UInt32) (id : Option MessageId) :
    Except MessageError (Message p) :=
  (messageInit name data to_ from_ none none none flags id).bind
    fun h => MessageClass.announcement.finish (.pointy h)

def Request.init (p : Platform) (name : Bytes) (data : Option Bytes) (to_ from_ : Option UInt32)
    (finalTo : Option OrigFrom) (flags : Option UInt32) (id : Option MessageId) :
    Except MessageError (Message p) :=
  (messageInit name data to_ from_ none finalTo none flags id).bind
    fun h => MessageClass.request.finish (.pointy h)

def Reply.init (p : Platform) (name : Bytes) (data : Option Bytes) (to_ from_ : Option UInt32)
    (origFrom : Option OrigFrom) (inReplyTo : Option MessageId) (flags : Option UInt32)
    (id : Option MessageId) : Except MessageError (Message p) :=
  (messageInit name data to_ from_ origFrom none inReplyTo flags id).bind
    fun h => MessageClass.reply.finish (.pointy h)

def Status.init (p : Platform) : Except MessageError (Message p) :=
  .error (.notImplementedError "Use the Status.from_bytes() method to construct a Status")

section FromMessage

variable {p : Platform}

def Message.fromMessage (msg : Message p) (data : Option Bytes) (to_ from_ : Option UInt32)
    (origFrom finalTo : Option OrigFrom) (inReplyTo : Option MessageId) (flags : Option UInt32)
    (id : Option MessageId) : Except MessageError (Message p) :=
  MessageClass.message.finish
    (.pointy (mergeArgs msg.extract data to_ from_ origFrom finalTo inReplyTo flags id))

def Announcement.fromMessage (msg : Message p) (data : Option Bytes) (to_ from_ : Option UInt32)
    (flags : Option UInt32) (id : Option MessageId) : Except MessageError (Message p) :=
  MessageClass.announcement.finish
    (.pointy (mergeArgs msg.extract data to_ from_ none none none flags id))

def Request.fromMessage (msg : Message p) (data : Option Bytes) (to_ from_ : Option UInt32)
    (finalTo : Option OrigFrom) (flags : Option UInt32) (id : Option MessageId) :
    Except MessageError (Message p) :=
  MessageClass.request.finish
    (.pointy (mergeArgs msg.extract data to_ from_ none finalTo none flags id))

def Reply.fromMessage (msg : Message p) (data : Option Bytes) (to_ from_ : Option UInt32)
    (origFrom : Option OrigFrom) (inReplyTo : Option MessageId) (flags : Option UInt32)
    (id : Option MessageId) : Except MessageError (Message p) :=
  MessageClass.reply.finish
    (.pointy (mergeArgs msg.extract data to_ from_ origFrom none inReplyTo flags id))

def Status.fromMessage (_msg : Message p) : Except MessageError (Message p) :=
  .error (.notImplementedError "Status does not support the from_message() static method")

end FromMessage

/-! `from_sequence` takes an `extract()` tuple; its test that the sequence has nine
values always passes for an `Extracted`. -/

def Message.fromSequence (p : Platform) (seq : Extracted) (data : Option Bytes)
    (to_ from_ : Option UInt32) (origFrom finalTo : Option OrigFrom) (inReplyTo : Option MessageId)
    (flags : Option UInt32) (id : Option MessageId) : Except MessageError (Message p) :=
  MessageClass.message.finish
    (.pointy (mergeArgs seq data to_ from_ origFrom finalTo inReplyTo flags id))

def Announcement.fromSequence (p : Platform) (seq : Extracted) (data : Option Bytes)
    (to_ from_ : Option UInt32) (flags : Option UInt32) (id : Option MessageId) :
    Except MessageError (Message p) :=
  MessageClass.announcement.finish
    (.pointy (mergeArgs seq data to_ from_ none none none flags id))

def Request.fromSequence (p : Platform) (seq : Extracted) (data : Option Bytes)
    (to_ from_ : Option UInt32) (finalTo : Option OrigFrom) (flags : Option UInt32)
    (id : Option MessageId) : Except MessageError (Message p) :=
  MessageClass.request.finish
    (.pointy (mergeArgs seq data to_ from_ none finalTo none flags id))

def Reply.fromSequence (p : Platform) (seq : Extracted) (data : Option Bytes)
    (to_ from_ : Option UInt32) (origFrom : Option OrigFrom) (inReplyTo : Option MessageId)
    (flags : Option UInt32) (id : Option MessageId) : Except MessageError (Message p) :=
  MessageClass.reply.finish
    (.pointy (mergeArgs seq data to_ from_ origFrom none inReplyTo flags id))

def Status.fromSequence (p : Platform) (_seq : Extracted) : Except MessageError (Message p) :=
  .error (.notImplementedError "Status does not support the from_bytes() static method")

/-- The `from_bytes` constructors: the decoded entire structure, then the class's steps. -/
def MessageClass.fromBytes (cls : MessageClass) (p : Platform) (arg : Bytes)
    (beyond : Nat → UInt8) : Except MessageError (Message p) :=
  (entireMessageFromBytes p arg beyond).bind fun e => cls.finish (.entire e)

def Message.fromBytes (p : Platform) (arg : Bytes) (beyond : Nat → UInt8) :
    Except MessageError (Message p) := MessageClass.message.fromBytes p arg beyond

def Announcement.fromBytes (p : Platform) (arg : Bytes) (beyond : Nat → UInt8) :
    Except MessageError (Message p) := MessageClass.announcement.fromBytes p arg beyond

def Request.fromBytes (p : Platform) (arg : Bytes) (beyond : Nat → UInt8) :
    Except MessageError (Message p) := MessageClass.request.fromBytes p arg beyond

def Reply.fromBytes (p : Platform) (arg : Bytes) (beyond : Nat → UInt8) :
    Except MessageError (Message p) := MessageClass.reply.fromBytes p arg beyond

def Status.fromBytes (p : Platform) (arg : Bytes) (beyond : Nat → UInt8) :
    Except MessageError (Message p) := MessageClass.status.fromBytes p arg beyond

/-! ## Methods -/

namespace Message

variable {p : Platform}

/-- Dispatched on the object's class: `Announcement` and `Request` override the method to
raise. -/
def setWantReply (m : Message p) (value : Bool) : Except MessageError (Message p) :=
  match m.cls with
  | .announcement => .error (.typeError "Announcements are not Requests")
  | .request => .error (.typeError "Request always has \"want a reply\" set")
  | cls => .ok ⟨cls, m.msg.setFlags
      (if value then setBit m.msg.flags wantAReply else clearBit m.msg.flags wantAReply)⟩

def setUrgent (m : Message p) (value : Bool) : Message p :=
  ⟨m.cls, m.msg.setFlags (if value then setBit m.msg.flags urgent else clearBit m.msg.flags urgent)⟩

def toBytes (m : Message p) : Bytes := m.extract.toBytes p

def cast (m : Message p) (beyond : Nat → UInt8) : Except MessageError (Message p) :=
  if m.isReply then
    if (ascii "$.KBUS.").isPrefixOf m.msg.name then Status.fromBytes p m.toBytes beyond
    else Reply.fromMessage m none none none none none none none
  else if m.isRequest then Request.fromMessage m none none none none none none
  else Announcement.fromMessage m none none none none none

end Message

/-- `reply_to(original, data, flags)`. The `%s` rendering of the original message in the
error text is left out. -/
def replyTo {p : Platform} (original : Message p) (data : Option Bytes) (flags : UInt32) :
    Except MessageError (Message p) :=
  if original.flags &&& (Message.wantAReply ||| Message.wantYouToReply) ≠
      Message.wantAReply ||| Message.wantYouToReply then
    .error (.valueError
      "Cannot form a reply to a message that does not have WANT_A_REPLY and WANT_YOU_TO_REPLY set")
  else Reply.init p original.name data (some original.from_) none none original.id (some flags) none

def statefulRequest {p : Platform} (earlierMsg : Message p) (name : Bytes) (data : Option Bytes)
    (from_ : Option UInt32) (flags : Option UInt32) (id : Option MessageId) :
    Except MessageError (Message p) :=
  if earlierMsg.isReply then
    Request.init p name data (some earlierMsg.from_) from_ earlierMsg.origFrom flags id
  else if earlierMsg.isStatefulRequest then
    Request.init p name data (some earlierMsg.to_) from_ earlierMsg.finalTo flags id
  else .error (.valueError
    "The first argument of stateful_request() must be a Reply or a previous Stateful Request")

end Kbus
