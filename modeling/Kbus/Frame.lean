import Kbus.MessageId
import Kbus.Hexdata

/-! The message frame as the ctypes classes of `messages.py` lay it out:
`_MessageHeaderStruct`, the per-length "entire" classes, the padding rules, and the
functions that build a message structure from its parts or from bytes. -/
namespace Kbus

/-- The Python exceptions the modelled code raises, with their texts. -/
inductive MessageError
  | valueError (text : String)
  | typeError (text : String)
  | notImplementedError (text : String)
deriving DecidableEq, Repr

/-- A byte string as `%s` puts it into an exception's text. -/
def latin1 (b : Bytes) : String := String.mk (b.map fun x => Char.ofNat x.toNat)

/-! ## Constants

The guards of `Message`, and its four flags `_BIT(0)` to `_BIT(3)`. -/

def Message.startGuard : UInt32 := 0x7375624B
def Message.endGuard : UInt32 := 0x4B627573
def Message.wantAReply : UInt32 := 1
def Message.wantYouToReply : UInt32 := 2
def Message.synthetic : UInt32 := 4
def Message.urgent : UInt32 := 8

def setBit (value which : UInt32) : UInt32 := value ||| which

def clearBit (value which : UInt32) : UInt32 :=
  if value &&& which != 0 then value &&& ~~~which else value

/-! ## ctypes types of the frame

`c_char * n` and `c_uint8 * n` are arrays of one-byte elements; `Platform.pointer` is both
`c_char_p` and `POINTER(c_uint8)`; `idPairTypes` is `MessageId._fields_`, which
`OrigFrom._fields_` repeats. -/

def cUint32 : CType := ⟨4, 4, by decide⟩

def cCharArray (n : Nat) : CType := ⟨n, 1, Nat.one_pos⟩

def cUint8Array (n : Nat) : CType := ⟨n, 1, Nat.one_pos⟩

def Platform.pointer (p : Platform) : CType :=
  ⟨p.pointerSize, p.pointerSize, by rcases p.pointer_size with h | h <;> omega⟩

def idPairTypes : List CType := [cUint32, cUint32]

def MessageId.toBytes (p : Platform) (a : MessageId) : Bytes :=
  pack [(cUint32, p.u32Bytes a.networkId), (cUint32, p.u32Bytes a.serialNum)]

def MessageId.ofBytes (p : Platform) (b : Bytes) : MessageId :=
  ⟨p.u32Of (fieldAt idPairTypes b 0), p.u32Of (fieldAt idPairTypes b 1)⟩

def OrigFrom.toBytes (p : Platform) (a : OrigFrom) : Bytes :=
  pack [(cUint32, p.u32Bytes a.networkId), (cUint32, p.u32Bytes a.localId)]

def OrigFrom.ofBytes (p : Platform) (b : Bytes) : OrigFrom :=
  ⟨p.u32Of (fieldAt idPairTypes b 0), p.u32Of (fieldAt idPairTypes b 1)⟩

/-- `_MessageHeaderStruct._fields_`: start_guard, id, in_reply_to, to, from_, orig_from,
final_to, extra, flags, name_len, data_len, name, data, end_guard. -/
def messageHeaderTypes (p : Platform) : List CType :=
  [cUint32, cStruct idPairTypes, cStruct idPairTypes, cUint32, cUint32, cStruct idPairTypes,
    cStruct idPairTypes, cUint32, cUint32, cUint32, cUint32, p.pointer, p.pointer, cUint32]

/-- `_MessageHeaderStruct` as a ctypes type. Its layout turns on the pointer width, so it
is kept closed and read through the layout lemmas. -/
@[irreducible] def messageHeaderType (p : Platform) : CType := cStruct (messageHeaderTypes p)

def msgHeaderLen (p : Platform) : Nat := (messageHeaderType p).size

/-- `_specific_entire_message_struct(padded_name_len, padded_data_len)._fields_`:
header, rest_name, rest_data, rest_end_guard. -/
def entireMessageTypes (p : Platform) (paddedNameLen paddedDataLen : Nat) : List CType :=
  [messageHeaderType p, cCharArray paddedNameLen, cUint8Array paddedDataLen, cUint32]

/-- `_ReplierBindEventHeader._fields_`: is_bind, binder, name_len. -/
def replierBindEventHeaderTypes : List CType := [cUint32, cUint32, cUint32]

/-! ## Lengths and padding -/

def calcPaddedNameLen (nameLen : Nat) : Nat := 4 * ((nameLen + 1 + 3) / 4)

def calcPaddedDataLen (dataLen : Nat) : Nat := 4 * ((dataLen + 3) / 4)

def calcEntireMessageLen (p : Platform) (nameLen dataLen : Nat) : Nat :=
  msgHeaderLen p + calcPaddedNameLen nameLen + calcPaddedDataLen dataLen + 4

/-- The padding loop of `message_from_parts` and `_entire_message_from_parts`:
`while len(s) % 4: s += '\0'`. -/
def padToFour (s : Bytes) : Bytes :=
  if h : s.length % 4 = 0 then s else padToFour (s ++ [0])
termination_by (4 - s.length % 4) % 4
decreasing_by simp only [List.length_append, List.length_singleton]; omega

/-- Python's `if data:` on a string or `None`. -/
def filled : Option Bytes → Bool
  | some (_ :: _) => true
  | _ => false

/-! ## The "pointy" structure -/

/-- A `_MessageHeaderStruct` built with pointers: its `name` and `data` fields point at
Python-owned buffers, held here by their contents (`none` is a NULL pointer). -/
structure MessageHeaderStruct where
  startGuard : UInt32
  id : MessageId
  inReplyTo : MessageId
  to_ : UInt32
  from_ : UInt32
  origFrom : OrigFrom
  finalTo : OrigFrom
  extra : UInt32
  flags : UInt32
  nameLen : UInt32
  dataLen : UInt32
  name : Bytes
  data : Option Bytes
  endGuard : UInt32
deriving DecidableEq

def messageFromParts (id inReplyTo : MessageId) (to_ from_ : UInt32)
    (origFrom finalTo : Option OrigFrom) (flags : UInt32) (name : Bytes) (data : Option Bytes) :
    MessageHeaderStruct where
  startGuard := Message.startGuard
  id := id
  inReplyTo := inReplyTo
  to_ := to_
  from_ := from_
  origFrom := origFrom.getD ⟨0, 0⟩
  finalTo := finalTo.getD ⟨0, 0⟩
  extra := 0
  flags := flags
  nameLen := UInt32.ofNat name.length
  dataLen := UInt32.ofNat (if filled data then (data.getD []).length else 0)
  name := padToFour (name ++ [0])
  data := if filled data then some (padToFour (data.getD [])) else none
  endGuard := Message.endGuard

/-- A `c_uint32` as the format '%08x' prints it. -/
def hex08 (v : UInt32) : String :=
  let digits := Nat.toDigits 16 v.toNat
  String.mk (List.replicate (8 - digits.length) '0' ++ digits)

example : hex08 0x1F = "0000001f" := by decide

def MessageHeaderStruct.check (h : MessageHeaderStruct) : Except MessageError Unit :=
  if h.startGuard ≠ Message.startGuard then
    .error (.valueError ("Message start guard is \x27" ++ hex08 h.startGuard ++ "\x27, not \x27" ++
      hex08 Message.startGuard ++ "\x27"))
  else if h.endGuard ≠ Message.endGuard then
    .error (.valueError ("Message end guard is \x27" ++ hex08 h.endGuard ++ "\x27, not \x27" ++
      hex08 Message.endGuard ++ "\x27"))
  else if h.nameLen.toNat < 3 then
    .error (.valueError ("Message name is " ++ toString h.nameLen.toNat ++
      " long, minimum is 3 (e.g., \x27$.*\x27)"))
  else .ok ()

/-! ## The "entire" structures -/

/-- An instance of a `localEntireMessageStruct` class: the class's key and the buffer,
which ctypes keeps at the class's size. -/
structure EntireMessageStruct (p : Platform) where
  paddedNameLen : Nat
  paddedDataLen : Nat
  buf : Bytes
  buf_length : buf.length = (cStruct (entireMessageTypes p paddedNameLen paddedDataLen)).size

def headerU32 (p : Platform) (hdr : Bytes) (i : Nat) : UInt32 :=
  p.u32Of (fieldAt (messageHeaderTypes p) hdr i)

namespace EntireMessageStruct

variable {p : Platform}

def types (e : EntireMessageStruct p) : List CType :=
  entireMessageTypes p e.paddedNameLen e.paddedDataLen

def header (e : EntireMessageStruct p) : Bytes := fieldAt e.types e.buf 0
def restName (e : EntireMessageStruct p) : Bytes := fieldAt e.types e.buf 1
def restData (e : EntireMessageStruct p) : Bytes := fieldAt e.types e.buf 2

def id (e : EntireMessageStruct p) : MessageId :=
  MessageId.ofBytes p (fieldAt (messageHeaderTypes p) e.header 1)
def inReplyTo (e : EntireMessageStruct p) : MessageId :=
  MessageId.ofBytes p (fieldAt (messageHeaderTypes p) e.header 2)
def to_ (e : EntireMessageStruct p) : UInt32 := headerU32 p e.header 3
def from_ (e : EntireMessageStruct p) : UInt32 := headerU32 p e.header 4
def origFrom (e : EntireMessageStruct p) : OrigFrom :=
  OrigFrom.ofBytes p (fieldAt (messageHeaderTypes p) e.header 5)
def finalTo (e : EntireMessageStruct p) : OrigFrom :=
  OrigFrom.ofBytes p (fieldAt (messageHeaderTypes p) e.header 6)
def flags (e : EntireMessageStruct p) : UInt32 := headerU32 p e.header 8
def nameLen (e : EntireMessageStruct p) : UInt32 := headerU32 p e.header 9
def dataLen (e : EntireMessageStruct p) : UInt32 := headerU32 p e.header 10

/-- The `name` property: `self.rest_name[:name_len]`, the array read up to its first NUL. -/
def name (e : EntireMessageStruct p) : Bytes := (cString e.restName).take e.nameLen.toNat

/-- `self.data` when `data_len` is non-zero: `self.rest_data[:data_len]`. -/
def data (e : EntireMessageStruct p) : Bytes := e.restData.take e.dataLen.toNat

/-- Assigning a field of the `header` view: the store lands in this buffer. -/
def setHeaderField (e : EntireMessageStruct p) (i : Nat) (v : Bytes) : EntireMessageStruct p where
  paddedNameLen := e.paddedNameLen
  paddedDataLen := e.paddedDataLen
  buf := setField e.types e.buf 0 (setField (messageHeaderTypes p) e.header i v)
  buf_length := by rw [setField, length_patch, e.buf_length]

end EntireMessageStruct

/-- `_MessageHeaderStruct(START_GUARD, id, in_reply_to, to, from_, orig_from, final_to, 0,
flags, name_len, data_len, None, None, END_GUARD)` as bytes. -/
def headerImage (p : Platform) (id inReplyTo : MessageId) (to_ from_ : UInt32)
    (origFrom finalTo : OrigFrom) (flags nameLen dataLen : UInt32) : Bytes :=
  pack [(cUint32, p.u32Bytes Message.startGuard), (cStruct idPairTypes, id.toBytes p),
    (cStruct idPairTypes, inReplyTo.toBytes p), (cUint32, p.u32Bytes to_),
    (cUint32, p.u32Bytes from_), (cStruct idPairTypes, origFrom.toBytes p),
    (cStruct idPairTypes, finalTo.toBytes p), (cUint32, p.u32Bytes 0), (cUint32, p.u32Bytes flags),
    (cUint32, p.u32Bytes nameLen), (cUint32, p.u32Bytes dataLen), (p.pointer, zeros p.pointerSize),
    (p.pointer, zeros p.pointerSize), (cUint32, p.u32Bytes Message.endGuard)]

/-- Storing a string into a `c_char` array field of length `n` (ctypes' `s_set`): the bytes
up to the first NUL, then the NULs the fresh buffer already holds. `s_set` raises when
that prefix is longer than `n`, which `_entire_message_from_parts` never meets: there the
array is exactly as long as the string. -/
def charArrayStore (n : Nat) (s : Bytes) : Bytes := cString s ++ zeros (n - (cString s).length)

theorem length_cString_le (s : Bytes) : (cString s).length ≤ s.length :=
  List.IsPrefix.length_le (List.takeWhile_prefix _)

theorem length_charArrayStore {n : Nat} {s : Bytes} (fits : s.length ≤ n) :
    (charArrayStore n s).length = n := by
  have := length_cString_le s
  simp only [charArrayStore, List.length_append, length_zeros]
  omega

@[simp] theorem size_cUint32 : cUint32.size = 4 := rfl

@[simp] theorem size_pointer (p : Platform) : p.pointer.size = p.pointerSize := rfl

@[simp] theorem length_messageIdToBytes (p : Platform) (a : MessageId) :
    (a.toBytes p).length = (cStruct idPairTypes).size :=
  length_pack _ (by simp [Sized])

@[simp] theorem length_origFromToBytes (p : Platform) (a : OrigFrom) :
    (a.toBytes p).length = (cStruct idPairTypes).size :=
  length_pack _ (by simp [Sized])

theorem length_headerImage (p : Platform) (id inReplyTo : MessageId) (to_ from_ : UInt32)
    (origFrom finalTo : OrigFrom) (flags nameLen dataLen : UInt32) :
    (headerImage p id inReplyTo to_ from_ origFrom finalTo flags nameLen dataLen).length =
      msgHeaderLen p := by
  rw [headerImage, length_pack _ (by simp [Sized]), msgHeaderLen, messageHeaderType]
  rfl

def entireMessageFromParts (p : Platform) (id inReplyTo : Option MessageId) (to_ from_ : UInt32)
    (origFrom finalTo : Option OrigFrom) (flags : UInt32) (name : Bytes) (data : Option Bytes) :
    EntireMessageStruct p :=
  let nameLen := name.length
  let data := data.getD []
  let dataLen := data.length
  let name := padToFour (name ++ [0])
  let data := padToFour data
  let header := headerImage p (id.getD ⟨0, 0⟩) (inReplyTo.getD ⟨0, 0⟩) to_ from_
    (origFrom.getD ⟨0, 0⟩) (finalTo.getD ⟨0, 0⟩) flags (UInt32.ofNat nameLen) (UInt32.ofNat dataLen)
  { paddedNameLen := name.length
    paddedDataLen := data.length
    buf := pack [(messageHeaderType p, header),
      (cCharArray name.length, charArrayStore name.length name),
      (cUint8Array data.length, data), (cUint32, p.u32Bytes Message.endGuard)]
    buf_length := length_pack _ (by
      simp [Sized, cCharArray, cUint8Array, length_charArrayStore le_rfl, header,
        length_headerImage, msgHeaderLen]) }

/-- `_struct_from_bytes(struct_class, data)`: `memmove` copies `sizeof(struct_class)` bytes
from `data`'s buffer; past `len(data)` it copies what memory holds there, `beyond`. -/
def structFromBytes (t : CType) (data : Bytes) (beyond : Nat → UInt8) : Bytes :=
  data.take t.size ++ (List.range (t.size - data.length)).map beyond

theorem length_structFromBytes (t : CType) (data : Bytes) (beyond : Nat → UInt8) :
    (structFromBytes t data beyond).length = t.size := by
  simp only [structFromBytes, List.length_append, List.length_take, List.length_map,
    List.length_range]
  omega

def entireMessageFromBytes (p : Platform) (data : Bytes) (beyond : Nat → UInt8) :
    Except MessageError (EntireMessageStruct p) :=
  if data.length < msgHeaderLen p then
    .error (.valueError ("Cannot form entire message from string \"" ++ latin1 (hexdata data) ++
      "\" of length " ++ toString data.length))
  else if p.u32Of (data.take 4) ≠ Message.startGuard then
    .error (.valueError ("Cannot form entire message from string \"" ++
      latin1 (hexdata (data.take 8)) ++ ".." ++ latin1 (hexdata (data.drop (data.length - 8))) ++
      "\" which does not start with message start guard"))
  else
    let h := structFromBytes (messageHeaderType p) data beyond
    let paddedNameLen := calcPaddedNameLen (headerU32 p h 9).toNat
    let paddedDataLen := calcPaddedDataLen (headerU32 p h 10).toNat
    .ok { paddedNameLen, paddedDataLen
          buf := structFromBytes (cStruct (entireMessageTypes p paddedNameLen paddedDataLen)) data beyond
          buf_length := length_structFromBytes _ _ _ }

/-- `_pointy_message_from_bytes(msg_data)`: the header copied from the bytes (with no check
of their length or guards), its `name` pointed at the `name_len` bytes after it, and its
`data` at a fresh `data_len`-long array of the bytes after the padded name, zero where the
input runs out. -/
def pointyMessageFromBytes (p : Platform) (msgData : Bytes) (beyond : Nat → UInt8) :
    MessageHeaderStruct :=
  let h := structFromBytes (messageHeaderType p) msgData beyond
  let nameLen := headerU32 p h 9
  let dataLen := headerU32 p h 10
  let nameOffset := msgHeaderLen p
  let dataOffset := nameOffset + calcPaddedNameLen nameLen.toNat
  let data := slice msgData dataOffset dataLen.toNat
  { startGuard := headerU32 p h 0
    id := MessageId.ofBytes p (fieldAt (messageHeaderTypes p) h 1)
    inReplyTo := MessageId.ofBytes p (fieldAt (messageHeaderTypes p) h 2)
    to_ := headerU32 p h 3
    from_ := headerU32 p h 4
    origFrom := OrigFrom.ofBytes p (fieldAt (messageHeaderTypes p) h 5)
    finalTo := OrigFrom.ofBytes p (fieldAt (messageHeaderTypes p) h 6)
    extra := headerU32 p h 7
    flags := headerU32 p h 8
    nameLen
    dataLen
    name := slice msgData nameOffset nameLen.toNat
    data := if dataLen = 0 then none else some (data ++ zeros (dataLen.toNat - data.length))
    endGuard := headerU32 p h 13 }

def splitReplierBindEventData (p : Platform) (data : Bytes) (beyond : Nat → UInt8) :
    UInt32 × UInt32 × Bytes :=
  let hdr := structFromBytes (cStruct replierBindEventHeaderTypes) data beyond
  let offset := (cStruct replierBindEventHeaderTypes).size
  let nameLen := p.u32Of (fieldAt replierBindEventHeaderTypes hdr 2)
  (p.u32Of (fieldAt replierBindEventHeaderTypes hdr 0),
    p.u32Of (fieldAt replierBindEventHeaderTypes hdr 1), slice data offset nameLen.toNat)

end Kbus
