import Kbus.Codec

/-! The tuple-form constructors and `cast()`. `from_sequence` and `from_message` build
through `_merge_args` and `_from_data`, so what `extract()` reads off their result is the
source tuple with the overrides put in and read back; `cast()` copies a message into the
subclass its flags and `in_reply_to` suggest. -/
namespace Kbus

variable {p : Platform}

/-- Python's truth test on data, as the properties read it back: empty data is `None`. -/
def readData (data : Option Bytes) : Option Bytes := data.filter fun d => !d.isEmpty

@[simp] theorem readData_none : readData none = none := rfl

@[simp] theorem readData_nil : readData (some []) = none := rfl

@[simp] theorem readData_cons (b : UInt8) (bs : Bytes) : readData (some (b :: bs)) = some (b :: bs) :=
  rfl

/-- `extract()` with each override that is not `None` put in place of its value, as
`_merge_args` does, and read back as the properties read it. -/
def Extracted.override (x : Extracted) (data : Option Bytes) (to_ from_ : Option UInt32)
    (origFrom finalTo : Option OrigFrom) (inReplyTo : Option MessageId) (flags : Option UInt32)
    (id : Option MessageId) : Extracted :=
  ⟨(id.or x.id).bind readId, (inReplyTo.or x.inReplyTo).bind readId, to_.getD x.to_,
    from_.getD x.from_, (origFrom.or x.origFrom).bind readOrigFrom,
    (finalTo.or x.finalTo).bind readOrigFrom, flags.getD x.flags, x.name, readData (data.or x.data)⟩

theorem readId_getD_eq_bind (o : Option MessageId) : readId (o.getD ⟨0, 0⟩) = o.bind readId := by
  cases o <;> rfl

theorem readOrigFrom_getD_eq_bind (o : Option OrigFrom) :
    readOrigFrom (o.getD ⟨0, 0⟩) = o.bind readOrigFrom := by
  cases o <;> rfl

/-- What `extract()` reads off the structure a tuple says, when its name and data fit a
`c_uint32`: all-zero ids and provenance as `None`, empty data as `None`. -/
theorem extract_fields_mk (id inReplyTo : Option MessageId) (to_ from_ : UInt32)
    (origFrom finalTo : Option OrigFrom) (flags : UInt32) {name : Bytes}
    (short : name.length < 2 ^ 32) {data : Option Bytes} (dataShort : (data.getD []).length < 2 ^ 32) :
    (Extracted.mk id inReplyTo to_ from_ origFrom finalTo flags name data).fields.extract =
      ⟨id.bind readId, inReplyTo.bind readId, to_, from_, origFrom.bind readOrigFrom,
        finalTo.bind readOrigFrom, flags, name, readData data⟩ := by
  simp only [Extracted.fields, Fields.extract, readId_getD_eq_bind, readOrigFrom_getD_eq_bind,
    uint32_toNat_ofNat, Nat.mod_eq_of_lt short, List.take_length, Extracted.mk.injEq, true_and]
  rcases data with _ | _ | ⟨b, bs⟩
  · rfl
  · rfl
  · have dataShort : (b :: bs).length < 2 ^ 32 := dataShort
    have nonzero : UInt32.ofNat (b :: bs).length ≠ 0 := fun h => by
      have zero := congrArg UInt32.toNat h
      rw [uint32_toNat_ofNat, Nat.mod_eq_of_lt dataShort] at zero
      simp at zero
    simp only [Option.getD_some]
    rw [if_neg nonzero]
    rfl

/-- The structure `_from_data` builds says what the tuple of its arguments says, once the
name has no NUL and the data fits a `c_uint32`. -/
theorem fields_fromData {name : Bytes} (clean : 0 ∉ name) {data : Option Bytes} (dataShort : (data.getD []).length < 2 ^ 32) (to_ from_ : Option UInt32)
    (origFrom finalTo : Option OrigFrom) (inReplyTo : Option MessageId) (flags : Option UInt32)
    (id : Option MessageId) :
    (MessageStruct.pointy (fromData name data to_ from_ origFrom finalTo inReplyTo flags id) :
      MessageStruct p).fields =
      (⟨id, inReplyTo, to_.getD 0, from_.getD 0, origFrom, finalTo, flags.getD 0, name,
        readData data⟩ : Extracted).fields := by
  simp only [MessageStruct.fields, fromData, messageFromParts, MessageStruct.id,
    MessageStruct.inReplyTo, MessageStruct.to_, MessageStruct.from_, MessageStruct.origFrom,
    MessageStruct.finalTo, MessageStruct.flags, MessageStruct.nameLen, MessageStruct.dataLen,
    MessageStruct.name, MessageStruct.cData, Extracted.fields, Option.getD_some,
    cString_padName clean, Fields.mk.injEq, true_and]
  cases data with
  | none => exact ⟨rfl, rfl⟩
  | some d =>
    cases d with
    | nil => exact ⟨rfl, rfl⟩
    | cons b bs =>
      have short' : (bs.length + 1) % 4294967296 = bs.length + 1 := Nat.mod_eq_of_lt dataShort
      simp [filled, padData_eq, short']

theorem length_readData_le (data : Option Bytes) :
    ((readData data).getD []).length ≤ (data.getD []).length := by
  rcases data with _ | _ | ⟨b, bs⟩ <;> simp

@[simp] theorem readData_readData (data : Option Bytes) : readData (readData data) = readData data := by
  rcases data with _ | _ | ⟨b, bs⟩ <;> rfl

theorem readData_of_normal {x : Extracted} (normal : x.Normal) : readData x.data = x.data := by
  rcases h : x.data with _ | _ | ⟨b, bs⟩
  · rfl
  · exact absurd h normal.data_ne
  · rfl

theorem mergeArgs_eq (x : Extracted) (data : Option Bytes) (to_ from_ : Option UInt32)
    (origFrom finalTo : Option OrigFrom) (inReplyTo : Option MessageId) (flags : Option UInt32)
    (id : Option MessageId) :
    mergeArgs x data to_ from_ origFrom finalTo inReplyTo flags id =
      fromData x.name (data.or x.data) (some (to_.getD x.to_)) (some (from_.getD x.from_))
        (origFrom.or x.origFrom) (finalTo.or x.finalTo) (inReplyTo.or x.inReplyTo)
        (some (flags.getD x.flags)) (id.or x.id) := rfl

/-- What `extract()` reads off the structure `_merge_args` builds. -/
theorem extract_mergeArgs (p : Platform) {x : Extracted} (clean : 0 ∉ x.name) (short : x.name.length < 2 ^ 32)
    {data : Option Bytes} (dataShort : ((data.or x.data).getD []).length < 2 ^ 32)
    (to_ from_ : Option UInt32) (origFrom finalTo : Option OrigFrom) (inReplyTo : Option MessageId)
    (flags : Option UInt32) (id : Option MessageId) :
    (MessageStruct.pointy (mergeArgs x data to_ from_ origFrom finalTo inReplyTo flags id) :
      MessageStruct p).fields.extract = x.override data to_ from_ origFrom finalTo inReplyTo flags id := by
  rw [mergeArgs_eq, fields_fromData clean dataShort, extract_fields_mk _ _ _ _ _ _ _ short
    ((length_readData_le _).trans_lt dataShort)]
  simp [Extracted.override]

theorem Message.extract_data_short (m : Message p) : (m.extract.data.getD []).length < 2 ^ 32 := by
  show ((if m.msg.dataLen = 0 then none else some m.msg.cData).getD []).length < 2 ^ 32
  split
  · simp
  · exact (m.msg.length_cData_le).trans_lt m.msg.dataLen.toNat_lt_size

theorem Message.extract_name_short (m : Message p) : m.extract.name.length < 2 ^ 32 := by
  show (m.msg.name.take m.msg.nameLen.toNat).length < 2 ^ 32
  rw [List.length_take]
  exact (min_le_left _ _).trans_lt m.msg.nameLen.toNat_lt_size

theorem Message.extract_name_clean (m : Message p) : 0 ∉ m.extract.name :=
  fun h => m.msg.nul_not_mem_name (List.mem_of_mem_take h)

/-- With no overrides, `from_sequence` rebuilds a consistent message's own structure. -/
theorem fields_fromSequence_self {m : Message p} (consistent : m.msg.fields.Consistent) :
    (MessageStruct.pointy (mergeArgs m.extract none none none none none none none none) :
      MessageStruct p).fields = m.msg.fields := by
  have normal := m.extract_normal consistent.data_counted
  have dataShort : ((none.or m.extract.data).getD []).length < 2 ^ 32 := normal.data_short
  rw [mergeArgs_eq, fields_fromData normal.name_clean dataShort]
  have same : readData m.extract.data = m.extract.data := by
    rcases h : m.extract.data with _ | _ | ⟨b, bs⟩
    · rfl
    · exact absurd h normal.data_ne
    · rfl
  simp only [Option.getD_some, Option.none_or, Option.getD_none, same]
  show m.extract.fields = _
  rw [Message.extract_eq, Fields.fields_extract consistent]

/-! ## `from_sequence` and `from_message` -/

/-- Merge semantics, corrected: for every message and every choice of overrides whose data
fits a `c_uint32`, `from_sequence(m.extract(), ...)` and `from_message(m, ...)` return a
message whose `extract()` is `m.extract()` with the overrides put in and read back; and
with no overrides a message made with a NUL-free name shorter than 2^32 bytes comes back
`==` itself from both. -/
theorem merge_overrides (m : Message p) (data : Option Bytes) (to_ from_ : Option UInt32)
    (origFrom finalTo : Option OrigFrom) (inReplyTo : Option MessageId) (flags : Option UInt32)
    (id : Option MessageId) (dataShort : (data.getD []).length < 2 ^ 32) :
    (∃ m', Message.fromSequence p m.extract data to_ from_ origFrom finalTo inReplyTo flags id =
        .ok m' ∧ m'.extract = m.extract.override data to_ from_ origFrom finalTo inReplyTo flags id) ∧
      (∃ m', Message.fromMessage m data to_ from_ origFrom finalTo inReplyTo flags id = .ok m' ∧
        m'.extract = m.extract.override data to_ from_ origFrom finalTo inReplyTo flags id) ∧
      ∀ n, Built p n m → 0 ∉ n → n.length < 2 ^ 32 →
        (∃ m', Message.fromSequence p m.extract none none none none none none none none = .ok m' ∧
          m'.equals m = true) ∧
        ∃ m', Message.fromMessage m none none none none none none none none = .ok m' ∧
          m'.equals m = true := by
  have merged : ((data.or m.extract.data).getD []).length < 2 ^ 32 := by
    cases data
    · exact m.extract_data_short
    · exact dataShort
  have extracted := extract_mergeArgs p m.extract_name_clean m.extract_name_short merged to_
    from_ origFrom finalTo inReplyTo flags id
  refine ⟨⟨_, rfl, extracted⟩, ⟨_, rfl, extracted⟩, fun n built clean short => ?_⟩
  have same := sameMessageStruct_of_fields (fields_fromSequence_self (built.consistent clean short))
  exact ⟨⟨_, rfl, same⟩, _, rfl, same⟩

theorem merge_overrides_fred :
    ∃ m : Message Platform.lp64,
      Message.init Platform.lp64 (ascii "$.Fred") none none none none none none none none = .ok m ∧
      (∃ m', Message.fromSequence Platform.lp64 m.extract (some (ascii "1234")) (some 9) none none
          none none none none = .ok m' ∧
        m'.extract = m.extract.override (some (ascii "1234")) (some 9) none none none none none
          none) ∧
      0 ∉ ascii "$.Fred" ∧ (ascii "$.Fred").length < 2 ^ 32 ∧
      ∃ m', Message.fromMessage m none none none none none none none none = .ok m' ∧
        m'.equals m = true := by
  obtain ⟨m, created⟩ : ∃ m : Message Platform.lp64,
      Message.init Platform.lp64 (ascii "$.Fred") none none none none none none none none = .ok m :=
    ⟨_, rfl⟩
  have merged :=
    merge_overrides m (some (ascii "1234")) (some 9) none none none none none none (by decide)
  have clean : 0 ∉ ascii "$.Fred" := by decide
  have short : (ascii "$.Fred").length < 2 ^ 32 := by decide
  exact ⟨m, created, merged.1, clean, short,
    (merged.2.2 _ (Built.ofMessageInit created) clean short).2⟩

/-- Data of 2^32 bytes wraps `data_len` to 0, so what `from_sequence` builds reads its data
back as `None`. -/
theorem fromSequence_data_wraps (p : Platform) (x : Extracted) (d : Bytes) (wrap : d.length = 2 ^ 32)
    (to_ from_ : Option UInt32) (origFrom finalTo : Option OrigFrom) (inReplyTo : Option MessageId)
    (flags : Option UInt32) (id : Option MessageId) :
    ∃ m', Message.fromSequence p x (some d) to_ from_ origFrom finalTo inReplyTo flags id = .ok m' ∧
      m'.extract.data = none := by
  refine ⟨_, rfl, if_pos ?_⟩
  obtain _ | ⟨b, bs⟩ := d
  · simp at wrap
  · show UInt32.ofNat (b :: bs).length = 0
    rw [wrap]
    decide

/-- A data override of 2^32 bytes wraps `data_len` to 0: the result reads its data back as
`None`, not as the override. -/
theorem merge_drops_long_data :
    ∃ m : Message Platform.lp64,
      Message.init Platform.lp64 (ascii "$.Fred") none none none none none none none none = .ok m ∧
      ∃ m', Message.fromSequence Platform.lp64 m.extract (some (65 :: List.replicate (2 ^ 32 - 1) 65))
          none none none none none none none = .ok m' ∧
        m'.extract.data = none ∧
        (m.extract.override (some (65 :: List.replicate (2 ^ 32 - 1) 65)) none none none none none
          none none).data = some (65 :: List.replicate (2 ^ 32 - 1) 65) := by
  obtain ⟨m, created⟩ : ∃ m : Message Platform.lp64,
      Message.init Platform.lp64 (ascii "$.Fred") none none none none none none none none = .ok m :=
    ⟨_, rfl⟩
  obtain ⟨m', built, wrapped⟩ := fromSequence_data_wraps Platform.lp64 m.extract
    (65 :: List.replicate (2 ^ 32 - 1) 65) (by rw [List.length_cons, List.length_replicate]; rfl)
    none none none none none none none
  exact ⟨m, created, m', built, wrapped, readData_cons _ _⟩

/-! ## `cast()` -/

/-- `cast()`, corrected: for every message the API hands out whose name has no NUL and is
shorter than 2^32 bytes, `cast()` returns the class its `in_reply_to`, name and flags
select, and a copy that keeps every field except that the Announcement branch clears
`orig_from` and `final_to`; the copy is `==` the original whenever the two `extract()`s
agree. -/
theorem cast_copies {n : Bytes} {m : Message p} (built : Built p n m) (clean : 0 ∉ n)
    (short : n.length < 2 ^ 32) (beyond : Nat → UInt8) :
    ∃ m', m.cast beyond = .ok m' ∧
      m'.cls = (if m.isReply then (if (ascii "$.KBUS.").isPrefixOf m.name then .status else .reply)
        else if m.isRequest then .request else .announcement) ∧
      m'.extract = (if m.isReply || m.isRequest then m.extract
        else { m.extract with origFrom := none, finalTo := none }) ∧
      (m'.extract = m.extract → m'.equals m = true) := by
  have consistent := built.consistent clean short
  have normal := m.extract_normal consistent.data_counted
  have copy := fields_fromSequence_self consistent
  have name : m.msg.name = m.name := by
    have counted : m.msg.name.length = m.msg.nameLen.toNat := consistent.name_counted
    show m.msg.name = m.msg.name.take m.msg.nameLen.toNat
    rw [← counted, List.take_length]
  -- every branch ends in a structure that says what `m` says, up to the class's own steps
  have keep : ∀ m' : Message p, m'.msg.fields = m.msg.fields → m'.extract = m.extract ∧
      (m'.extract = m.extract → m'.equals m = true) := fun m' same => by
    have e : m'.extract = m.extract := by rw [Message.extract_eq, same, ← Message.extract_eq]
    exact ⟨e, fun _ => sameMessageStruct_of_fields same⟩
  unfold Message.cast
  by_cases reply : m.isReply
  · simp only [reply, if_true, Bool.true_or]
    by_cases status : (ascii "$.KBUS.").isPrefixOf m.msg.name
    · obtain ⟨e, read, -, fields⟩ := m.extract.decode_toBytes normal p beyond
      have read : entireMessageFromBytes p m.toBytes beyond = .ok e := read
      rw [if_pos status, Status.fromBytes, MessageClass.fromBytes, read]
      refine ⟨_, rfl, by rw [← name, if_pos status], keep _ ?_⟩
      rw [fields, Message.extract_eq, Fields.fields_extract consistent]
    · rw [if_neg status]
      have replying : m.msg.inReplyTo ≠ ⟨0, 0⟩ := by
        intro zero
        simp [Message.isReply, Message.inReplyTo, zero] at reply
      have finished : MessageClass.reply.finish (.pointy (mergeArgs m.extract none none none none
          none none none none) : MessageStruct p) = .ok ⟨.reply, .pointy (mergeArgs m.extract none
          none none none none none none none)⟩ := by
        rw [MessageClass.finish, if_neg]
        exact fun zero => replying ((congrArg Fields.inReplyTo copy).symm.trans zero)
      exact ⟨_, finished, by rw [← name, if_neg status], keep _ copy⟩
  · have notReply : m.isReply = false := by simpa using reply
    simp only [notReply, if_false, Bool.false_or]
    by_cases request : m.isRequest
    · have set : m.msg.flags &&& Message.wantAReply ≠ 0 := by simpa [Message.isRequest] using request
      have flags : (MessageStruct.pointy (mergeArgs m.extract none none none none none none none
          none) : MessageStruct p).flags = m.msg.flags := congrArg Fields.flags copy
      rw [if_pos request]
      refine ⟨_, rfl, by simp [request], ?_⟩
      rw [if_pos request]
      refine keep _ ?_
      dsimp only
      rw [MessageStruct.fields_setFlags, flags, setBit_wantAReply_of_set set, copy]
      rfl
    · have zero : m.msg.inReplyTo = ⟨0, 0⟩ := by
        by_contra h
        exact reply (by simp [Message.isReply, Message.inReplyTo, h])
      have fields : (MessageStruct.setFinalTo ⟨0, 0⟩ (MessageStruct.setOrigFrom ⟨0, 0⟩
          (MessageStruct.setInReplyTo ⟨0, 0⟩ (MessageStruct.pointy (mergeArgs m.extract none none
          none none none none none none))) : MessageStruct p)).fields =
          { m.msg.fields with inReplyTo := ⟨0, 0⟩, origFrom := ⟨0, 0⟩, finalTo := ⟨0, 0⟩ } := by
        rw [MessageStruct.fields_setFinalTo, MessageStruct.fields_setOrigFrom,
          MessageStruct.fields_setInReplyTo, copy]
      rw [if_neg request]
      refine ⟨_, rfl, by simp [request], ?_, fun same =>
        Message.equals_of_extract ?_ consistent same⟩
      · rw [if_neg request, Message.extract_eq]
        dsimp only
        rw [fields, Message.extract_eq]
        have zero : m.msg.fields.inReplyTo = ⟨0, 0⟩ := zero
        simp [Fields.extract, readId, readOrigFrom, zero]
      · dsimp only
        rw [fields]
        exact ⟨consistent.1, consistent.2⟩

theorem cast_copies_fred :
    ∃ m : Message Platform.lp64,
      Message.init Platform.lp64 (ascii "$.Fred") none none none none none none none none = .ok m ∧
      ∃ m', m.cast (fun _ => 0) = .ok m' ∧
        m'.cls = (if m.isReply then (if (ascii "$.KBUS.").isPrefixOf m.name then .status else .reply)
          else if m.isRequest then .request else .announcement) ∧
        m'.extract = (if m.isReply || m.isRequest then m.extract
          else { m.extract with origFrom := none, finalTo := none }) ∧
        (m'.extract = m.extract → m'.equals m = true) := by
  obtain ⟨m, created⟩ : ∃ m : Message Platform.lp64,
      Message.init Platform.lp64 (ascii "$.Fred") none none none none none none none none = .ok m :=
    ⟨_, rfl⟩
  exact ⟨m, created, cast_copies (Built.ofMessageInit created) (by decide) (by decide) _⟩

/-- `cast()` of a plain message that carries `orig_from` takes the Announcement branch,
which clears it: the copy neither keeps `extract()` nor is `==` the original. -/
theorem cast_clears_orig_from :
    ∃ m : Message Platform.lp64,
      Message.init Platform.lp64 (ascii "$.Fred") none none none (some ⟨1, 2⟩) none none none
        none = .ok m ∧
      ∃ m', m.cast (fun _ => 0) = .ok m' ∧ m'.cls = .announcement ∧
        m.extract.origFrom = some ⟨1, 2⟩ ∧ m'.extract.origFrom = none ∧ m'.equals m = false :=
  ⟨_, rfl, _, rfl, rfl, by decide, by decide, by decide⟩

end Kbus
