import Kbus.Reachable

/-! `to_bytes()` and `from_bytes()`. The frame `to_bytes` writes has the header, the padded
name and data, and the end guard exactly where `calc_entire_message_len` counts them;
decoding it gives back a structure that says what the encoded tuple says. Over both stands
the pair `Fields.extract` and `Extracted.fields`, what `extract()` reads off a structure
and what a structure built from a tuple says. -/
namespace Kbus

variable {p : Platform}

/-! ## Tuples and what structures say -/

/-- An id as the properties read it: all zero is `None`. -/
def readId (v : MessageId) : Option MessageId := if v = ⟨0, 0⟩ then none else some v

/-- `orig_from` and `final_to` as the properties read them. -/
def readOrigFrom (v : OrigFrom) : Option OrigFrom := if v = ⟨0, 0⟩ then none else some v

/-- The tuple `extract()` reads off a structure that says `f`. -/
def Fields.extract (f : Fields) : Extracted :=
  ⟨readId f.id, readId f.inReplyTo, f.to_, f.from_, readOrigFrom f.origFrom,
    readOrigFrom f.finalTo, f.flags, f.name.take f.nameLen.toNat,
    if f.dataLen = 0 then none else some f.cData⟩

theorem Message.extract_eq (m : Message p) : m.extract = m.msg.fields.extract := rfl

/-- What a structure built from the tuple `x` says, when it keeps all of it. -/
def Extracted.fields (x : Extracted) : Fields :=
  ⟨x.id.getD ⟨0, 0⟩, x.inReplyTo.getD ⟨0, 0⟩, x.to_, x.from_, x.origFrom.getD ⟨0, 0⟩,
    x.finalTo.getD ⟨0, 0⟩, x.flags, UInt32.ofNat x.name.length,
    UInt32.ofNat (x.data.getD []).length, x.name, x.data.getD []⟩

/-- A tuple as `extract()` returns it: ids and provenance that are not all zero, data that
is not empty, a name without NUL, and lengths a `c_uint32` holds. -/
structure Extracted.Normal (x : Extracted) : Prop where
  id_ne : x.id ≠ some ⟨0, 0⟩
  inReplyTo_ne : x.inReplyTo ≠ some ⟨0, 0⟩
  origFrom_ne : x.origFrom ≠ some ⟨0, 0⟩
  finalTo_ne : x.finalTo ≠ some ⟨0, 0⟩
  data_ne : x.data ≠ some []
  name_clean : 0 ∉ x.name
  name_short : x.name.length < 2 ^ 32
  data_short : (x.data.getD []).length < 2 ^ 32

/-- The header's `name_len` and `data_len` count the name and data the structure holds. -/
structure Fields.Consistent (f : Fields) : Prop where
  name_counted : f.name.length = f.nameLen.toNat
  data_counted : f.cData.length = f.dataLen.toNat

theorem readId_getD {o : Option MessageId} (normal : o ≠ some ⟨0, 0⟩) : readId (o.getD ⟨0, 0⟩) = o := by
  cases o with
  | none => rfl
  | some v => exact if_neg fun (h : v = ⟨0, 0⟩) => normal (h ▸ rfl)

theorem readOrigFrom_getD {o : Option OrigFrom} (normal : o ≠ some ⟨0, 0⟩) :
    readOrigFrom (o.getD ⟨0, 0⟩) = o := by
  cases o with
  | none => rfl
  | some v => exact if_neg fun (h : v = ⟨0, 0⟩) => normal (h ▸ rfl)

@[simp] theorem getD_readId (v : MessageId) : (readId v).getD ⟨0, 0⟩ = v := by
  unfold readId; split <;> simp_all

@[simp] theorem getD_readOrigFrom (v : OrigFrom) : (readOrigFrom v).getD ⟨0, 0⟩ = v := by
  unfold readOrigFrom; split <;> simp_all

theorem readId_ne (v : MessageId) : readId v ≠ some ⟨0, 0⟩ := by
  unfold readId; split <;> simp_all

theorem readOrigFrom_ne (v : OrigFrom) : readOrigFrom v ≠ some ⟨0, 0⟩ := by
  unfold readOrigFrom; split <;> simp_all

/-- A normal tuple survives being built into a structure and read back. -/
theorem Extracted.extract_fields {x : Extracted} (normal : x.Normal) : x.fields.extract = x := by
  obtain ⟨id, inReplyTo, to_, from_, origFrom, finalTo, flags, name, data⟩ := x
  simp only [Extracted.fields, Fields.extract, readId_getD normal.id_ne,
    readId_getD normal.inReplyTo_ne, readOrigFrom_getD normal.origFrom_ne,
    readOrigFrom_getD normal.finalTo_ne, uint32_toNat_ofNat, Nat.mod_eq_of_lt normal.name_short,
    List.take_length, Extracted.mk.injEq, true_and]
  cases data with
  | none => rfl
  | some d =>
    have nonempty : d ≠ [] := fun h => normal.data_ne (h ▸ rfl)
    have short : d.length < 2 ^ 32 := normal.data_short
    have nonzero : UInt32.ofNat d.length ≠ 0 := fun h => by
      have zero := congrArg UInt32.toNat h
      rw [uint32_toNat_ofNat, Nat.mod_eq_of_lt short] at zero
      exact nonempty (List.length_eq_zero.1 zero)
    simp [nonzero]

/-- A consistent structure says again what the tuple read off it says. -/
theorem Fields.fields_extract {f : Fields} (consistent : f.Consistent) : f.extract.fields = f := by
  obtain ⟨id, inReplyTo, to_, from_, origFrom, finalTo, flags, nameLen, dataLen, name, cData⟩ := f
  obtain ⟨nameCounted, dataCounted⟩ := consistent
  simp only at nameCounted dataCounted
  simp only [Fields.extract, Extracted.fields, getD_readId, getD_readOrigFrom, Fields.mk.injEq,
    true_and, ← nameCounted, List.take_length, uint32_ofNat_toNat]
  refine ⟨by rw [nameCounted, uint32_ofNat_toNat], ?_⟩
  by_cases zero : dataLen = 0
  · simp only [zero, if_true, Option.getD_none, List.length_nil]
    subst zero
    exact ⟨rfl, (List.length_eq_zero.1 dataCounted).symm⟩
  · simp [zero, dataCounted, uint32_ofNat_toNat]

theorem MessageStruct.nul_not_mem_name (s : MessageStruct p) : 0 ∉ s.name := by
  cases s with
  | pointy h => exact nul_not_mem_cString _
  | entire e => exact fun h => nul_not_mem_cString _ (List.mem_of_mem_take h)

theorem MessageStruct.length_cData_le (s : MessageStruct p) : s.cData.length ≤ s.dataLen.toNat := by
  cases s <;> exact List.length_take_le _ _

/-- What `extract()` returns is normal, once the header counts the data held. -/
theorem Message.extract_normal (m : Message p) (counted : m.msg.cData.length = m.msg.dataLen.toNat) :
    m.extract.Normal where
  id_ne := readId_ne _
  inReplyTo_ne := readId_ne _
  origFrom_ne := readOrigFrom_ne _
  finalTo_ne := readOrigFrom_ne _
  data_ne := by
    show (if m.msg.dataLen = 0 then none else some m.msg.cData) ≠ some []
    split
    · exact nofun
    · rename_i nonzero
      intro h
      apply nonzero
      apply UInt32.toNat.inj
      rw [← counted, Option.some.inj h]
      rfl
  name_clean := fun h => m.msg.nul_not_mem_name (List.mem_of_mem_take h)
  name_short := by
    have := m.msg.nameLen.toNat_lt_size
    show (m.msg.name.take m.msg.nameLen.toNat).length < 2 ^ 32
    rw [List.length_take]; exact lt_of_le_of_lt (min_le_left _ _) this
  data_short := by
    have := m.msg.dataLen.toNat_lt_size
    show ((if m.msg.dataLen = 0 then none else some m.msg.cData).getD []).length < 2 ^ 32
    split
    · simp
    · simp only [Option.getD_some, counted]; exact this

theorem Extracted.fields_consistent {x : Extracted} (normal : x.Normal) : x.fields.Consistent where
  name_counted := by
    simp only [Extracted.fields, uint32_toNat_ofNat, Nat.mod_eq_of_lt normal.name_short]
  data_counted := by
    simp only [Extracted.fields, uint32_toNat_ofNat, Nat.mod_eq_of_lt normal.data_short]

/-- Two consistent structures with the same `extract()` say the same, so `__eq__` holds. -/
theorem Message.equals_of_extract {a b : Message p} (ca : a.msg.fields.Consistent)
    (cb : b.msg.fields.Consistent) (same : a.extract = b.extract) : a.equals b = true := by
  apply sameMessageStruct_of_fields
  rw [← Fields.fields_extract ca, ← Fields.fields_extract cb]
  exact congrArg Extracted.fields same

/-! ## The structure `_entire_message_from_parts` builds -/

section FromParts

variable (p : Platform) (id inReplyTo : Option MessageId) (to_ from_ : UInt32)
  (origFrom finalTo : Option OrigFrom) (flags : UInt32) (name : Bytes) (data : Option Bytes)

/-- The four fields of the structure: header, name area, data area, end guard. -/
theorem fieldAt_entireMessageFromParts {i : Nat} (hi : i < 4) :
    fieldAt (entireMessageTypes p (calcPaddedNameLen name.length)
        (calcPaddedDataLen (data.getD []).length))
      (entireMessageFromParts p id inReplyTo to_ from_ origFrom finalTo flags name data).buf i =
      [headerImage p (id.getD ⟨0, 0⟩) (inReplyTo.getD ⟨0, 0⟩) to_ from_ (origFrom.getD ⟨0, 0⟩)
          (finalTo.getD ⟨0, 0⟩) flags (UInt32.ofNat name.length) (UInt32.ofNat (data.getD []).length),
        charArrayStore (calcPaddedNameLen name.length) (padToFour (name ++ [0])),
        padToFour (data.getD []), p.u32Bytes Message.endGuard].getD i [] := by
  rw [← length_padName, ← length_padData]
  exact fieldAt_pack_of_types _ _ rfl (by
    simp [Sized, cCharArray, cUint8Array, length_charArrayStore le_rfl, length_headerImage,
      msgHeaderLen]) i (by simpa using hi)

theorem take_header_entireMessageFromParts :
    (entireMessageFromParts p id inReplyTo to_ from_ origFrom finalTo flags name data).buf.take
        (msgHeaderLen p) =
      headerImage p (id.getD ⟨0, 0⟩) (inReplyTo.getD ⟨0, 0⟩) to_ from_ (origFrom.getD ⟨0, 0⟩)
        (finalTo.getD ⟨0, 0⟩) flags (UInt32.ofNat name.length) (UInt32.ofNat (data.getD []).length) := by
  have h := fieldAt_entireMessageFromParts p id inReplyTo to_ from_ origFrom finalTo flags name data
    (show 0 < 4 by decide)
  simpa [fieldAt, offsetOf_entire, fieldSize_entire, slice] using h

end FromParts

theorem take_four_header (p : Platform) (hdr : Bytes) :
    hdr.take 4 = fieldAt (messageHeaderTypes p) hdr 0 := by
  rw [fieldAt, offsetOf_header p (by decide), fieldSize_header p (by decide)]
  rfl

/-- `_entire_message_from_bytes` on bytes that start with a header carrying the start guard:
it accepts them, and keys its class by that header's `name_len` and `data_len`. -/
theorem entireMessageFromBytes_headerImage {p : Platform} {arg : Bytes} (beyond : Nat → UInt8)
    {id inReplyTo : MessageId} {to_ from_ : UInt32} {origFrom finalTo : OrigFrom}
    {flags nameLen dataLen : UInt32} (long : msgHeaderLen p ≤ arg.length)
    (header : arg.take (msgHeaderLen p) =
      headerImage p id inReplyTo to_ from_ origFrom finalTo flags nameLen dataLen) :
    ∃ e : EntireMessageStruct p, entireMessageFromBytes p arg beyond = .ok e ∧
      DecodedFrom e arg beyond ∧
      e.header = headerImage p id inReplyTo to_ from_ origFrom finalTo flags nameLen dataLen ∧
      e.nameLen = nameLen ∧ e.dataLen = dataLen ∧
      e.types = entireMessageTypes p (calcPaddedNameLen nameLen.toNat)
        (calcPaddedDataLen dataLen.toNat) := by
  have guard : p.u32Of (arg.take 4) = Message.startGuard := by
    have within : 4 ≤ msgHeaderLen p := le_trans (by decide) (sixty_le_msgHeaderLen p)
    rw [← Nat.min_eq_left within, ← List.take_take, header, take_four_header p,
      fieldAt_headerImage _ _ _ _ _ _ _ _ _ _ (by decide)]
    exact u32Of_u32Bytes _ _
  obtain ⟨e, read⟩ := entireMessageFromBytes_isOk beyond long guard
  obtain ⟨-, -, decoded⟩ := entireMessageFromBytes_ok read
  have eHeader : e.header = headerImage p id inReplyTo to_ from_ origFrom finalTo flags nameLen dataLen := by
    rw [e.header_eq, decoded.copied, ← header]
    exact (header_structFromBytes_entire p _ _ _ beyond).trans (structFromBytes_of_le beyond long)
  have eNameLen : e.nameLen = nameLen := by
    simp [EntireMessageStruct.nameLen, headerU32, eHeader, fieldAt_headerImage]
  have eDataLen : e.dataLen = dataLen := by
    simp [EntireMessageStruct.dataLen, headerU32, eHeader, fieldAt_headerImage]
  refine ⟨e, read, decoded, eHeader, eNameLen, eDataLen, ?_⟩
  rw [EntireMessageStruct.types, decoded.keyedName, decoded.keyedData, eNameLen, eDataLen]

/-! ## The frame `to_bytes()` writes -/

section ToBytes

variable (x : Extracted) (p : Platform)

/-- The header `_entire_message_from_parts` stores for the tuple `x`. -/
def Extracted.header : Bytes :=
  headerImage p (x.id.getD ⟨0, 0⟩) (x.inReplyTo.getD ⟨0, 0⟩) x.to_ x.from_ (x.origFrom.getD ⟨0, 0⟩)
    (x.finalTo.getD ⟨0, 0⟩) x.flags (UInt32.ofNat x.name.length)
    (UInt32.ofNat (x.data.getD []).length)

/-- The class `_entire_message_from_parts` picks for `x`. -/
def Extracted.types : List CType :=
  entireMessageTypes p (calcPaddedNameLen x.name.length) (calcPaddedDataLen (x.data.getD []).length)

theorem Extracted.field_inside {i : Nat} (hi : i < 4) :
    offsetOf (x.types p) i + fieldSize (x.types p) i ≤
      calcEntireMessageLen p x.name.length (x.data.getD []).length := by
  rw [Extracted.types, offsetOf_entire, fieldSize_entire,
    alignUp_entire (four_dvd_calcPaddedNameLen _) (four_dvd_calcPaddedDataLen _)]
  interval_cases i <;> simp [calcEntireMessageLen] <;> omega

theorem Extracted.length_toBytes :
    (x.toBytes p).length = calcEntireMessageLen p x.name.length (x.data.getD []).length := by
  have size : (entireMessageFromParts p x.id x.inReplyTo x.to_ x.from_ x.origFrom x.finalTo x.flags
      x.name x.data).buf.length = (cStruct (x.types p)).size := by
    rw [EntireMessageStruct.buf_length, Extracted.types, ← length_padName, ← length_padData]
    rfl
  have room := end_le_size_entire p (calcPaddedNameLen x.name.length)
    (calcPaddedDataLen (x.data.getD []).length)
  rw [alignUp_entire (four_dvd_calcPaddedNameLen _) (four_dvd_calcPaddedDataLen _)] at room
  rw [Extracted.toBytes, List.length_take, size, Extracted.types]
  unfold calcEntireMessageLen
  omega

/-- The four fields of the frame: header, name area, data area, end guard. -/
theorem Extracted.fieldAt_toBytes {i : Nat} (hi : i < 4) :
    fieldAt (x.types p) (x.toBytes p) i =
      [x.header p, charArrayStore (calcPaddedNameLen x.name.length) (padToFour (x.name ++ [0])),
        padToFour (x.data.getD []), p.u32Bytes Message.endGuard].getD i [] := by
  rw [Extracted.toBytes, fieldAt_take _ (x.field_inside p hi)]
  exact fieldAt_entireMessageFromParts p x.id x.inReplyTo x.to_ x.from_ x.origFrom x.finalTo x.flags
    x.name x.data hi

theorem Extracted.take_header_toBytes : (x.toBytes p).take (msgHeaderLen p) = x.header p := by
  have h := x.fieldAt_toBytes p (show 0 < 4 by decide)
  simpa [fieldAt, Extracted.types, offsetOf_entire, fieldSize_entire, slice] using h

end ToBytes

/-- The name area `_entire_message_from_parts` stores: the name, then NULs. -/
theorem charArrayStore_padName {name : Bytes} (clean : 0 ∉ name) :
    charArrayStore (calcPaddedNameLen name.length) (padToFour (name ++ [0])) =
      name ++ zeros (calcPaddedNameLen name.length - name.length) := by
  rw [charArrayStore, cString_padName clean]

theorem cString_name_zeros {name : Bytes} (clean : 0 ∉ name) {k : Nat} (more : 0 < k) :
    cString (name ++ zeros k) = name := by
  obtain ⟨j, rfl⟩ : ∃ j, k = j + 1 := ⟨k - 1, by omega⟩
  exact cString_append_nul clean _

section Layout

variable (x : Extracted) (p : Platform)

theorem Extracted.take_four_toBytes : (x.toBytes p).take 4 = p.u32Bytes Message.startGuard := by
  have guard := fieldAt_headerImage p (x.id.getD ⟨0, 0⟩) (x.inReplyTo.getD ⟨0, 0⟩) x.to_ x.from_
    (x.origFrom.getD ⟨0, 0⟩) (x.finalTo.getD ⟨0, 0⟩) x.flags (UInt32.ofNat x.name.length)
    (UInt32.ofNat (x.data.getD []).length) (show 0 < 14 by decide)
  have within : 4 ≤ msgHeaderLen p := le_trans (by decide) (sixty_le_msgHeaderLen p)
  rw [← Nat.min_eq_left within, ← List.take_take, x.take_header_toBytes, Extracted.header,
    take_four_header p, guard]
  rfl

theorem Extracted.nameArea_toBytes {x : Extracted} (clean : 0 ∉ x.name) :
    slice (x.toBytes p) (msgHeaderLen p) (calcPaddedNameLen x.name.length) =
      x.name ++ zeros (calcPaddedNameLen x.name.length - x.name.length) := by
  have h := x.fieldAt_toBytes p (show 1 < 4 by decide)
  simp only [fieldAt, Extracted.types, offsetOf_entire, fieldSize_entire] at h
  simpa [charArrayStore_padName clean] using h

theorem Extracted.dataArea_toBytes :
    slice (x.toBytes p) (msgHeaderLen p + calcPaddedNameLen x.name.length)
        (calcPaddedDataLen (x.data.getD []).length) =
      x.data.getD [] ++ zeros (calcPaddedDataLen (x.data.getD []).length - (x.data.getD []).length) := by
  have h := x.fieldAt_toBytes p (show 2 < 4 by decide)
  simp only [fieldAt, Extracted.types, offsetOf_entire, fieldSize_entire] at h
  simpa [padData_eq] using h

theorem Extracted.endGuard_toBytes :
    (x.toBytes p).drop ((x.toBytes p).length - 4) = p.u32Bytes Message.endGuard := by
  have h := x.fieldAt_toBytes p (show 3 < 4 by decide)
  simp only [fieldAt, Extracted.types, offsetOf_entire, fieldSize_entire,
    alignUp_entire (four_dvd_calcPaddedNameLen _) (four_dvd_calcPaddedDataLen _)] at h
  have last : (x.toBytes p).length - 4 =
      msgHeaderLen p + calcPaddedNameLen x.name.length + calcPaddedDataLen (x.data.getD []).length := by
    rw [x.length_toBytes]; unfold calcEntireMessageLen; omega
  have rest : ((x.toBytes p).drop ((x.toBytes p).length - 4)).length = 4 := by
    simp only [List.length_drop]; rw [x.length_toBytes]; unfold calcEntireMessageLen; omega
  rw [← List.take_of_length_le (le_of_eq rest), last]
  simpa [slice] using h

end Layout

/-! ## Decoding the frame -/

/-- `_entire_message_from_bytes` takes the frame of a normal tuple, and the structure it
makes says what the tuple says. -/
theorem Extracted.decode_toBytes {x : Extracted} (normal : x.Normal) (p : Platform)
    (beyond : Nat → UInt8) :
    ∃ e : EntireMessageStruct p, entireMessageFromBytes p (x.toBytes p) beyond = .ok e ∧
      e.types = x.types p ∧ (MessageStruct.entire e).fields = x.fields := by
  have long : msgHeaderLen p ≤ (x.toBytes p).length := by
    rw [x.length_toBytes]; unfold calcEntireMessageLen; omega
  obtain ⟨e, read, decoded, header, -, -, keyed⟩ :=
    entireMessageFromBytes_headerImage beyond long (x.take_header_toBytes p)
  have types : e.types = x.types p := by
    rw [keyed, uint32_toNat_ofNat, uint32_toNat_ofNat, Nat.mod_eq_of_lt normal.name_short,
      Nat.mod_eq_of_lt normal.data_short]
    rfl
  have fits : calcEntireMessageLen p x.name.length (x.data.getD []).length ≤
      (cStruct (x.types p)).size := by
    have room := end_le_size_entire p (calcPaddedNameLen x.name.length)
      (calcPaddedDataLen (x.data.getD []).length)
    rw [alignUp_entire (four_dvd_calcPaddedNameLen _) (four_dvd_calcPaddedDataLen _)] at room
    exact room
  have area : ∀ i < 4, fieldAt e.types e.buf i = fieldAt (x.types p) (x.toBytes p) i := by
    intro i hi
    rw [decoded.copied, types]
    exact fieldAt_structFromBytes _ beyond (x.length_toBytes p ▸ x.field_inside p hi)
      ((x.field_inside p hi).trans fits)
  have restName : e.restName = x.name ++ zeros (calcPaddedNameLen x.name.length - x.name.length) := by
    rw [EntireMessageStruct.restName, area 1 (by decide), x.fieldAt_toBytes p (by decide)]
    exact charArrayStore_padName normal.name_clean
  have restData : e.restData = padToFour (x.data.getD []) := by
    rw [EntireMessageStruct.restData, area 2 (by decide), x.fieldAt_toBytes p (by decide)]
    rfl
  have more := lt_calcPaddedNameLen x.name.length
  have nameShort : x.name.length % 4294967296 = x.name.length := Nat.mod_eq_of_lt normal.name_short
  have dataShort : (x.data.getD []).length % 4294967296 = (x.data.getD []).length :=
    Nat.mod_eq_of_lt normal.data_short
  refine ⟨e, read, types, ?_⟩
  rw [MessageStruct.fields_entire, restName, restData, cString_name_zeros normal.name_clean
    (by omega), padData_eq]
  simp [Extracted.fields, headerU32, header, fieldAt_headerImage, nameShort, dataShort]

/-- The frame layout: for every message, `to_bytes()` is exactly `calc_entire_message_len`
bytes long, starts with the start guard, holds the name and NULs up to the padded name
length, then the data and zero bytes up to the padded data length, and ends with the end
guard. -/
theorem to_bytes_layout (m : Message p) :
    m.toBytes.length = calcEntireMessageLen p m.name.length (m.data.getD []).length ∧
      m.toBytes.take 4 = p.u32Bytes Message.startGuard ∧
      slice m.toBytes (msgHeaderLen p) m.name.length = m.name ∧
      slice m.toBytes (msgHeaderLen p + m.name.length)
          (calcPaddedNameLen m.name.length - m.name.length) =
        zeros (calcPaddedNameLen m.name.length - m.name.length) ∧
      slice m.toBytes (msgHeaderLen p + calcPaddedNameLen m.name.length)
          (calcPaddedDataLen (m.data.getD []).length) =
        m.data.getD [] ++ zeros (calcPaddedDataLen (m.data.getD []).length - (m.data.getD []).length) ∧
      m.toBytes.drop (m.toBytes.length - 4) = p.u32Bytes Message.endGuard := by
  have clean : 0 ∉ m.extract.name := fun h => m.msg.nul_not_mem_name (List.mem_of_mem_take h)
  have nameArea : slice m.toBytes (msgHeaderLen p) (calcPaddedNameLen m.name.length) =
      m.name ++ zeros (calcPaddedNameLen m.name.length - m.name.length) :=
    m.extract.nameArea_toBytes p clean
  have room := lt_calcPaddedNameLen m.name.length
  refine ⟨m.extract.length_toBytes p, m.extract.take_four_toBytes p, ?_, ?_,
    m.extract.dataArea_toBytes p, m.extract.endGuard_toBytes p⟩
  · rw [← Nat.add_zero (msgHeaderLen p), ← slice_slice m.toBytes (msgHeaderLen p)
      (calcPaddedNameLen m.name.length) 0 m.name.length (by omega), nameArea]
    simp [slice]
  · rw [← slice_slice m.toBytes (msgHeaderLen p) (calcPaddedNameLen m.name.length) m.name.length
      (calcPaddedNameLen m.name.length - m.name.length) (by omega), nameArea]
    simpa using slice_append_exact m.name (zeros (calcPaddedNameLen m.name.length - m.name.length)) []

/-! ## The round trip over every message the API hands out -/

/-- A message made with a NUL-free name shorter than 2^32 bytes says consistently what it
holds. -/
theorem Built.consistent {n : Bytes} {m : Message p} (built : Built p n m) (clean : 0 ∉ n)
    (short : n.length < 2 ^ 32) : m.msg.fields.Consistent := by
  have intact := built.intact
  refine ⟨?_, intact.dataLen_eq⟩
  rw [intact.name_eq clean, intact.nameLen_eq, uint32_toNat_ofNat, Nat.mod_eq_of_lt short]

theorem Message.fromBytes_entire {arg : Bytes} {beyond : Nat → UInt8} {e : EntireMessageStruct p}
    (read : entireMessageFromBytes p arg beyond = .ok e) :
    Message.fromBytes p arg beyond = .ok ⟨.message, .entire e⟩ := by
  show (entireMessageFromBytes p arg beyond).bind _ = _
  rw [read]
  rfl

/-- The wire round trip: every message the API hands out whose name has no NUL byte and is
shorter than 2^32 bytes comes back from `from_bytes(to_bytes())` equal to itself, with the
same `extract()`, whatever follows the frame in memory. -/
theorem from_bytes_to_bytes {n : Bytes} {m : Message p} (built : Built p n m) (clean : 0 ∉ n)
    (short : n.length < 2 ^ 32) (beyond : Nat → UInt8) :
    ∃ m', Message.fromBytes p m.toBytes beyond = .ok m' ∧ m'.equals m = true ∧
      m'.extract = m.extract := by
  have normal := m.extract_normal built.intact.dataLen_eq
  obtain ⟨e, read, -, fields⟩ := m.extract.decode_toBytes normal p beyond
  refine ⟨_, Message.fromBytes_entire read, sameMessageStruct_of_fields ?_, ?_⟩
  · rw [fields, Message.extract_eq, Fields.fields_extract (built.consistent clean short)]
  · rw [Message.extract_eq, fields]
    exact Extracted.extract_fields normal

theorem from_bytes_to_bytes_fred :
    ∃ m : Message Platform.lp64,
      Message.init Platform.lp64 (ascii "$.Fred") (some (ascii "1234")) none none none none none
        none none = .ok m ∧
      ∃ m', Message.fromBytes Platform.lp64 m.toBytes (fun _ => 0) = .ok m' ∧
        m'.equals m = true ∧ m'.extract = m.extract := by
  obtain ⟨m, created⟩ : ∃ m : Message Platform.lp64,
      Message.init Platform.lp64 (ascii "$.Fred") (some (ascii "1234")) none none none none none
        none none = .ok m := ⟨_, rfl⟩
  exact ⟨m, created, from_bytes_to_bytes (Built.ofMessageInit created) (by decide) (by decide) _⟩

/-- The corrected length invariant: for every message the API hands out, `data_len` is the
length of `data` and decoding `to_bytes()` keeps it; where the name has no NUL, `name_len` is
the length of `name`, `total_length()` is the length of `to_bytes()`, and decoding keeps
`name_len` too. -/
theorem header_lengths_of_built {n : Bytes} {m : Message p} (built : Built p n m) :
    (m.data.getD []).length = m.msg.dataLen.toNat ∧
      (0 ∉ n → m.name.length = m.msg.nameLen.toNat ∧ m.totalLength = m.toBytes.length) ∧
      ∀ beyond, ∃ m', Message.fromBytes p m.toBytes beyond = .ok m' ∧
        m'.msg.dataLen = m.msg.dataLen ∧ (0 ∉ n → m'.msg.nameLen = m.msg.nameLen) := by
  have intact := built.intact
  have nameLength (clean : 0 ∉ n) : m.name.length = m.msg.nameLen.toNat := by
    have name : m.msg.name = n := intact.name_eq clean
    have nameLen : m.msg.nameLen = UInt32.ofNat n.length := intact.nameLen_eq
    show (m.msg.name.take m.msg.nameLen.toNat).length = _
    rw [List.length_take, name, nameLen, uint32_toNat_ofNat]
    exact Nat.min_eq_left (Nat.mod_le _ _)
  have dataLength : (m.data.getD []).length = m.msg.dataLen.toNat := by
    show ((if m.msg.dataLen = 0 then none else some m.msg.cData).getD []).length = _
    split
    · simp_all
    · exact intact.dataLen_eq
  have normal := m.extract_normal intact.dataLen_eq
  refine ⟨dataLength, fun clean => ⟨nameLength clean, ?_⟩, fun beyond => ?_⟩
  · rw [Message.totalLength, Message.toBytes, Extracted.length_toBytes, ← nameLength clean,
      ← dataLength]
    rfl
  · obtain ⟨e, read, -, fields⟩ := m.extract.decode_toBytes normal p beyond
    refine ⟨_, Message.fromBytes_entire read, ?_, fun clean => ?_⟩
    · have h := congrArg Fields.dataLen fields
      simp only [Extracted.fields] at h
      exact h.trans (by rw [show m.extract.data = m.data from rfl, dataLength, uint32_ofNat_toNat])
    · have h := congrArg Fields.nameLen fields
      simp only [Extracted.fields] at h
      exact h.trans (by
        rw [show m.extract.name = m.name from rfl, nameLength clean, uint32_ofNat_toNat])

theorem header_lengths_of_built_fred :
    ∃ m : Message Platform.lp64,
      Message.init Platform.lp64 (ascii "$.Fred") (some (ascii "1234")) none none none none none
        none none = .ok m ∧ 0 ∉ ascii "$.Fred" ∧
      (m.data.getD []).length = m.msg.dataLen.toNat ∧
      m.name.length = m.msg.nameLen.toNat ∧ m.totalLength = m.toBytes.length ∧
      ∀ beyond, ∃ m', Message.fromBytes Platform.lp64 m.toBytes beyond = .ok m' ∧
        m'.msg.dataLen = m.msg.dataLen ∧ m'.msg.nameLen = m.msg.nameLen := by
  obtain ⟨m, created⟩ : ∃ m : Message Platform.lp64,
      Message.init Platform.lp64 (ascii "$.Fred") (some (ascii "1234")) none none none none none
        none none = .ok m := ⟨_, rfl⟩
  have clean : 0 ∉ ascii "$.Fred" := by decide
  obtain ⟨dataLength, named, decoded⟩ := header_lengths_of_built (Built.ofMessageInit created)
  obtain ⟨nameLength, total⟩ := named clean
  refine ⟨m, created, clean, dataLength, nameLength, total, fun beyond => ?_⟩
  obtain ⟨m', read, sameData, sameName⟩ := decoded beyond
  exact ⟨m', read, sameData, sameName clean⟩

/-- A NUL inside the name: `Message('$.a\x00b')` stores `name_len` 5 while its `name` reads
`'$.a'`, and `total_length()` is not the length of `to_bytes()`. -/
theorem nul_in_name_breaks_lengths :
    ∃ m : Message Platform.lp64,
      Message.init Platform.lp64 (ascii "$.a\x00b") none none none none none none none none = .ok m ∧
      m.msg.nameLen.toNat = 5 ∧ m.name = ascii "$.a" ∧ m.totalLength ≠ m.toBytes.length := by
  have name : (cString (padToFour (ascii "$.a\x00b" ++ [0]))).take (UInt32.ofNat 5).toNat =
      ascii "$.a" := by
    rw [padToFour_eq]; decide
  refine ⟨_, rfl, by decide, name, ?_⟩
  rw [Message.totalLength, Message.toBytes, Extracted.length_toBytes]
  change calcEntireMessageLen Platform.lp64 (UInt32.ofNat 5).toNat (UInt32.ofNat 0).toNat ≠
    calcEntireMessageLen Platform.lp64
      ((cString (padToFour (ascii "$.a\x00b" ++ [0]))).take (UInt32.ofNat 5).toNat).length
      ([] : Bytes).length
  rw [name, calcEntireMessageLen, calcEntireMessageLen, msgHeaderLen_lp64]
  decide

/-! ## Reading past the input -/

theorem size_entire_lp64_eight_zero : (cStruct (entireMessageTypes Platform.lp64 8 0)).size = 104 := by
  simp only [entireMessageTypes, messageHeaderType_lp64]; decide

/-- Decoding a bare header that announces a five-byte name: the name area is the eight bytes
that follow the input in memory. -/
theorem decode_bareHeader (beyond : Nat → UInt8) :
    ∃ e : EntireMessageStruct Platform.lp64,
      entireMessageFromBytes Platform.lp64
        (headerImage Platform.lp64 ⟨0, 0⟩ ⟨0, 0⟩ 0 0 ⟨0, 0⟩ ⟨0, 0⟩ 0 5 0) beyond = .ok e ∧
      e.types = entireMessageTypes Platform.lp64 8 0 ∧
      e.name = (cString ((List.range 8).map beyond)).take 5 := by
  have length : (headerImage Platform.lp64 ⟨0, 0⟩ ⟨0, 0⟩ 0 0 ⟨0, 0⟩ ⟨0, 0⟩ 0 5 0).length = 88 := by
    rw [length_headerImage, msgHeaderLen_lp64]
  obtain ⟨e, read, decoded, -, nameLen, -, types⟩ := entireMessageFromBytes_headerImage beyond
    (by rw [length, msgHeaderLen_lp64]) (List.take_of_length_le (by rw [length, msgHeaderLen_lp64]))
  replace types : e.types = entireMessageTypes Platform.lp64 8 0 := types
  have restName : e.restName = (List.range 8).map beyond := by
    rw [EntireMessageStruct.restName, decoded.copied, types]
    simp [fieldAt, offsetOf_entire, fieldSize_entire, msgHeaderLen_lp64, structFromBytes,
      size_entire_lp64_eight_zero, length, slice, List.take_of_length_le, ← List.map_take,
      List.take_range]
  refine ⟨e, read, types, ?_⟩
  rw [EntireMessageStruct.name, restName, nameLen]
  rfl

/-- The decoders read past their input. `from_bytes` accepts a bare header that announces a
five-byte name, keys a class longer than the header, and decodes as the name whatever memory
holds after it; on LP64 it reads past even the frame `to_bytes()` writes for
`Message('$.Fred')`; and `split_replier_bind_event_data` reads its header out of empty data. -/
theorem decoders_read_past_input :
    (∃ e₁ e₂ : EntireMessageStruct Platform.lp64,
      entireMessageFromBytes Platform.lp64
        (headerImage Platform.lp64 ⟨0, 0⟩ ⟨0, 0⟩ 0 0 ⟨0, 0⟩ ⟨0, 0⟩ 0 5 0) (fun _ => 65) = .ok e₁ ∧
      entireMessageFromBytes Platform.lp64
        (headerImage Platform.lp64 ⟨0, 0⟩ ⟨0, 0⟩ 0 0 ⟨0, 0⟩ ⟨0, 0⟩ 0 5 0) (fun _ => 0) = .ok e₂ ∧
      (headerImage Platform.lp64 ⟨0, 0⟩ ⟨0, 0⟩ 0 0 ⟨0, 0⟩ ⟨0, 0⟩ 0 5 0).length <
        (cStruct e₁.types).size ∧
      e₁.name ≠ e₂.name) ∧
    (∃ m : Message Platform.lp64,
      Message.init Platform.lp64 (ascii "$.Fred") none none none none none none none none = .ok m ∧
      ∀ beyond, ∃ e : EntireMessageStruct Platform.lp64,
        entireMessageFromBytes Platform.lp64 m.toBytes beyond = .ok e ∧
        m.toBytes.length < (cStruct e.types).size) ∧
    (splitReplierBindEventData Platform.lp64 [] (fun _ => 1)).1 ≠
      (splitReplierBindEventData Platform.lp64 [] (fun _ => 0)).1 := by
  refine ⟨?_, ?_, by decide⟩
  · obtain ⟨e₁, read₁, types₁, name₁⟩ := decode_bareHeader (fun _ => 65)
    obtain ⟨e₂, read₂, -, name₂⟩ := decode_bareHeader (fun _ => 0)
    refine ⟨e₁, e₂, read₁, read₂, ?_, ?_⟩
    · rw [types₁, size_entire_lp64_eight_zero, length_headerImage, msgHeaderLen_lp64]
      decide
    · rw [name₁, name₂]
      decide
  · obtain ⟨m, created⟩ : ∃ m : Message Platform.lp64,
        Message.init Platform.lp64 (ascii "$.Fred") none none none none none none none none =
          .ok m := ⟨_, rfl⟩
    refine ⟨m, created, fun beyond => ?_⟩
    have built := Built.ofMessageInit created
    have intact := built.intact
    obtain ⟨e, read, types, -⟩ :=
      m.extract.decode_toBytes (m.extract_normal intact.dataLen_eq) _ beyond
    have name : m.extract.name = ascii "$.Fred" := by
      show (m.msg.name.take m.msg.nameLen.toNat) = _
      have held : m.msg.name = ascii "$.Fred" := intact.name_eq (by decide)
      have counted : m.msg.nameLen = UInt32.ofNat (ascii "$.Fred").length := intact.nameLen_eq
      rw [held, counted]
      decide
    have data : m.extract.data.getD [] = [] := by
      show ((if m.msg.dataLen = 0 then none else some m.msg.cData).getD []) = []
      rw [← Except.ok.inj created]
      rfl
    refine ⟨e, read, ?_⟩
    rw [types, Message.toBytes, Extracted.length_toBytes, Extracted.types, name, data]
    show calcEntireMessageLen Platform.lp64 6 0 < (cStruct (entireMessageTypes Platform.lp64 8 0)).size
    rw [size_entire_lp64_eight_zero, calcEntireMessageLen, msgHeaderLen_lp64]
    decide

end Kbus
