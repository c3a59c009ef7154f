import Kbus.Message
import Kbus.Padding
import Mathlib.Tactic.IntervalCases

/-! Where the frame's fields sit, and what reading them gives: in a fresh instance, after
a field is stored, and after a buffer is copied in from bytes. -/
namespace Kbus

/-! ## Fields of any structure -/

theorem length_fieldAt (ts : List CType) {buf : Bytes} {i : Nat}
    (inside : offsetOf ts i + fieldSize ts i ≤ buf.length) : (fieldAt ts buf i).length = fieldSize ts i := by
  simp only [fieldAt, length_slice]; omega

theorem fieldAt_setField_same (ts : List CType) {buf : Bytes} {i : Nat} {v : Bytes}
    (sized : v.length = fieldSize ts i) (inside : offsetOf ts i + fieldSize ts i ≤ buf.length) :
    fieldAt ts (setField ts buf i v) i = v := by
  unfold fieldAt setField
  rw [← sized] at inside ⊢
  exact slice_patch_same v inside

theorem fieldAt_setField_apart (ts : List CType) {buf : Bytes} {i j : Nat} {v : Bytes}
    (sized : v.length = fieldSize ts i) (inside : offsetOf ts i + fieldSize ts i ≤ buf.length)
    (apart : offsetOf ts j + fieldSize ts j ≤ offsetOf ts i ∨
      offsetOf ts i + fieldSize ts i ≤ offsetOf ts j) :
    fieldAt ts (setField ts buf i v) j = fieldAt ts buf j := by
  unfold fieldAt setField
  rw [← sized] at inside apart
  exact slice_patch_apart v inside apart

theorem fieldAt_take (ts : List CType) {buf : Bytes} {i n : Nat}
    (inside : offsetOf ts i + fieldSize ts i ≤ n) : fieldAt ts (buf.take n) i = fieldAt ts buf i :=
  slice_take inside

/-- A copy from bytes holds, wherever the bytes reach, what the bytes hold. -/
theorem slice_structFromBytes {t : CType} {data : Bytes} (beyond : Nat → UInt8) {off len : Nat}
    (covered : off + len ≤ data.length) (fits : off + len ≤ t.size) :
    slice (structFromBytes t data beyond) off len = slice data off len := by
  unfold structFromBytes
  rw [slice_append_left (by simp; omega), slice_take fits]

/-- A copy from bytes reads, in every field the bytes cover, what the bytes hold. -/
theorem fieldAt_structFromBytes (ts : List CType) {t : CType} {data : Bytes} {i : Nat}
    (beyond : Nat → UInt8) (covered : offsetOf ts i + fieldSize ts i ≤ data.length)
    (fits : offsetOf ts i + fieldSize ts i ≤ t.size) :
    fieldAt ts (structFromBytes t data beyond) i = fieldAt ts data i :=
  slice_structFromBytes beyond covered fits

theorem fieldAt_pack_of_types (ts : List CType) (fs : List (CType × Bytes))
    (types : fs.map Prod.fst = ts) (sized : Sized fs) (i : Nat) (hi : i < fs.length) :
    fieldAt ts (pack fs) i = (fs.map Prod.snd).getD i [] := by
  subst types
  rw [fieldAt_pack fs sized i hi, List.getD_eq_getElem?_getD, List.getElem?_map,
    List.getElem?_eq_getElem hi]
  rfl

theorem structFromBytes_of_le {t : CType} {data : Bytes} (beyond : Nat → UInt8)
    (long : t.size ≤ data.length) : structFromBytes t data beyond = data.take t.size := by
  simp [structFromBytes, Nat.sub_eq_zero_of_le long]

/-- The first bytes of a longer copy are the copy of a shorter type. -/
theorem structFromBytes_take {t t' : CType} (data : Bytes) (beyond : Nat → UInt8)
    (shorter : t'.size ≤ t.size) :
    (structFromBytes t data beyond).take t'.size = structFromBytes t' data beyond := by
  simp only [structFromBytes, List.take_append_eq_append_take, List.take_take, List.length_take,
    ← List.map_take, List.take_range]
  congr 3 <;> omega

/-! ## The header -/

/-- Offsets and sizes of the header's fields before the pointers, alike on every platform. -/
def headerOffsets : List Nat := [0, 4, 12, 20, 24, 28, 36, 44, 48, 52, 56]

def headerSizes : List Nat := [4, 8, 8, 4, 4, 8, 8, 4, 4, 4, 4]

theorem offsetOf_header (p : Platform) {i : Nat} (hi : i < 11) :
    offsetOf (messageHeaderTypes p) i = headerOffsets.getD i 0 := by
  interval_cases i <;> rfl

theorem fieldSize_header (p : Platform) {i : Nat} (hi : i < 11) :
    fieldSize (messageHeaderTypes p) i = headerSizes.getD i 0 := by
  interval_cases i <;> rfl

theorem header_fields_apart : ∀ i < 11, ∀ j < 11, i ≠ j →
    headerOffsets.getD j 0 + headerSizes.getD j 0 ≤ headerOffsets.getD i 0 ∨
      headerOffsets.getD i 0 + headerSizes.getD i 0 ≤ headerOffsets.getD j 0 := by decide

theorem header_fields_within : ∀ i < 11, headerOffsets.getD i 0 + headerSizes.getD i 0 ≤ 60 := by
  decide

theorem msgHeaderLen_cases (p : Platform) :
    (p.pointerSize = 4 ∧ msgHeaderLen p = 72) ∨ (p.pointerSize = 8 ∧ msgHeaderLen p = 88) := by
  rcases p with ⟨_, _ | _, rfl | rfl⟩ <;> rw [msgHeaderLen, messageHeaderType] <;> decide

theorem messageHeaderType_lp64 : messageHeaderType Platform.lp64 = ⟨88, 8, by decide⟩ := by
  rw [messageHeaderType]; decide

theorem msgHeaderLen_lp64 : msgHeaderLen Platform.lp64 = 88 := by
  rw [msgHeaderLen, messageHeaderType_lp64]

theorem sixty_le_msgHeaderLen (p : Platform) : 60 ≤ msgHeaderLen p := by
  rcases msgHeaderLen_cases p with ⟨-, h⟩ | ⟨-, h⟩ <;> omega

theorem four_dvd_msgHeaderLen (p : Platform) : 4 ∣ msgHeaderLen p := by
  rcases msgHeaderLen_cases p with ⟨-, h⟩ | ⟨-, h⟩ <;> rw [h] <;> decide

/-- Reading a field of a header written elsewhere gives back what it held. -/
theorem header_read_set (p : Platform) {hdr : Bytes} {i j : Nat} (hi : i < 11) (hj : j < 11)
    {v : Bytes} (sized : v.length = fieldSize (messageHeaderTypes p) i) (long : 60 ≤ hdr.length) :
    fieldAt (messageHeaderTypes p) (setField (messageHeaderTypes p) hdr i v) j =
      if i = j then v else fieldAt (messageHeaderTypes p) hdr j := by
  have within := header_fields_within i hi
  rw [← offsetOf_header p hi, ← fieldSize_header p hi] at within
  split
  · subst j; exact fieldAt_setField_same _ sized (by omega)
  · have apart := header_fields_apart i hi j hj ‹_›
    rw [← offsetOf_header p hi, ← fieldSize_header p hi, ← offsetOf_header p hj,
      ← fieldSize_header p hj] at apart
    exact fieldAt_setField_apart _ sized (by omega) apart

@[simp] theorem MessageId.ofBytes_toBytes (p : Platform) (a : MessageId) :
    MessageId.ofBytes p (a.toBytes p) = a := by
  have read := fieldAt_pack_of_types idPairTypes
    [(cUint32, p.u32Bytes a.networkId), (cUint32, p.u32Bytes a.serialNum)] rfl (by simp [Sized])
  simp [MessageId.ofBytes, MessageId.toBytes, read 0 (by simp), read 1 (by simp)]

@[simp] theorem OrigFrom.ofBytes_toBytes (p : Platform) (a : OrigFrom) :
    OrigFrom.ofBytes p (a.toBytes p) = a := by
  have read := fieldAt_pack_of_types idPairTypes
    [(cUint32, p.u32Bytes a.networkId), (cUint32, p.u32Bytes a.localId)] rfl (by simp [Sized])
  simp [OrigFrom.ofBytes, OrigFrom.toBytes, read 0 (by simp), read 1 (by simp)]

/-- The fields of a freshly built header. -/
theorem fieldAt_headerImage (p : Platform) (id inReplyTo : MessageId) (to_ from_ : UInt32)
    (origFrom finalTo : OrigFrom) (flags nameLen dataLen : UInt32) {i : Nat} (hi : i < 14) :
    fieldAt (messageHeaderTypes p) (headerImage p id inReplyTo to_ from_ origFrom finalTo flags
      nameLen dataLen) i =
    [p.u32Bytes Message.startGuard, id.toBytes p, inReplyTo.toBytes p, p.u32Bytes to_,
      p.u32Bytes from_, origFrom.toBytes p, finalTo.toBytes p, p.u32Bytes 0, p.u32Bytes flags,
      p.u32Bytes nameLen, p.u32Bytes dataLen, zeros p.pointerSize, zeros p.pointerSize,
      p.u32Bytes Message.endGuard].getD i [] :=
  fieldAt_pack_of_types _ _ rfl (by simp [Sized]) i hi

/-! ## The entire structures -/

theorem alignUp_zero (align : Nat) : alignUp 0 align = 0 := by
  rcases Nat.eq_zero_or_pos align with h | h
  · simp [alignUp, h]
  · simp [alignUp, Nat.div_eq_of_lt (show align - 1 < align by omega)]

theorem offsetOf_entire (p : Platform) (pn pd i : Nat) :
    offsetOf (entireMessageTypes p pn pd) i =
      [0, msgHeaderLen p, msgHeaderLen p + pn, alignUp (msgHeaderLen p + pn + pd) 4].getD i 0 := by
  simp [offsetOf, offsetsFrom, entireMessageTypes, alignUp_zero, cCharArray, cUint8Array, cUint32,
    msgHeaderLen]

theorem fieldSize_entire (p : Platform) (pn pd i : Nat) :
    fieldSize (entireMessageTypes p pn pd) i = [msgHeaderLen p, pn, pd, 4].getD i 0 := rfl

/-- The class is at least as long as its four fields laid end to end. -/
theorem end_le_size_entire (p : Platform) (pn pd : Nat) :
    alignUp (msgHeaderLen p + pn + pd) 4 + 4 ≤ (cStruct (entireMessageTypes p pn pd)).size := by
  have := le_alignUp (endFrom 0 (entireMessageTypes p pn pd)) (alignOf_pos (entireMessageTypes p pn pd))
  simpa [cStruct, endFrom, entireMessageTypes, alignUp_zero, cCharArray, cUint8Array, cUint32,
    msgHeaderLen] using this

theorem msgHeaderLen_le_size_entire (p : Platform) (pn pd : Nat) :
    msgHeaderLen p ≤ (cStruct (entireMessageTypes p pn pd)).size :=
  (le_alignUp _ (by decide)).trans (Nat.le_add_right _ _) |>.trans' (Nat.le_add_right _ _)
    |>.trans' (Nat.le_add_right _ _) |>.trans (end_le_size_entire p pn pd)

/-- With name and data areas in whole words, the end guard follows the data directly. -/
theorem alignUp_entire {p : Platform} {pn pd : Nat} (hn : 4 ∣ pn) (hd : 4 ∣ pd) :
    alignUp (msgHeaderLen p + pn + pd) 4 = msgHeaderLen p + pn + pd :=
  alignUp_of_dvd (by decide) (Nat.dvd_add (Nat.dvd_add (four_dvd_msgHeaderLen p) hn) hd)

namespace EntireMessageStruct

variable {p : Platform} (e : EntireMessageStruct p)

theorem field_inside (i : Nat) (hi : i < 4) :
    offsetOf e.types i + fieldSize e.types i ≤ e.buf.length := by
  have := end_le_size_entire p e.paddedNameLen e.paddedDataLen
  have := le_alignUp (msgHeaderLen p + e.paddedNameLen + e.paddedDataLen) (show 0 < 4 by decide)
  rw [e.buf_length, types, offsetOf_entire, fieldSize_entire]
  interval_cases i <;> simp <;> omega

theorem header_eq : e.header = e.buf.take (msgHeaderLen p) := by
  simp [header, fieldAt, types, offsetOf_entire, fieldSize_entire, slice]

theorem length_header : e.header.length = msgHeaderLen p :=
  length_fieldAt _ (e.field_inside 0 (by decide))

theorem length_restName : e.restName.length = e.paddedNameLen :=
  length_fieldAt _ (e.field_inside 1 (by decide))

theorem length_restData : e.restData.length = e.paddedDataLen :=
  length_fieldAt _ (e.field_inside 2 (by decide))

theorem length_setField_header (i : Nat) (v : Bytes) :
    (setField (messageHeaderTypes p) e.header i v).length = msgHeaderLen p := by
  rw [setField, length_patch, length_header]

theorem header_setHeaderField (i : Nat) (v : Bytes) :
    (e.setHeaderField i v).header = setField (messageHeaderTypes p) e.header i v :=
  fieldAt_setField_same _ (by rw [length_setField_header e i v]; rfl) (e.field_inside _ (by decide))

theorem restName_setHeaderField (i : Nat) (v : Bytes) : (e.setHeaderField i v).restName = e.restName := by
  refine fieldAt_setField_apart _ (by rw [length_setField_header e i v]; rfl)
    (e.field_inside _ (by decide)) (.inr ?_)
  simp [types, offsetOf_entire, fieldSize_entire]

theorem restData_setHeaderField (i : Nat) (v : Bytes) : (e.setHeaderField i v).restData = e.restData := by
  refine fieldAt_setField_apart _ (by rw [length_setField_header e i v]; rfl)
    (e.field_inside _ (by decide)) (.inr ?_)
  simp [types, offsetOf_entire, fieldSize_entire]

theorem headerField_setHeaderField {i j : Nat} {v : Bytes} (hi : i < 11) (hj : j < 11)
    (sized : v.length = fieldSize (messageHeaderTypes p) i) :
    fieldAt (messageHeaderTypes p) (e.setHeaderField i v).header j =
      if i = j then v else fieldAt (messageHeaderTypes p) e.header j := by
  rw [header_setHeaderField]
  exact header_read_set p hi hj sized (by rw [length_header]; exact sixty_le_msgHeaderLen p)

end EntireMessageStruct

/-! ## What a structure says

`Fields` is what `extract()` and `_same_message_struct` read of a `msg`, whichever form
holds it. Each setter changes exactly its own field of it. -/

structure Fields where
  id : MessageId
  inReplyTo : MessageId
  to_ : UInt32
  from_ : UInt32
  origFrom : OrigFrom
  finalTo : OrigFrom
  flags : UInt32
  nameLen : UInt32
  dataLen : UInt32
  name : Bytes
  cData : Bytes
deriving DecidableEq

namespace MessageStruct

variable {p : Platform}

def fields (s : MessageStruct p) : Fields :=
  ⟨s.id, s.inReplyTo, s.to_, s.from_, s.origFrom, s.finalTo, s.flags, s.nameLen, s.dataLen, s.name,
    s.cData⟩

/-- The entire form's getters, all at once. -/
theorem fields_entire (e : EntireMessageStruct p) : (entire e).fields =
    ⟨MessageId.ofBytes p (fieldAt (messageHeaderTypes p) e.header 1),
      MessageId.ofBytes p (fieldAt (messageHeaderTypes p) e.header 2), headerU32 p e.header 3,
      headerU32 p e.header 4, OrigFrom.ofBytes p (fieldAt (messageHeaderTypes p) e.header 5),
      OrigFrom.ofBytes p (fieldAt (messageHeaderTypes p) e.header 6), headerU32 p e.header 8,
      headerU32 p e.header 9, headerU32 p e.header 10,
      (cString e.restName).take (headerU32 p e.header 9).toNat,
      e.restData.take (headerU32 p e.header 10).toNat⟩ := rfl

/-- The pointy form's getters, all at once. -/
theorem fields_pointy (h : MessageHeaderStruct) : (pointy h : MessageStruct p).fields =
    ⟨h.id, h.inReplyTo, h.to_, h.from_, h.origFrom, h.finalTo, h.flags, h.nameLen, h.dataLen,
      cString h.name, (h.data.getD []).take h.dataLen.toNat⟩ := rfl

theorem fields_setFlags (s : MessageStruct p) (v : UInt32) :
    (s.setFlags v).fields = { s.fields with flags := v } := by
  cases s with
  | pointy h => rfl
  | entire e =>
    have sized : (p.u32Bytes v).length = fieldSize (messageHeaderTypes p) 8 := length_u32Bytes p v
    simp [setFlags, fields_entire, headerU32, e.headerField_setHeaderField (by decide) _ sized,
      e.restName_setHeaderField, e.restData_setHeaderField]

theorem fields_setInReplyTo (s : MessageStruct p) (v : MessageId) :
    (s.setInReplyTo v).fields = { s.fields with inReplyTo := v } := by
  cases s with
  | pointy h => rfl
  | entire e =>
    have sized : (v.toBytes p).length = fieldSize (messageHeaderTypes p) 2 :=
      length_messageIdToBytes p v
    simp [setInReplyTo, fields_entire, headerU32, e.headerField_setHeaderField (by decide) _ sized,
      e.restName_setHeaderField, e.restData_setHeaderField]

theorem fields_setOrigFrom (s : MessageStruct p) (v : OrigFrom) :
    (s.setOrigFrom v).fields = { s.fields with origFrom := v } := by
  cases s with
  | pointy h => rfl
  | entire e =>
    have sized : (v.toBytes p).length = fieldSize (messageHeaderTypes p) 5 :=
      length_origFromToBytes p v
    simp [setOrigFrom, fields_entire, headerU32, e.headerField_setHeaderField (by decide) _ sized,
      e.restName_setHeaderField, e.restData_setHeaderField]

theorem fields_setFinalTo (s : MessageStruct p) (v : OrigFrom) :
    (s.setFinalTo v).fields = { s.fields with finalTo := v } := by
  cases s with
  | pointy h => rfl
  | entire e =>
    have sized : (v.toBytes p).length = fieldSize (messageHeaderTypes p) 6 :=
      length_origFromToBytes p v
    simp [setFinalTo, fields_entire, headerU32, e.headerField_setHeaderField (by decide) _ sized,
      e.restName_setHeaderField, e.restData_setHeaderField]

end MessageStruct

/-- `__eq__` holds between two structures that say the same. -/
theorem sameMessageStruct_of_fields {p : Platform} {a b : MessageStruct p}
    (same : a.fields = b.fields) : sameMessageStruct a b = true := by
  simp only [MessageStruct.fields, Fields.mk.injEq] at same
  obtain ⟨h1, h2, h3, h4, h5, h6, h7, h8, h9, h10, h11⟩ := same
  simp [sameMessageStruct, h1, h2, h3, h4, h5, h6, h7, h8, h9, h10, h11]
  rfl

/-! ## Flag bits -/

/-- Setting or clearing one flag leaves a flag with no bit in common. -/
theorem or_and_of_disjoint (v : UInt32) {u w : UInt32} (apart : u &&& w = 0) :
    (v ||| u) &&& w = v &&& w := by
  have apart' : u.toBitVec &&& w.toBitVec = 0#32 := congrArg UInt32.toBitVec apart
  apply UInt32.eq_of_toBitVec_eq
  show (v.toBitVec ||| u.toBitVec) &&& w.toBitVec = v.toBitVec &&& w.toBitVec
  refine BitVec.eq_of_getLsbD_eq fun i => ?_
  have bit := congrArg (fun x => x.getLsbD i) apart'
  simp only [BitVec.getLsbD_and, BitVec.getLsbD_zero, BitVec.getLsbD_or] at bit ⊢
  revert bit
  cases v.toBitVec.getLsbD i <;> cases u.toBitVec.getLsbD i <;> cases w.toBitVec.getLsbD i <;> decide

theorem andNot_and_of_disjoint (v : UInt32) {u w : UInt32} (apart : u &&& w = 0) :
    (v &&& ~~~u) &&& w = v &&& w := by
  have apart' : u.toBitVec &&& w.toBitVec = 0#32 := congrArg UInt32.toBitVec apart
  apply UInt32.eq_of_toBitVec_eq
  show (v.toBitVec &&& ~~~u.toBitVec) &&& w.toBitVec = v.toBitVec &&& w.toBitVec
  refine BitVec.eq_of_getLsbD_eq fun i => ?_
  have bit := congrArg (fun x => x.getLsbD i) apart'
  simp only [BitVec.getLsbD_and, BitVec.getLsbD_zero, BitVec.getLsbD_not] at bit ⊢
  revert bit
  cases v.toBitVec.getLsbD i <;> cases u.toBitVec.getLsbD i <;> cases w.toBitVec.getLsbD i <;> simp

theorem setBit_and_of_disjoint (v : UInt32) {u w : UInt32} (apart : u &&& w = 0) :
    setBit v u &&& w = v &&& w := or_and_of_disjoint v apart

theorem clearBit_and_of_disjoint (v : UInt32) {u w : UInt32} (apart : u &&& w = 0) :
    clearBit v u &&& w = v &&& w := by
  unfold clearBit
  split
  · exact andNot_and_of_disjoint v apart
  · rfl

theorem setBit_and_self (v u : UInt32) : setBit v u &&& u = u := by
  apply UInt32.eq_of_toBitVec_eq
  show (v.toBitVec ||| u.toBitVec) &&& u.toBitVec = u.toBitVec
  refine BitVec.eq_of_getLsbD_eq fun i => ?_
  simp only [BitVec.getLsbD_and, BitVec.getLsbD_or]
  cases v.toBitVec.getLsbD i <;> cases u.toBitVec.getLsbD i <;> rfl

theorem clearBit_and_self (v u : UInt32) : clearBit v u &&& u = 0 := by
  unfold clearBit
  split
  · apply UInt32.eq_of_toBitVec_eq
    show (v.toBitVec &&& ~~~u.toBitVec) &&& u.toBitVec = 0#32
    refine BitVec.eq_of_getLsbD_eq fun i => ?_
    simp only [BitVec.getLsbD_and, BitVec.getLsbD_not, BitVec.getLsbD_zero]
    cases v.toBitVec.getLsbD i <;> cases u.toBitVec.getLsbD i <;> simp
  · rename_i unset
    simpa [bne_iff_ne] using unset

/-- Setting WANT_A_REPLY where it is set changes nothing. -/
theorem setBit_wantAReply_of_set {v : UInt32} (set : v &&& Message.wantAReply ≠ 0) :
    setBit v Message.wantAReply = v := by
  have bit : v.toBitVec.getLsbD 0 = true := by
    by_contra unset
    apply set
    apply UInt32.eq_of_toBitVec_eq
    show v.toBitVec &&& 1#32 = 0#32
    refine BitVec.eq_of_getLsbD_eq fun i => ?_
    rcases i with ⟨_ | i, hi⟩ <;> simp_all
  apply UInt32.eq_of_toBitVec_eq
  show v.toBitVec ||| 1#32 = v.toBitVec
  refine BitVec.eq_of_getLsbD_eq fun i => ?_
  rcases i with ⟨_ | i, hi⟩ <;> simp_all

theorem setBit_wantAReply_set (v : UInt32) :
    setBit v Message.wantAReply &&& Message.wantAReply ≠ 0 := by
  intro h
  have bit := congrArg (fun x : UInt32 => x.toBitVec.getLsbD 0) h
  change ((v.toBitVec ||| 1#32) &&& 1#32).getLsbD 0 = (0#32).getLsbD 0 at bit
  simp at bit

end Kbus
