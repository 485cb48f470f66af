import Textmode.Proofs.Rewriting

/-! The files that rewriting leaves as they are, octet by octet. They are described without reader
or writer, by what lies where: a content, the end mark, comment rows and a block, in all of which
texts are filled up to their widths.
-/

set_option autoImplicit false

namespace Textmode

/-- Octets that are a text and the filling behind it. The text does not end in what counts as
filling. -/
structure Text.Filled (isFilling : Char → Bool) (fill : UInt8) (width : Nat) (t : Text)
    (octets : Bytes) : Prop where
  trimmed : ∀ c ∈ t.getLast?, ¬ isFilling c
  fits : (Utf8.encode t).length ≤ width
  octets_eq : octets = Text.padded fill width t

theorem Text.filled_iff {isFilling : Char → Bool} {fill : UInt8} {width : Nat} {t : Text}
    {octets : Bytes} :
    Text.Filled isFilling fill width t octets ↔
      dropTrailing isFilling t = t ∧ Utf8.size t ≤ width ∧ octets = Text.field fill width t := by
  rw [← Utf8.length_encode]
  constructor
  · rintro ⟨trimmed, fits, rfl⟩
    exact ⟨dropTrailing_eq_self_iff.mpr trimmed, fits,
      (Text.field_eq_padded (Utf8.length_encode t ▸ fits)).symm⟩
  · rintro ⟨trimmed, fits, rfl⟩
    exact ⟨dropTrailing_eq_self_iff.mp trimmed, fits,
      Text.field_eq_padded (Utf8.length_encode t ▸ fits)⟩

namespace Sauce

/-! ## Blocks -/

namespace Block

variable {block other : Bytes} {offset size : Nat}

theorem littleEndian_numberAt (inside : offset + size ≤ block.length) :
    littleEndian size (numberAt offset size block) = slice offset size block := by
  have back := littleEndian_ofLittleEndian (slice offset size block)
  rwa [length_slice inside] at back

theorem numberAt_lt (offset size : Nat) (block : Bytes) :
    numberAt offset size block < 256 ^ size := by
  have short : (slice offset size block).length ≤ size := List.length_take_le ..
  exact (ofLittleEndian_lt _).trans_le (Nat.pow_le_pow_right (by decide) short)

theorem toNat_uint16_numberAt (offset : Nat) (block : Bytes) :
    (UInt16.ofNat (numberAt offset 2 block)).toNat = numberAt offset 2 block := by
  rw [UInt16.toNat_ofNat']
  exact Nat.mod_eq_of_lt (numberAt_lt offset 2 block)

theorem toNat_uint32_numberAt (offset : Nat) (block : Bytes) :
    (UInt32.ofNat (numberAt offset 4 block)).toNat = numberAt offset 4 block := by
  rw [UInt32.toNat_ofNat']
  exact Nat.mod_eq_of_lt (numberAt_lt offset 4 block)

theorem slice_one (inside : offset < block.length) :
    slice offset 1 block = [octetAt offset block] := by
  rw [slice, List.drop_eq_getElem_cons inside, octetAt, List.getElem?_eq_getElem inside]
  rfl

def fields : List (Nat × Nat) :=
  [(0, 7), (7, 35), (42, 20), (62, 20), (82, 8), (90, 4), (94, 1), (95, 1), (96, 2), (98, 2),
    (100, 2), (102, 2), (104, 1), (105, 1), (106, 22)]

theorem flatten_fields (whole : block.length = width) :
    (fields.map fun field => slice field.1 field.2 block).flatten = block := by
  have joined (first next : Nat) := slice_append_slice 0 first next block
  simp only [Nat.zero_add] at joined
  simp only [fields, List.map_cons, List.map_nil, List.flatten_cons, List.flatten_nil,
    List.append_nil, ← List.append_assoc, joined, Nat.reduceAdd]
  exact slice_self whole

theorem ext_fields (left : block.length = width) (right : other.length = width)
    (same : ∀ field ∈ fields, slice field.1 field.2 block = slice field.1 field.2 other) :
    block = other := by
  rw [← flatten_fields left, ← flatten_fields right, List.map_congr_left same]

theorem slice_eq_of_numberAt_eq (left : block.length = width)
    (right : other.length = width) (inside : offset + size ≤ width)
    (same : numberAt offset size block = numberAt offset size other) :
    slice offset size block = slice offset size other := by
  rw [← littleEndian_numberAt (inside.trans left.ge), ← littleEndian_numberAt (inside.trans right.ge),
    same]

theorem slice_eq_of_octetAt_eq (left : block.length = width)
    (right : other.length = width) (inside : offset < width)
    (same : octetAt offset block = octetAt offset other) :
    slice offset 1 block = slice offset 1 other := by
  rw [slice_one (inside.trans_eq left.symm), slice_one (inside.trans_eq right.symm), same]

end Block

namespace Record

open Block (octetAt numberAt)

theorem toNat_tinfo_ofBlock {block : Bytes} (offset : Nat)
    (raw : octetAt 94 block = 5 → numberAt offset 2 block = 0) :
    (if (ofBlock block).dataType = .binaryText then 0
      else UInt16.ofNat (numberAt offset 2 block)).toNat = numberAt offset 2 block := by
  split
  · next binary =>
    have five : octetAt 94 block = 5 :=
      (DataType.code_ofCode _).symm.trans (congrArg DataType.code binary)
    rw [raw five]
    rfl
  · exact Block.toNat_uint16_numberAt offset block

/-- A block is that of the record it holds if its texts are just as a writer would put them, and
no number stands where raw screen memory has none. -/
theorem block_ofBlock {block : Bytes} {r : Record} (held : ofBlock block = r)
    (whole : block.length = Block.width) (marked : block.take Block.mark.length = Block.mark)
    (texts : ∀ slot : Slot,
      Text.field slot.fill slot.width (slot.text r) = slice slot.offset slot.width block)
    (raw : octetAt 94 block = 5 → numberAt 96 2 block = 0 ∧ numberAt 98 2 block = 0) :
    r.block r.fileSize r.commentCount = block := by
  have width := r.length_block r.fileSize r.commentCount
  have octet {offset : Nat} (inside : offset < Block.width) :=
    Block.slice_eq_of_octetAt_eq width whole inside
  have number {offset size : Nat} (inside : offset + size ≤ Block.width) :=
    Block.slice_eq_of_numberAt_eq width whole inside
  have text (slot : Slot) := (slot.slice_block r r.fileSize r.commentCount).trans (texts slot)
  obtain ⟨dataType, fileType, count, flags⟩ := r.octetAt_block r.fileSize r.commentCount
  obtain ⟨size, tinfo1, tinfo2, tinfo3, tinfo4⟩ := r.numberAt_block r.fileSize r.commentCount
  subst held
  -- Field by field, what is written is what was read there.
  apply Block.ext_fields width whole
  simp only [Block.fields, List.forall_mem_cons]
  refine ⟨(take_mark_block _ _ _).trans marked.symm, text .title, text .author, text .group,
    text .date, ?_, ?_, ?_, ?_, ?_, ?_, ?_, ?_, ?_, text .fontName, ?_⟩
  · exact number (by decide) (size.trans (Block.toNat_uint32_numberAt 90 block))
  · exact octet (by decide) (dataType.trans (DataType.code_ofCode _))
  · exact octet (by decide) fileType
  · exact number (by decide) (tinfo1.trans (toNat_tinfo_ofBlock 96 fun five => (raw five).1))
  · exact number (by decide) (tinfo2.trans (toNat_tinfo_ofBlock 98 fun five => (raw five).2))
  · exact number (by decide) (tinfo3.trans (Block.toNat_uint16_numberAt 100 block))
  · exact number (by decide) (tinfo4.trans (Block.toNat_uint16_numberAt 102 block))
  · exact octet (by decide) count
  · exact octet (by decide) flags
  · simp

end Record

/-! ## Files -/

theorem Comments.block_eq_flatten {lines : List Text} {rows : List Bytes}
    (stored : rows = lines.map (Text.field 0x20 lineWidth)) :
    block lines = if rows = [] then [] else mark ++ rows.flatten := by
  subst stored
  simp only [block, List.map_eq_nil_iff, List.flatMap_def]

namespace File

def layOut (content : Bytes) (rows : List Bytes) (block : Bytes) : Bytes :=
  content ++ endOfContent ::
    ((if rows = [] then [] else Comments.mark ++ rows.flatten) ++ block)

/-- The parts of a file that is written as it is read. No text is cut or ends in filling, and size
and count are those of what is there, the size as far as four octets can count. -/
structure WellFormed (content : Bytes) (rows : List Bytes) (block : Bytes) : Prop where
  plain : strip content = content
  lines : ∀ row ∈ rows, ∃ line : Text, '\n' ∉ line ∧
    Text.Filled Comments.isFilling 0x20 64 line row
  width : block.length = 128
  mark : block.take 7 = Block.mark
  texts : ∀ slot : Slot, ∃ t : Text,
    Text.Filled Text.isPadding slot.fill slot.width t (slice slot.offset slot.width block)
  size : Block.numberAt 90 4 block = min content.length (2 ^ 32 - 1)
  count : (Block.commentCount block).toNat = rows.length
  raw : Block.octetAt 94 block = 5 →
    Block.numberAt 96 2 block = 0 ∧ Block.numberAt 98 2 block = 0

namespace WellFormed

variable {content block : Bytes} {rows : List Bytes}

theorem readLine_row (wf : WellFormed content rows block) {row : Bytes} (member : row ∈ rows) :
    0x0A ∉ row ∧ Utf8.size (Comments.readLine row) ≤ Comments.lineWidth ∧
      Text.field 0x20 Comments.lineWidth (Comments.readLine row) = row := by
  obtain ⟨line, whole, filled⟩ := wf.lines row member
  obtain ⟨trimmed, fits, rfl⟩ := Text.filled_iff.mp filled
  have all : Text.fit Comments.lineWidth line = line := Text.fit_eq_self_iff.mpr fits
  have read : Comments.readLine (Text.field 0x20 64 line) = line := by
    refine (Comments.readLine_field line).trans ?_
    rw [Comments.kept, all, trimmed]
  rw [read]
  exact ⟨Comments.not_mem_lineFeed_field whole, fits, rfl⟩

def record (rows : List Bytes) (block : Bytes) : Record :=
  { Record.ofBlock block with comments := Text.unlines (rows.map Comments.readLine) }

theorem text_record (slot : Slot) :
    slot.text (record rows block) = Block.textAt slot.offset slot.width block := by
  rw [← slot.text_ofBlock block]
  cases slot <;> rfl

theorem field_text_record (wf : WellFormed content rows block) (slot : Slot) :
    Text.field slot.fill slot.width (slot.text (record rows block)) =
      slice slot.offset slot.width block ∧
    slot.kept (record rows block) = slot.text (record rows block) := by
  obtain ⟨t, filled⟩ := wf.texts slot
  obtain ⟨trimmed, fits, stored⟩ := Text.filled_iff.mp filled
  have text : slot.text (record rows block) = t := by
    rw [text_record, Block.textAt, stored, Block.readText_field slot.isFilling_fill,
      Text.fit_eq_self_iff.mpr fits, trimmed]
  rw [text, stored]
  refine ⟨rfl, ?_⟩
  rw [Slot.kept, text, Text.fit_eq_self_iff.mpr fits, trimmed]

theorem commentLines_record (wf : WellFormed content rows block) :
    (record rows block).commentLines = rows.map Comments.readLine := by
  have few : rows.length < 256 := wf.count ▸ UInt8.toNat_lt _
  refine Record.commentLines_eq_map_readLine ?_ few rfl ?_
  · intro row member
    obtain ⟨whole, fits, _⟩ := wf.readLine_row member
    exact ⟨whole, fits⟩
  · rw [← wf.count, UInt8.ofNat_toNat]
    rfl

theorem block_record (wf : WellFormed content rows block) :
    (record rows block).block (storedSize content.length)
      (UInt8.ofNat (record rows block).commentLines.length) = block := by
  have size : storedSize content.length = (Record.ofBlock block).fileSize := by
    rw [← UInt32.toNat_inj, toNat_storedSize, ← wf.size]
    exact (Block.toNat_uint32_numberAt 90 block).symm
  have count : UInt8.ofNat (record rows block).commentLines.length =
      (Record.ofBlock block).commentCount := by
    rw [wf.commentLines_record, List.length_map, ← wf.count, UInt8.ofNat_toNat]
    rfl
  have texts (slot : Slot) : Text.field slot.fill slot.width (slot.text (Record.ofBlock block)) =
      slice slot.offset slot.width block := by
    rw [slot.text_ofBlock, ← (wf.field_text_record slot).1, text_record]
  have held := Record.block_ofBlock rfl wf.width wf.mark texts wf.raw
  rw [size, count]
  exact held

theorem layOut_eq_attach (wf : WellFormed content rows block) :
    layOut content rows block = attach content (record rows block) := by
  have stored : rows =
      (rows.map Comments.readLine).map (Text.field 0x20 Comments.lineWidth) := by
    rw [List.map_map]
    conv => lhs; rw [← List.map_id rows]
    exact List.map_congr_left fun row member => (wf.readLine_row member).2.2.symm
  rw [attach, wf.plain, Record.toBytes, wf.block_record, wf.commentLines_record, layOut,
    Comments.block_eq_flatten stored]

end WellFormed

theorem wellFormed_of_attach_eq_self {file : Bytes} {t : Record} (read : read? file = some t)
    (same : attach file t = file) :
    WellFormed (strip file) (t.commentLines.map (Text.field 0x20 Comments.lineWidth))
      (t.block (storedSize (strip file).length) (UInt8.ofNat t.commentLines.length)) := by
  obtain ⟨dataType, _, count, _⟩ := t.octetAt_block (storedSize (strip file).length)
    (UInt8.ofNat t.commentLines.length)
  obtain ⟨size, tinfo1, tinfo2, _⟩ := t.numberAt_block (storedSize (strip file).length)
    (UInt8.ofNat t.commentLines.length)
  -- The record is read from what was attached, so all its texts are what fields give back.
  rw [← same] at read
  have lines := commentLines_of_read?_attach read
  exact {
    plain := strip_strip file
    lines := by
      intro row member
      obtain ⟨line, here, rfl⟩ := List.mem_map.mp member
      refine ⟨line, Record.not_mem_lineFeed_of_mem_commentLines here, Text.filled_iff.mpr ?_⟩
      rw [lines] at here
      obtain ⟨written, _, rfl⟩ := List.mem_map.mp here
      exact ⟨dropTrailing_idem .., Comments.size_kept_le written, rfl⟩
    width := t.length_block _ _
    mark := t.take_mark_block _ _
    texts := by
      intro slot
      have kept := text_of_read?_attach read slot
      refine ⟨slot.text t, Text.filled_iff.mpr ⟨?_, ?_, slot.slice_block t _ _⟩⟩
      · rw [kept]
        exact dropTrailing_idem ..
      · rw [kept]
        exact slot.size_kept_le t
    size := by rw [size, toNat_storedSize]
    count := by rw [Block.commentCount, count, toNat_commentLines, List.length_map]
    raw := by
      intro five
      have binary : t.dataType = .binaryText := by
        rw [← coded_of_read? read, ← dataType, five]
        rfl
      rw [tinfo1, tinfo2, if_pos binary, if_pos binary]
      exact ⟨rfl, rfl⟩ }

/-- Reading a record and attaching it again gives the same octets exactly for the well-formed
files. -/
theorem attach_eq_self_iff (file : Bytes) :
    (∃ t, read? file = some t ∧ attach file t = file) ↔
      ∃ content rows block, WellFormed content rows block ∧ file = layOut content rows block := by
  constructor
  · rintro ⟨t, read, same⟩
    refine ⟨_, _, _, wellFormed_of_attach_eq_self read same, ?_⟩
    rw [layOut, ← Comments.block_eq_flatten rfl]
    exact same.symm
  · rintro ⟨content, rows, block, wf, rfl⟩
    have read := read?_attach content (WellFormed.record rows block)
    rw [wf.layOut_eq_attach]
    refine ⟨_, read, (attach_attach_eq_iff ?_ ?_ read).mpr ?_⟩
    · exact DataType.ofCode_code_iff.mpr ⟨_, rfl⟩
    · rw [wf.commentLines_record, List.map_map]
      exact List.map_congr_left fun row member =>
        Comments.kept_readLine (wf.readLine_row member).2.1
    · intro slot c member
      rw [Slot.ending_eq_nil (wf.field_text_record slot).2] at member
      cases member

end File

end Sauce

end Textmode
