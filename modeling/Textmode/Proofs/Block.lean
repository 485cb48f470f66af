import Textmode.Sauce.Block
import Textmode.Proofs.Bytes
import Textmode.Proofs.Field

/-! A block read back. The numbers come back as they were written. A text comes back as far
as its field can hold it, without the spaces and NULs at its end; what was read from a block
in the first place has none there.
-/

set_option autoImplicit false

namespace Textmode.Sauce

open Text (isPadding)

namespace Block

theorem isPadding_of_isFilling {b : UInt8} (filling : isFilling b) :
    b.toNat < 0x80 ∧ isPadding (Char.ofNat b.toNat) := by
  simp only [isFilling, Bool.or_eq_true, decide_eq_true_eq] at filling
  obtain rfl | rfl := filling <;> decide

theorem isFilling_of_isPadding {c : Char} (padding : isPadding c) :
    c.toNat < 0x80 ∧ isFilling (UInt8.ofNat c.toNat) ∧
      String.utf8EncodeChar c = [UInt8.ofNat c.toNat] := by
  simp only [isPadding, Bool.or_eq_true, decide_eq_true_eq] at padding
  obtain rfl | rfl := padding <;> decide

theorem dropTrailing_encode (t : Text) :
    dropTrailing isFilling (Utf8.encode t) = Utf8.encode (dropTrailing isPadding t) := by
  -- From the end, where one character of padding is one octet of filling.
  induction t using List.reverseRecOn with
  | nil => rfl
  | append_singleton t c ih =>
    rw [Utf8.encode_append, Utf8.encode_singleton]
    by_cases padding : isPadding c
    · obtain ⟨_, filling, one⟩ := isFilling_of_isPadding padding
      rw [one, dropTrailing_concat_of_pos filling, ih, dropTrailing_concat_of_pos padding]
    · rw [dropTrailing_concat_of_neg padding, dropTrailing_eq_self_iff.mpr, Utf8.encode_append,
        Utf8.encode_singleton]
      intro b last filling
      rw [List.getLast?_append_of_ne_nil _ String.utf8EncodeChar_ne_nil] at last
      obtain ⟨small, back⟩ := isPadding_of_isFilling filling
      exact padding ((Utf8.utf8EncodeChar_eq_of_mem (List.mem_of_getLast? last) small).2 ▸ back)

theorem readText_field {fill : UInt8} (filling : isFilling fill) (width : Nat) (t : Text) :
    readText (Text.field fill width t) = dropTrailing isPadding (Text.fit width t) := by
  rw [readText, Text.field, dropTrailing_append_of_all, dropTrailing_encode, Utf8.text_encode]
  intro b member
  exact List.eq_of_mem_replicate member ▸ filling

theorem dropTrailing_readText (octets : Bytes) :
    dropTrailing isPadding (readText octets) = readText octets := by
  rw [dropTrailing_eq_self_iff]
  intro c last padding
  obtain ⟨small, filling, _⟩ := isFilling_of_isPadding padding
  exact not_of_mem_getLast?_dropTrailing (Utf8.getLast?_eq_of_getLast?_text last small) filling

theorem size_readText_le (t : Text) : Utf8.size (readText (Utf8.encode t)) ≤ Utf8.size t := by
  rw [readText, dropTrailing_encode, Utf8.text_encode]
  exact Text.size_le_of_isPrefix (dropTrailing_isPrefix isPadding t)

@[simp] theorem length_mark : mark.length = 7 := by decide

end Block

inductive Slot where
  | title
  | author
  | group
  | date
  | fontName
  deriving DecidableEq, Repr

namespace Slot

def offset : Slot → Nat
  | title => 7
  | author => 42
  | group => 62
  | date => 82
  | fontName => 106

def width : Slot → Nat
  | title => 35
  | author => 20
  | group => 20
  | date => 8
  | fontName => 22

def fill : Slot → UInt8
  | fontName => 0x00
  | _ => 0x20

def text (r : Record) : Slot → Text
  | title => r.title
  | author => r.author
  | group => r.group
  | date => r.date
  | fontName => r.fontName

def kept (r : Record) (slot : Slot) : Text :=
  dropTrailing isPadding (Text.fit slot.width (slot.text r))

/-- What the field holds of a text, but does not give back: it looks like filling. -/
def ending (r : Record) (slot : Slot) : Text :=
  (Text.fit slot.width (slot.text r)).drop (slot.kept r).length

theorem kept_append_ending (slot : Slot) (r : Record) :
    slot.kept r ++ slot.ending r = Text.fit slot.width (slot.text r) :=
  List.prefix_iff_eq_append.mp (dropTrailing_isPrefix isPadding _)

theorem size_kept_le (slot : Slot) (r : Record) : Utf8.size (slot.kept r) ≤ slot.width :=
  (Text.size_le_of_isPrefix (dropTrailing_isPrefix isPadding _)).trans (Text.size_fit_le ..)

theorem kept_isPrefix (slot : Slot) (r : Record) : slot.kept r <+: slot.text r :=
  (Text.kept_dropTrailing_fit slot.width (slot.text r)).isPrefix

theorem kept_eq_text_iff {slot : Slot} {r : Record}
    (trimmed : dropTrailing isPadding (slot.text r) = slot.text r) :
    slot.kept r = slot.text r ↔ Utf8.size (slot.text r) ≤ slot.width := by
  constructor
  · intro whole
    rw [← whole]
    exact slot.size_kept_le r
  · intro fits
    rw [kept, Text.fit_eq_self_iff.mpr fits, trimmed]

theorem ending_eq_nil {slot : Slot} {r : Record} (whole : slot.kept r = slot.text r) :
    slot.ending r = [] := by
  rw [ending, whole]
  exact List.drop_eq_nil_of_le (Text.fit_isPrefix ..).length_le

theorem isFilling_fill (slot : Slot) : Block.isFilling slot.fill := by cases slot <;> decide

theorem fill_lt (slot : Slot) : slot.fill.toNat < 0x80 := by cases slot <;> decide

theorem field_kept_eq_iff (slot : Slot) (r : Record) :
    Text.field slot.fill slot.width (slot.kept r) =
        Text.field slot.fill slot.width (slot.text r) ↔
      ∀ c ∈ slot.ending r, c = Char.ofNat slot.fill.toNat := by
  -- Both fields begin with what is kept; then the ending stands against as much filling.
  have both := slot.kept_append_ending r
  have room := Text.size_fit_le slot.width (slot.text r)
  rw [← both, Utf8.size_append] at room
  have filling : slot.width - Utf8.size (slot.kept r) = Utf8.size (slot.ending r) +
      (slot.width - (Utf8.size (slot.kept r) + Utf8.size (slot.ending r))) := by omega
  rw [Text.field, Text.field, Text.fit_eq_self_iff.mpr (slot.size_kept_le r), ← both,
    Utf8.encode_append, Utf8.size_append, filling, List.replicate_add, List.append_assoc,
    List.append_cancel_left_eq, List.append_cancel_right_eq, eq_comm,
    Utf8.encode_eq_replicate_iff slot.fill_lt]

theorem text_ofBlock (slot : Slot) (block : Bytes) :
    slot.text (Record.ofBlock block) = Block.textAt slot.offset slot.width block := by
  cases slot <;> rfl

theorem slice_block (slot : Slot) (r : Record) (fileSize : UInt32) (commentCount : UInt8) :
    slice slot.offset slot.width (r.block fileSize commentCount) =
      Text.field slot.fill slot.width (slot.text r) := by
  cases slot <;>
    simp only [Record.block, Block.dateWidth, TextField.width, List.append_assoc, offset, width,
      fill, text] <;>
    simp (disch := simp) only [slice_append_right, slice_append_left, slice_self,
      Block.length_mark, Text.length_field, length_littleEndian, List.length_cons,
      List.length_nil, Nat.reduceSub, Nat.reduceAdd]

theorem textAt_block (slot : Slot) (r : Record) (fileSize : UInt32) (commentCount : UInt8) :
    Block.textAt slot.offset slot.width (r.block fileSize commentCount) = slot.kept r := by
  rw [Block.textAt, slice_block, Block.readText_field slot.isFilling_fill, kept]

end Slot

namespace Record

variable (r : Record) (fileSize : UInt32) (commentCount : UInt8)

theorem take_mark_block :
    (r.block fileSize commentCount).take Block.mark.length = Block.mark := by
  simp [block]

theorem octetAt_block :
    Block.octetAt 94 (r.block fileSize commentCount) = r.dataType.code ∧
    Block.octetAt 95 (r.block fileSize commentCount) = r.fileType ∧
    Block.octetAt 104 (r.block fileSize commentCount) = commentCount ∧
    Block.octetAt 105 (r.block fileSize commentCount) = r.flags.bits := by
  simp only [Block.octetAt, block, Block.dateWidth, TextField.width, List.append_assoc]
  simp

theorem numberAt_block :
    Block.numberAt 90 4 (r.block fileSize commentCount) = fileSize.toNat ∧
    Block.numberAt 96 2 (r.block fileSize commentCount) =
      (if r.dataType = .binaryText then 0 else r.tinfo1).toNat ∧
    Block.numberAt 98 2 (r.block fileSize commentCount) =
      (if r.dataType = .binaryText then 0 else r.tinfo2).toNat ∧
    Block.numberAt 100 2 (r.block fileSize commentCount) = r.tinfo3.toNat ∧
    Block.numberAt 102 2 (r.block fileSize commentCount) = r.tinfo4.toNat := by
  simp only [Block.numberAt, block, Block.dateWidth, TextField.width, List.append_assoc]
  simp (disch := simp) only [slice_append_right, slice_append_left, Block.length_mark,
    Text.length_field, length_littleEndian, List.length_cons, List.length_nil, Nat.reduceSub,
    Nat.reduceAdd, ofLittleEndian_littleEndian]
  have small (n : UInt16) : n.toNat % 256 ^ 2 = n.toNat := Nat.mod_eq_of_lt n.toNat_lt
  refine ⟨Nat.mod_eq_of_lt fileSize.toNat_lt, ?_, ?_, small _, small _⟩
  · split
    · rfl
    · exact small _
  · split
    · rfl
    · exact small _

theorem commentCount_ofBlock (block : Bytes) :
    (ofBlock block).commentCount = Block.commentCount block := by rw [ofBlock]

def inBlock : Record where
  title := Slot.title.kept r
  author := Slot.author.kept r
  group := Slot.group.kept r
  date := Slot.date.kept r
  fileSize := fileSize
  dataType := .ofCode r.dataType.code
  fileType := r.fileType
  tinfo1 := if r.dataType = .binaryText then 0 else r.tinfo1
  tinfo2 := if r.dataType = .binaryText then 0 else r.tinfo2
  tinfo3 := r.tinfo3
  tinfo4 := r.tinfo4
  commentCount := commentCount
  flags := r.flags
  fontName := Slot.fontName.kept r

theorem ofBlock_block :
    ofBlock (r.block fileSize commentCount) = r.inBlock fileSize commentCount := by
  obtain ⟨dataType, fileType, count, flags⟩ := r.octetAt_block fileSize commentCount
  obtain ⟨size, tinfo1, tinfo2, tinfo3, tinfo4⟩ := r.numberAt_block fileSize commentCount
  have texts (slot : Slot) := slot.textAt_block r fileSize commentCount
  simp only [ofBlock, inBlock, Block.commentCount, dataType, fileType, count, flags, size, tinfo1,
    tinfo2, tinfo3, tinfo4, UInt32.ofNat_toNat, UInt16.ofNat_toNat]
  rw [← texts .title, ← texts .author, ← texts .group, ← texts .date, ← texts .fontName]
  rfl

theorem text_inBlock (slot : Slot) : slot.text (r.inBlock fileSize commentCount) = slot.kept r := by
  cases slot <;> rfl

theorem kept_inBlock (slot : Slot) : slot.kept (r.inBlock fileSize commentCount) = slot.kept r := by
  have trimmed : dropTrailing isPadding (slot.kept r) = slot.kept r := dropTrailing_idem ..
  have fits := slot.size_kept_le r
  rw [← r.text_inBlock fileSize commentCount] at trimmed fits
  rw [(Slot.kept_eq_text_iff trimmed).mpr fits, text_inBlock]

section Coded

variable {r}

/-- The code of raw screen memory that is marked as undefined is read as raw screen memory, which
has no place for two of the numbers. So what a block holds can change once more. -/
theorem inBlock_inBlock (coded : .ofCode r.dataType.code = r.dataType) (otherSize : UInt32)
    (otherCount : UInt8) :
    (r.inBlock fileSize commentCount).inBlock otherSize otherCount =
      r.inBlock otherSize otherCount := by
  have kept (slot : Slot) := r.kept_inBlock fileSize commentCount slot
  rw [inBlock, kept, kept, kept, kept, kept]
  by_cases raw : r.dataType = .binaryText <;> simp [inBlock, coded, raw]

theorem block_inBlock_eq_iff (coded : .ofCode r.dataType.code = r.dataType) :
    (r.inBlock fileSize commentCount).block fileSize commentCount =
        r.block fileSize commentCount ↔
      ∀ slot : Slot, ∀ c ∈ slot.ending r, c = Char.ofNat slot.fill.toNat := by
  constructor
  · intro same slot
    have field := congrArg (slice slot.offset slot.width) same
    rw [slot.slice_block, slot.slice_block, text_inBlock] at field
    exact (slot.field_kept_eq_iff r).mp field
  · intro endings
    have fields (slot : Slot) := (slot.field_kept_eq_iff r).mpr (endings slot)
    have title := fields .title
    have author := fields .author
    have group := fields .group
    have date := fields .date
    have fontName := fields .fontName
    simp only [Slot.fill, Slot.width, Slot.text] at title author group date fontName
    simp only [block, inBlock, coded, Block.dateWidth, TextField.width, title, author, group, date,
      fontName]
    by_cases raw : r.dataType = .binaryText
    · simp only [if_pos raw]
    · simp only [if_neg raw]

end Coded

end Record

end Textmode.Sauce
