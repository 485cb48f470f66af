import Textmode.Proofs.RoundTrip

/-! Files whose record is read and attached again. A first rewriting can cut texts that grew when
they were read, and drops what looks like filling. From then on the record stays as it is.
-/

set_option autoImplicit false

namespace Textmode.Sauce.File

/-- No stored comment line has a line feed in it, and as text each one fits a line again. -/
def WholeLines (file : Bytes) : Prop :=
  ∀ line ∈ storedLines file,
    0x0A ∉ line ∧ (Utf8.encode (Comments.readLine line)).length ≤ Comments.lineWidth

section Read

variable {file : Bytes} {t : Record}

theorem coded_of_read? (read : read? file = some t) : .ofCode t.dataType.code = t.dataType := by
  have coded : t.dataType = .ofCode (Block.octetAt 94 (lastBlock file)) := by
    rw [← eq_of_read? read]
    dsimp only [Record.ofBlock]
  exact DataType.ofCode_code_iff.mpr ⟨_, coded⟩

theorem text_of_read? (read : read? file = some t) (slot : Slot) :
    slot.text t = Block.textAt slot.offset slot.width (lastBlock file) := by
  have aside (r : Record) (fileSize : UInt32) (count : UInt8) (comments : Text) : slot.text
      { r with fileSize := fileSize, commentCount := count, comments := comments } =
        slot.text r := by
    cases slot <;> rfl
  rw [← eq_of_read? read, aside, slot.text_ofBlock]

theorem kept_eq_text_iff_of_read? (read : read? file = some t) (slot : Slot) :
    slot.kept t = slot.text t ↔ (Utf8.encode (slot.text t)).length ≤ slot.width := by
  rw [Utf8.length_encode]
  apply Slot.kept_eq_text_iff
  rw [text_of_read? read]
  exact Block.dropTrailing_readText _

theorem kept_eq_text_of_slice (read : read? file = some t) {slot : Slot} {s : Text}
    (stored : slice slot.offset slot.width (lastBlock file) = Utf8.encode s) :
    slot.kept t = slot.text t := by
  have room : (slice slot.offset slot.width (lastBlock file)).length ≤ slot.width :=
    List.length_take_le ..
  -- Only malformed octets make a text grow.
  rw [stored, Utf8.length_encode] at room
  rw [kept_eq_text_iff_of_read? read, Utf8.length_encode, text_of_read? read, Block.textAt, stored]
  exact (Block.size_readText_le s).trans room

theorem commentLines_of_read? (read : read? file = some t) (whole : WholeLines file) :
    t.commentLines = (storedLines file).map Comments.readLine := by
  obtain ⟨comments, count⟩ := comments_of_read? read
  apply Record.commentLines_eq_map_readLine _ (length_storedLines_lt file) comments count
  intro line member
  rw [← Utf8.length_encode]
  exact whole line member

theorem map_kept_commentLines_of_read? (read : read? file = some t) (whole : WholeLines file) :
    t.commentLines.map Comments.kept = t.commentLines := by
  rw [commentLines_of_read? read whole, List.map_map]
  apply List.map_congr_left
  intro line member
  apply Comments.kept_readLine
  rw [← Utf8.length_encode]
  exact (whole line member).2

end Read

theorem wholeLines_attach (file : Bytes) (r : Record) : WholeLines (attach file r) := by
  intro octets member
  rw [attach, storedLines_append_toBytes] at member
  obtain ⟨line, here, rfl⟩ := List.mem_map.mp member
  constructor
  · exact Comments.not_mem_lineFeed_field (Record.not_mem_lineFeed_of_mem_commentLines here)
  · rw [Utf8.length_encode, Comments.readLine_field]
    exact Comments.size_kept_le line

section Attached

variable {file : Bytes} {r u : Record}

theorem commentLines_of_read?_attach (read : read? (attach file r) = some u) :
    u.commentLines = r.commentLines.map Comments.kept := by
  rw [commentLines_of_read? read (wholeLines_attach file r), attach, storedLines_append_toBytes,
    List.map_map]
  exact List.map_congr_left fun line _ => Comments.readLine_field line

theorem text_of_read?_attach (read : read? (attach file r) = some u) (slot : Slot) :
    slot.text u = slot.kept r := by
  rw [read?_attach, Option.some.injEq] at read
  rw [← read, ← r.text_inBlock (storedSize (max 1 (strip file).length))
    (UInt8.ofNat r.commentLines.length)]
  cases slot <;> rfl

/-- What was read from a written file is written and read again without any change. -/
theorem read?_attach_of_read? (coded : .ofCode r.dataType.code = r.dataType)
    (read : read? (attach file r) = some u) : read? (attach file u) = some u := by
  have lines := commentLines_of_read?_attach read
  have kept := map_kept_commentLines_of_read? read (wholeLines_attach file r)
  have number : u.commentLines.length = r.commentLines.length := by
    rw [lines, List.length_map]
  rw [read?_attach, Option.some.injEq] at read
  have block (fileSize : UInt32) (count : UInt8) :
      u.inBlock fileSize count = r.inBlock fileSize count := by
    rw [← read]
    exact Record.inBlock_inBlock (storedSize (max 1 (strip file).length))
      (UInt8.ofNat r.commentLines.length) coded fileSize count
  rw [read?_attach, number, kept, lines, block, read]

/-- The octets stay from the first rewriting on, if no text ends in filling where it is cut, or
only in that of its own field. -/
theorem attach_attach_eq_iff (coded : .ofCode r.dataType.code = r.dataType)
    (lines : r.commentLines.map Comments.kept = r.commentLines)
    (read : read? (attach file r) = some u) :
    attach (attach file r) u = attach file r ↔
      ∀ slot : Slot, ∀ c ∈ slot.ending r, c = Char.ofNat slot.fill.toNat := by
  have stored := (commentLines_of_read?_attach read).trans lines
  rw [read?_attach, Option.some.injEq] at read
  have block (fileSize : UInt32) (count : UInt8) :
      u.block fileSize count = (r.inBlock fileSize count).block fileSize count := by
    rw [← read]
    rfl
  -- Content and comment lines are the same in both files, so it comes down to the blocks.
  rw [attach_congr (strip_attach file r), attach, attach, List.append_cancel_left_eq,
    Record.toBytes, Record.toBytes, stored, block, List.cons_inj_right,
    List.append_cancel_left_eq, Record.block_inBlock_eq_iff _ _ coded]

end Attached

/-- Rewriting keeps numbers and flags, cuts the texts that grew when they were read, and keeps the
comments where their lines are whole. A second rewriting changes nothing that is read, and a
third one nothing at all. -/
theorem rewriting_keeps_record {file : Bytes} {t : Record} (read : read? file = some t) :
    ∃ u, read? (attach file t) = some u ∧
      u.dataType = t.dataType ∧ u.fileType = t.fileType ∧
      u.tinfo1 = (if t.dataType = .binaryText then 0 else t.tinfo1) ∧
      u.tinfo2 = (if t.dataType = .binaryText then 0 else t.tinfo2) ∧
      u.tinfo3 = t.tinfo3 ∧ u.tinfo4 = t.tinfo4 ∧ u.flags = t.flags ∧
      u.fileSize.toNat = min (max 1 (strip file).length) (2 ^ 32 - 1) ∧
      (∀ slot : Slot, slot.text u <+: slot.text t ∧
        (slot.text u = slot.text t ↔ (Utf8.encode (slot.text t)).length ≤ slot.width) ∧
        ∀ s : Text, slice slot.offset slot.width (lastBlock file) = Utf8.encode s →
          slot.text u = slot.text t) ∧
      (WholeLines file →
        u.comments = t.comments ∧ u.commentCount = t.commentCount ∧
        (attach (attach file t) u = attach file t ↔
          ∀ slot : Slot, ∀ c ∈ slot.ending t, c = Char.ofNat slot.fill.toNat) ∧
        ((∀ slot : Slot, (Utf8.encode (slot.text t)).length ≤ slot.width) →
          attach (attach file t) u = attach file t)) ∧
      read? (attach (attach file t) u) = some u ∧
      attach (attach (attach file t) u) u = attach (attach file t) u := by
  have written := read?_attach file t
  have coded := coded_of_read? read
  refine ⟨_, written, coded, rfl, rfl, rfl, rfl, rfl, rfl, toNat_storedSize _, ?_, ?_, ?_, ?_⟩
  · intro slot
    rw [text_of_read?_attach written slot]
    exact ⟨slot.kept_isPrefix t, kept_eq_text_iff_of_read? read slot,
      fun s stored => kept_eq_text_of_slice read stored⟩
  · intro whole
    -- The lines are written as they were read, so the fields are all that can differ.
    have lines := map_kept_commentLines_of_read? read whole
    obtain ⟨comments, count⟩ := comments_of_read? read
    have octets := attach_attach_eq_iff coded lines written
    refine ⟨?_, ?_, octets, ?_⟩
    · dsimp only
      rw [lines, commentLines_of_read? read whole, comments]
    · dsimp only [Record.inBlock]
      rw [commentLines_of_read? read whole, List.length_map, count]
    · intro fits
      refine octets.mpr fun slot c member => ?_
      rw [Slot.ending_eq_nil ((kept_eq_text_iff_of_read? read slot).mpr (fits slot))] at member
      cases member
  · rw [attach_congr (strip_attach file t)]
    exact read?_attach_of_read? coded written
  · exact attach_congr (strip_attach _ _) _

def blankComment : Bytes :=
  [0x61, 0x72, 0x74, endOfContent] ++ Comments.mark ++ List.replicate 64 0x20 ++ Block.mark ++
    List.replicate 97 0x00 ++ [0x01] ++ List.replicate 23 0x00

theorem rewriting_keeps_blankComment :
    ∃ t u, read? blankComment = some t ∧ WholeLines blankComment ∧
      read? (attach blankComment t) = some u ∧ u.comments = [] ∧ u.commentCount = 1 ∧
      attach (attach blankComment t) u = attach blankComment t := by
  have ends : endsInRecord blankComment := by decide +kernel
  have whole : WholeLines blankComment := by
    unfold WholeLines
    decide +kernel
  obtain ⟨t, read⟩ : ∃ t, read? blankComment = some t := ⟨_, read?_of_endsInRecord ends⟩
  obtain ⟨comments, count⟩ := comments_of_read? read
  have blank : Text.unlines ((storedLines blankComment).map Comments.readLine) = [] := by
    decide +kernel
  obtain ⟨u, again, _, _, _, _, _, _, _, _, _, lines, _⟩ := rewriting_keeps_record read
  obtain ⟨sameComments, sameCount, _, same⟩ := lines whole
  refine ⟨t, u, read, whole, again, ?_, ?_, ?_⟩
  · rw [sameComments, comments, blank]
  · rw [sameCount, count]
    decide +kernel
  · apply same
    intro slot
    rw [text_of_read? read]
    cases slot <;> decide +kernel

/-- A title that grows when it is read, so that it is cut right behind two NULs. -/
def grownTitle : Bytes :=
  Block.mark ++ List.replicate 11 0xFF ++ [0x00, 0x00, 0x78] ++ List.replicate 21 0x20 ++
    List.replicate 86 0x00

/-- The NULs are not read again, and the second rewriting has spaces in their place. -/
theorem rewriting_changes_octets :
    ∃ t u, read? grownTitle = some t ∧ WholeLines grownTitle ∧
      read? (attach grownTitle t) = some u ∧
      attach (attach grownTitle t) u ≠ attach grownTitle t := by
  have ends : endsInRecord grownTitle := by decide +kernel
  have whole : WholeLines grownTitle := by
    unfold WholeLines
    decide +kernel
  obtain ⟨t, read⟩ : ∃ t, read? grownTitle = some t := ⟨_, read?_of_endsInRecord ends⟩
  have again := read?_attach grownTitle t
  refine ⟨t, _, read, whole, again, ?_⟩
  rw [Ne, attach_attach_eq_iff (coded_of_read? read) (map_kept_commentLines_of_read? read whole)
    again]
  intro endings
  have title : Slot.title.ending t = ['\x00', '\x00'] := by
    rw [Slot.ending, Slot.kept, text_of_read? read]
    decide +kernel
  have spaces := endings .title
  rw [title] at spaces
  exact absurd (spaces '\x00' List.mem_cons_self) (by decide)

end Textmode.Sauce.File
