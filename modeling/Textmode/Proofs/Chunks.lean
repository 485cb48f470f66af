import Textmode.Proofs.Lines
import Textmode.Proofs.RoundTrip

/-! How comments are broken into the lines of a file, said without the writer: each line in chunks
from its front, as long as they can be. The writer stores these chunks, as many as a record can
count, and reading gives them back line by line.
-/

set_option autoImplicit false

namespace Textmode

namespace Text

/-- Chunks from the front of a text, each one the longest that `width` octets hold. -/
inductive Chunked (width : Nat) : Text → List Text → Prop where
  | nil : Chunked width [] []
  | cons {t chunk : Text} {chunks : List Text} : chunk ≠ [] → LongestWithin width t chunk →
      Chunked width (t.drop chunk.length) chunks → Chunked width t (chunk :: chunks)

section Chunks

variable {width : Nat} {t : Text}

theorem Chunked.unique {first second : List Text} (left : Chunked width t first)
    (right : Chunked width t second) : first = second := by
  induction left generalizing second with
  | nil =>
    cases right with
    | nil => rfl
    | cons nonempty longest _ => exact absurd (List.prefix_nil.mp longest.isPrefix) nonempty
  | cons nonempty longest _ ih =>
    cases right with
    | nil => exact absurd (List.prefix_nil.mp longest.isPrefix) nonempty
    | cons _ other rest =>
      obtain rfl := longest.unique other
      rw [ih rest]

theorem Chunked.flatten {chunks : List Text} (cut : Chunked width t chunks) :
    chunks.flatten = t := by
  induction cut with
  | nil => rfl
  | cons _ longest _ ih =>
    rw [List.flatten_cons, ih]
    exact List.prefix_iff_eq_append.mp longest.isPrefix

theorem chunked_pieces (room : 4 ≤ width) (t : Text) : Chunked width t (pieces width t) := by
  induction t using pieces.induct width with
  | case1 =>
    rw [pieces]
    exact .nil
  | case2 c t ih =>
    -- No character is wider than the chunk, so it begins what fits.
    have first : fit width (c :: t) = c :: fit (width - c.utf8Size) t := by
      rw [fit, if_pos (c.utf8Size_le_four.trans room)]
    have longest := fit_longestWithin width (c :: t)
    rw [first] at longest
    rw [pieces]
    exact .cons (List.cons_ne_nil c _) longest ih

theorem chunked_iff (room : 4 ≤ width) {chunks : List Text} :
    Chunked width t chunks ↔ chunks = pieces width t := by
  constructor
  · intro cut
    exact cut.unique (chunked_pieces room t)
  · rintro rfl
    exact chunked_pieces room t

end Chunks

end Text

namespace Sauce

namespace Comments

/-- The chunks of a line without the blanks at its end. A blank line is one empty chunk. -/
inductive LineChunks (line : Text) : List Text → Prop where
  | blank : Text.trimEnd line = [] → LineChunks line [[]]
  | cut {chunks : List Text} : Text.trimEnd line ≠ [] →
      Text.Chunked lineWidth (Text.trimEnd line) chunks → LineChunks line chunks

/-- All chunks of the comments of a record, line by line. Where there are none, a count of lines
stands for one empty chunk. -/
inductive Chunks (r : Record) : List Text → Prop where
  | none : r.comments = [] → r.commentCount = 0 → Chunks r []
  | lone : r.comments = [] → r.commentCount ≠ 0 → Chunks r [[]]
  | lines {parts : List (List Text)} : r.comments ≠ [] →
      List.Forall₂ LineChunks (Text.lines r.comments) parts → Chunks r parts.flatten

theorem lineWidth_room : 4 ≤ lineWidth := by decide

theorem lineChunks_iff {line : Text} {chunks : List Text} :
    LineChunks line chunks ↔ chunks = wrap line := by
  rw [wrap]
  constructor
  · rintro (blank | ⟨visible, cut⟩)
    · rw [if_pos blank]
    · rw [if_neg visible]
      exact (Text.chunked_iff lineWidth_room).mp cut
  · rintro rfl
    split
    · next blank => exact .blank blank
    · next visible => exact .cut visible (Text.chunked_pieces lineWidth_room _)

theorem forall₂_lineChunks_iff {ls : List Text} {parts : List (List Text)} :
    List.Forall₂ LineChunks ls parts ↔ parts = ls.map wrap := by
  constructor
  · intro each
    induction each with
    | nil => rfl
    | cons first _ ih => rw [List.map_cons, lineChunks_iff.mp first, ih]
  · rintro rfl
    induction ls with
    | nil => exact .nil
    | cons line ls ih => exact .cons (lineChunks_iff.mpr rfl) ih

theorem flatten_wrap (line : Text) : (wrap line).flatten = Text.trimEnd line := by
  rw [wrap]
  split
  · next blank => rw [blank]; rfl
  · exact (Text.chunked_pieces lineWidth_room _).flatten

theorem size_le_of_mem_wrap {line chunk : Text} (member : chunk ∈ wrap line) :
    Utf8.size chunk ≤ lineWidth := by
  rw [wrap] at member
  split at member
  · obtain rfl := List.mem_singleton.mp member
    exact Nat.zero_le lineWidth
  · exact Text.size_le_of_mem_pieces lineWidth_room member

theorem block_eq_padded {lines : List Text}
    (fits : ∀ line ∈ lines, Utf8.size line ≤ lineWidth) :
    block lines = if lines = [] then []
      else mark ++ lines.flatMap (Text.padded 0x20 lineWidth) := by
  rw [block]
  split
  · rfl
  · rw [List.flatMap_congr fun line member => Text.field_eq_padded (fits line member)]

end Comments

namespace Record

open Comments (Chunks LineChunks)

def neededLines (r : Record) : List Text :=
  if r.comments = [] ∧ r.commentCount ≠ 0 then [[]] else Comments.wrapAll r.comments

variable {r : Record}

theorem commentLines_eq_take (r : Record) :
    r.commentLines = r.neededLines.take Comments.maxLines := by
  rw [commentLines, neededLines]
  split <;> rfl

theorem chunks_iff {all : List Text} : Chunks r all ↔ all = r.neededLines := by
  rw [neededLines, Comments.wrapAll]
  constructor
  · rintro (⟨bare, zero⟩ | ⟨bare, counted⟩ | ⟨some, each⟩)
    · simp [bare, zero]
    · simp [bare, counted]
    · rw [if_neg fun lone => some lone.1, if_neg some, List.flatMap_def,
        Comments.forall₂_lineChunks_iff.mp each]
  · rintro rfl
    by_cases bare : r.comments = []
    · by_cases zero : r.commentCount = 0
      · simpa [bare, zero] using Chunks.none bare zero
      · simpa [bare, zero] using Chunks.lone bare zero
    · rw [if_neg fun lone => bare lone.1, if_neg bare, List.flatMap_def]
      exact .lines bare (Comments.forall₂_lineChunks_iff.mpr rfl)

theorem size_le_of_mem_neededLines {line : Text} (member : line ∈ r.neededLines) :
    Utf8.size line ≤ Comments.lineWidth := by
  rw [neededLines, Comments.wrapAll] at member
  split at member
  · obtain rfl := List.mem_singleton.mp member
    exact Nat.zero_le Comments.lineWidth
  split at member
  · cases member
  obtain ⟨whole, _, part⟩ := List.mem_flatMap.mp member
  exact Comments.size_le_of_mem_wrap part

theorem size_le_of_mem_commentLines {line : Text} (member : line ∈ r.commentLines) :
    Utf8.size line ≤ Comments.lineWidth := by
  rw [r.commentLines_eq_take] at member
  exact size_le_of_mem_neededLines (List.mem_of_mem_take member)

theorem map_kept_commentLines (r : Record) : r.commentLines.map Comments.kept =
    r.commentLines.map (dropTrailing Comments.isFilling) := by
  apply List.map_congr_left
  intro line member
  rw [Comments.kept, Text.fit_eq_self_iff.mpr (size_le_of_mem_commentLines member)]

theorem flatten_neededLines (r : Record) :
    r.neededLines.flatten = (Text.lines r.comments).flatMap Text.trimEnd := by
  rw [neededLines, Comments.wrapAll]
  by_cases bare : r.comments = []
  · rw [if_pos bare, bare]
    split <;> rfl
  · rw [if_neg fun lone => bare lone.1, if_neg bare]
    induction Text.lines r.comments with
    | nil => rfl
    | cons line ls ih =>
      rw [List.flatMap_cons, List.flatten_append, Comments.flatten_wrap, ih, List.flatMap_cons]

end Record

namespace File

/-- What is stored are the chunks, each filled up to a line, and their number; what is read are
the chunks without the blanks and NULs at their ends. If they have none there, and all are stored,
the characters of the comments are all that were written. -/
theorem comments_attach (file : Bytes) (r : Record) :
    ∃ all : List Text, (∀ other, Comments.Chunks r other ↔ other = all) ∧
    ∃ stored : List Text, stored = all.take 255 ∧
    ∃ block u, attach file r = strip file ++ endOfContent ::
        ((if stored = [] then []
          else Comments.mark ++ stored.flatMap (Text.padded 0x20 64)) ++ block) ∧
      block.length = 128 ∧ (Block.commentCount block).toNat = stored.length ∧
      (∀ chunk ∈ stored, (Text.padded 0x20 64 chunk).length = 64) ∧
      read? (attach file r) = some u ∧
      u.comments = Text.unlines (stored.map (dropTrailing Comments.isFilling)) ∧
      (all.length ≤ 255 → (∀ chunk ∈ all, ∀ c ∈ chunk.getLast?, ¬ Comments.isFilling c) →
        u.comments.filter (· ≠ '\n') = (Text.lines r.comments).flatMap Text.trimEnd) := by
  have fits : ∀ line ∈ r.commentLines, Utf8.size line ≤ Comments.lineWidth :=
    fun line => Record.size_le_of_mem_commentLines
  refine ⟨r.neededLines, fun other => Record.chunks_iff, r.commentLines, r.commentLines_eq_take,
    r.block (storedSize (strip file).length) (UInt8.ofNat r.commentLines.length), _, ?_,
    r.length_block _ _, ?_, ?_, read?_attach file r, ?_, ?_⟩
  · rw [attach, Record.toBytes, Comments.block_eq_padded fits]
    rfl
  · rw [Block.commentCount, (r.octetAt_block _ _).2.2.1, toNat_commentLines]
  · intro chunk member
    exact Text.length_padded (fits chunk member)
  · dsimp only
    rw [r.map_kept_commentLines]
  · intro uncut plain
    -- No chunk is left out, and none loses its end when it is read.
    have whole : r.commentLines = r.neededLines :=
      r.commentLines_eq_take.trans (List.take_of_length_le uncut)
    have same : r.commentLines.map (dropTrailing Comments.isFilling) = r.commentLines := by
      rw [whole]
      conv => rhs; rw [← List.map_id r.neededLines]
      exact List.map_congr_left fun chunk member =>
        dropTrailing_eq_self_iff.mpr (plain chunk member)
    dsimp only
    have apart : ∀ line ∈ r.commentLines, '\n' ∉ line :=
      fun line => Record.not_mem_lineFeed_of_mem_commentLines
    rw [r.map_kept_commentLines, same, Text.filter_unlines apart, whole, r.flatten_neededLines]

end File

end Sauce

end Textmode
