import Textmode.Proofs.Chunks
import Textmode.Proofs.Draft
import Mathlib.Data.List.TakeDrop

/-! The comments of a draft in a file. A draft counts the texts that it was given, a record the
lines that they take. Where a text has line feeds of its own the two are not the same, and a file
may have no room for lines that no edit was refused for.
-/

set_option autoImplicit false

namespace Textmode.Sauce

open Comments (isFilling lineWidth maxLines)

theorem Record.unlines_kept_commentLines {r : Record}
    (fits : ∀ line ∈ Text.lines r.comments, Utf8.size line ≤ lineWidth) :
    Text.unlines (r.commentLines.map Comments.kept) =
      Text.unlines (((Text.lines r.comments).take maxLines).map (dropTrailing isFilling)) := by
  rw [r.map_kept_commentLines, commentLines]
  by_cases bare : r.comments = []
  · -- One empty line and none at all join to the same text.
    rw [bare]
    split <;> rfl
  · rw [if_neg fun lone => bare lone.1, Comments.wrapAll_of_size_le bare fits, ← List.map_take,
      List.map_map]
    congr 1
    apply List.map_congr_left
    intro line _
    exact dropTrailing_absorb_of_imp (fun _ => Comments.isFilling_of_isBlank) line

theorem Comments.unlines_take_eq_iff (t : Text) :
    Text.unlines (((Text.lines t).take maxLines).map (dropTrailing isFilling)) =
      Text.unlines ((Text.lines t).map (dropTrailing isFilling)) ↔
      (Text.lines t).length ≤ maxLines := by
  have some : Text.lines t ≠ [] := List.splitOn_ne_nil '\n' t
  have apart : ∀ line ∈ (Text.lines t).map (dropTrailing isFilling), '\n' ∉ line := by
    intro line member feed
    obtain ⟨whole, here, rfl⟩ := List.mem_map.mp member
    exact Text.not_mem_lineFeed_of_mem_lines here ((dropTrailing_isPrefix isFilling whole).subset feed)
  rw [List.map_take, Text.unlines_inj (fun line member => apart line (List.mem_of_mem_take member))
    apart, List.take_eq_self_iff, List.length_map]
  · simpa [maxLines] using some
  · simpa using some

def Edit.onComments : Edit → List Text → List Text
  | addComment line, comments => comments ++ [line]
  | clearComments, _ => []
  | reopen, comments => comments.flatMap Text.lines
  | _, comments => comments

namespace Draft

variable {d d' : Draft} {edit : Edit}

theorem lines_finish (d : Draft) : Text.lines d.finish.comments =
    if d.comments = [] then [[]] else d.comments.flatMap Text.lines := by
  split
  · next none =>
    have bare : d.finish.comments = [] := congrArg Text.unlines none
    rw [bare]
    rfl
  · next given => exact Text.lines_unlines given

theorem comments_ofRecord_finish (d : Draft) :
    (ofRecord d.finish).comments = d.comments.flatMap Text.lines := by
  rw [ofRecord]
  dsimp only
  by_cases visible : d.finish.comments = []
  · -- Only the count tells a lone empty comment from none.
    rw [if_neg (not_not_intro visible)]
    obtain none | one := Comments.unlines_eq_nil visible
    · have uncounted : d.finish.commentCount = 0 := by
        simp [finish, none, Record.commentLines, Comments.wrapAll, Text.unlines]
      rw [uncounted, none]
      rfl
    · have counted : d.finish.commentCount = 1 := by
        simp [finish, one, Record.commentLines, Text.unlines]
      rw [counted, one]
      rfl
  · have given : d.comments ≠ [] := fun none => visible (congrArg Text.unlines none)
    rw [if_pos visible, lines_finish, if_neg given]

theorem comments_apply (taken : d.apply edit = .ok d') :
    d'.comments = edit.onComments d.comments := by
  cases edit with
  | addComment line =>
    rw [apply] at taken
    split at taken
    · cases taken
    · obtain ⟨_, rfl⟩ := checked_map_eq_ok taken
      rfl
  | reopen =>
    cases taken
    exact d.comments_ofRecord_finish
  | title value | author value | group value | fontName value =>
    obtain ⟨_, rfl⟩ := checked_map_eq_ok taken
    rfl
  | stamp _ | size _ _ =>
    rw [apply] at taken
    split at taken
    · cases taken
      rfl
    · cases taken
  | date _ | dataType _ | fileType _ | tinfo _ _ _ _ | iceColors _ | letterSpacing _
  | aspectRatio _ | clearComments =>
    cases taken
    rfl

theorem addComment_taken {line : Text} (taken : d.apply (.addComment line) = .ok d') :
    Utf8.size line ≤ lineWidth ∧ d.comments.length < maxLines := by
  rw [apply] at taken
  split at taken
  · cases taken
  · next room =>
    obtain ⟨fits, _⟩ := checked_map_eq_ok taken
    rw [Utf8.length_encode] at fits
    exact ⟨fits, by omega⟩

/-- All that an edit can do to the comments. -/
theorem comments_cases (taken : d.apply edit = .ok d') :
    d'.comments = d.comments ∨ d'.comments = [] ∨ d'.comments = d.comments.flatMap Text.lines ∨
      ∃ line, edit = .addComment line ∧ Utf8.size line ≤ lineWidth ∧
        d.comments.length < maxLines ∧ d'.comments = d.comments ++ [line] := by
  have result := comments_apply taken
  cases edit with
  | addComment line =>
    obtain ⟨fits, room⟩ := addComment_taken taken
    exact .inr (.inr (.inr ⟨line, rfl, fits, room, result⟩))
  | clearComments => exact .inr (.inl result)
  | reopen => exact .inr (.inr (.inl result))
  | _ => exact .inl result

theorem size_le_of_mem_run (edits : List Edit) :
    ∀ line ∈ (({} : Draft).run edits).comments, Utf8.size line ≤ lineWidth := by
  refine run_induction (motive := fun d => ∀ line ∈ d.comments, Utf8.size line ≤ lineWidth) ?_ ?_
  · intro line member
    cases member
  · intro edit _ before after fits taken line member
    rcases comments_cases taken with same | none | apart | ⟨added, _, short, _, more⟩
    · rw [same] at member
      exact fits line member
    · rw [none] at member
      cases member
    · -- Taken up again, a comment comes apart into lines that are no longer than it was.
      rw [apart] at member
      exact Text.size_le_of_mem_flatMap_lines fits member
    · rw [more] at member
      rcases List.mem_append.mp member with here | last
      · exact fits line here
      · obtain rfl := List.mem_singleton.mp last
        exact short

structure Plain (comments : List Text) : Prop where
  apart : ∀ line ∈ comments, '\n' ∉ line
  few : comments.length ≤ maxLines

theorem Plain.flatMap_lines {comments : List Text} (plain : Plain comments) :
    comments.flatMap Text.lines = comments := by
  have single : ∀ line ∈ comments, Text.lines line = [line] :=
    fun line member => List.splitOn_eq_singleton (plain.apart line member)
  rw [List.flatMap_congr single, ← List.map_eq_flatMap, List.map_id']

theorem plain_run {edits : List Edit} (added : ∀ line, .addComment line ∈ edits → '\n' ∉ line) :
    Plain (({} : Draft).run edits).comments := by
  have none : Plain [] := ⟨fun _ => (absurd · List.not_mem_nil), Nat.zero_le maxLines⟩
  refine run_induction (motive := fun d => Plain d.comments) none ?_
  intro edit member before after plain taken
  rcases comments_cases taken with same | cleared | apart | ⟨line, rfl, _, room, more⟩
  · rwa [same]
  · rwa [cleared]
  · rwa [apart, plain.flatMap_lines]
  · -- An addition is the only edit that makes them more, and it is taken below the limit only.
    rw [more]
    constructor
    · intro other place
      rcases List.mem_append.mp place with here | last
      · exact plain.apart other here
      · obtain rfl := List.mem_singleton.mp last
        exact added other member
    · rw [List.length_append, List.length_singleton]
      exact room

theorem size_le_of_mem_lines_finish {edits : List Edit} {line : Text}
    (member : line ∈ Text.lines (({} : Draft).run edits).finish.comments) :
    Utf8.size line ≤ lineWidth := by
  rw [lines_finish] at member
  split at member
  · obtain rfl := List.mem_singleton.mp member
    exact Nat.zero_le lineWidth
  · exact Text.size_le_of_mem_flatMap_lines (size_le_of_mem_run edits) member

theorem Plain.length_lines_finish (plain : Plain d.comments) :
    (Text.lines d.finish.comments).length ≤ maxLines := by
  rw [lines_finish]
  split
  · decide
  · rw [plain.flatMap_lines]
    exact plain.few

/-- The comments of a draft that began empty. A file holds the first 255 of their lines, without
the blanks and NULs at the ends. So nothing else is lost exactly if there are no more lines, which
is so at least if no text was added that has a line feed in it. -/
theorem comments_of_run (edits : List Edit) (file : Bytes) :
    ∃ t, (({} : Draft).run edits).finish = t ∧
      ∃ u, File.read? (File.attach file t) = some u ∧
        u.comments =
          Text.unlines (((Text.lines t.comments).take 255).map (dropTrailing isFilling)) ∧
        (u.comments = Text.unlines ((Text.lines t.comments).map (dropTrailing isFilling)) ↔
          (Text.lines t.comments).length ≤ 255) ∧
        ((∀ line, .addComment line ∈ edits → '\n' ∉ line) →
          (Text.lines t.comments).length ≤ 255) := by
  have read := File.read?_attach file (({} : Draft).run edits).finish
  have kept := Record.unlines_kept_commentLines
    fun line (member : line ∈ Text.lines (({} : Draft).run edits).finish.comments) =>
      size_le_of_mem_lines_finish member
  refine ⟨_, rfl, _, read, kept, ?_, fun added => (plain_run added).length_lines_finish⟩
  dsimp only
  rw [kept]
  exact Comments.unlines_take_eq_iff _

/-- Four texts of 64 lines each are taken, and a file loses the last of the lines. -/
theorem comments_lose_line :
    let edits := List.replicate 4 (.addComment (List.replicate 63 '\n' ++ ['x']))
    let t := (({} : Draft).run edits).finish
    ({} : Draft).applyAll edits = .ok (({} : Draft).run edits) ∧
      (Text.lines t.comments).length = 256 ∧
      ∃ u, File.read? (File.attach [] t) = some u ∧
        u.comments ≠ Text.unlines ((Text.lines t.comments).map (dropTrailing isFilling)) ∧
        t.comments = u.comments ++ ['\n', 'x'] := by
  intro edits t
  have many : (Text.lines t.comments).length = 256 := by decide +kernel
  have kept : Text.unlines (t.commentLines.map Comments.kept) = _ :=
    Record.unlines_kept_commentLines fun line => size_le_of_mem_lines_finish
  refine ⟨rfl, many, _, File.read?_attach [] t, ?_, ?_⟩
  · dsimp only
    rw [kept, ne_eq, Comments.unlines_take_eq_iff, many]
    decide
  · dsimp only
    rw [kept]
    decide +kernel

end Draft

end Textmode.Sauce
