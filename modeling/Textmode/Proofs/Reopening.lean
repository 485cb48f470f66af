import Textmode.Proofs.DraftComments

/-! Records that are taken up again and edited. Each part of the record has the last value that an
edit put there, or the one it had before. The comments are those that were there, and what was
added since they were last cleared.
-/

set_option autoImplicit false

namespace Textmode.Sauce

theorem Record.eq_of_parts {r other : Record} (parts : ∀ part : Part, part.of r = part.of other)
    (count : r.commentCount = other.commentCount) (comments : r.comments = other.comments) :
    r = other := by
  have flags : r.flags = other.flags := by
    have spare : r.flags.spare = other.flags.spare := parts .spareFlags
    have ratio : r.flags.aspectRatio = other.flags.aspectRatio := parts .aspectRatio
    have spacing : r.flags.letterSpacing = other.flags.letterSpacing := parts .letterSpacing
    have ice : r.flags.iceColors = other.flags.iceColors := parts .iceColors
    apply Flags.eq_of_bits_eq
    rw [r.flags.bits_eq_parts, spare, ratio, spacing, ice, ← other.flags.bits_eq_parts]
  cases r
  cases other
  rw [Record.mk.injEq]
  exact ⟨parts (.text .title), parts (.text .author), parts (.text .group), parts (.text .date),
    parts .fileSize, parts .dataType, parts .fileType, parts .tinfo1, parts .tinfo2,
    parts .tinfo3, parts .tinfo4, count, flags, parts (.text .fontName), comments⟩

namespace Edit

def given : Edit → List Text → List Text
  | addComment line, before => before ++ [line]
  | clearComments, _ => []
  | _, before => before

def isOnComments : Edit → Bool
  | addComment _ | clearComments => true
  | _ => false

theorem given_of_not_isOnComments {edit : Edit} (other : ¬ edit.isOnComments)
    (before : List Text) : edit.given before = before := by
  cases edit with
  | addComment _ | clearComments => exact absurd rfl other
  | _ => rfl

end Edit

namespace Draft

variable {d d' : Draft} {edit : Edit}

/-- The edits of a run that are taken, each with the draft that it finds. -/
def taken (d : Draft) : List Edit → List (Draft × Edit)
  | [] => []
  | edit :: edits =>
    match d.apply edit with
    | .ok d' => (d, edit) :: taken d' edits
    | .error _ => taken d edits

def lastValue? (part : Part) (taken : List (Draft × Edit)) : Option part.Value :=
  taken.reverse.findSome? fun step => step.2.value? step.1.record.dataType part

def givenAfter (before : List Text) (taken : List (Draft × Edit)) : List Text :=
  taken.foldl (fun given step => step.2.given given) before

/-- Induction on the edits of a run that are taken. The others do not show. -/
theorem taken_induction {motive : Draft → List (Draft × Edit) → Draft → Prop}
    (nil : ∀ d, motive d [] d)
    (cons : ∀ before edit after log final, before.apply edit = .ok after →
      motive after log final → motive before ((before, edit) :: log) final)
    (d : Draft) (edits : List Edit) : motive d (d.taken edits) (d.run edits) := by
  induction edits generalizing d with
  | nil => exact nil d
  | cons edit edits ih =>
    rw [run, List.foldl_cons, attempt, taken]
    cases result : d.apply edit with
    | ok after => exact cons d edit after _ _ result (ih after)
    | error _ => exact ih d

/-! ## Parts -/

theorem lastValue?_eq_none {part : Part}
    (none : ∀ dataType (edit : Edit), edit.value? dataType part = none)
    (log : List (Draft × Edit)) : lastValue? part log = .none := by
  rw [lastValue?, List.findSome?_eq_none_iff]
  intro step _
  exact none _ step.2

theorem of_run (d : Draft) (edits : List Edit) (part : Part) :
    part.of (d.run edits).record = (lastValue? part (d.taken edits)).getD (part.of d.record) := by
  refine taken_induction (motive := fun d log final =>
    part.of final.record = (lastValue? part log).getD (part.of d.record)) (fun _ => rfl) ?_ d edits
  intro before edit after log final result ih
  -- Later edits come first, and the value of this one counts where they have none.
  have split : lastValue? part ((before, edit) :: log) =
      (lastValue? part log).or (edit.value? before.record.dataType part) := by
    rw [lastValue?, List.reverse_cons, List.findSome?_append, List.findSome?_singleton, lastValue?]
  rw [ih, of_apply result, split, Option.getD_or]

/-! ## Comments -/

/-- Comments that join to the same text and take lines or not alike. -/
structure Alike (comments given : List Text) : Prop where
  text : Text.unlines comments = Text.unlines given
  none : comments = [] ↔ given = []

theorem Alike.onComments {comments given : List Text} (alike : Alike comments given)
    (edit : Edit) : Alike (edit.onComments comments) (edit.given given) := by
  cases edit with
  | addComment line =>
    refine ⟨?_, by simp [Edit.onComments, Edit.given]⟩
    rw [Edit.onComments, Edit.given]
    by_cases first : comments = []
    · rw [first, alike.none.mp first]
    · rw [Text.unlines_concat first, Text.unlines_concat (mt alike.none.mpr first), alike.text]
  | reopen =>
    exact ⟨(Text.unlines_flatMap_lines comments).trans alike.text,
      Text.flatMap_lines_eq_nil_iff.trans alike.none⟩
  | clearComments => exact ⟨rfl, Iff.rfl⟩
  | _ => exact alike

theorem alike_run {given : List Text} (alike : Alike d.comments given) (edits : List Edit) :
    Alike (d.run edits).comments (givenAfter given (d.taken edits)) := by
  refine taken_induction (motive := fun d log final => ∀ given, Alike d.comments given →
    Alike final.comments (givenAfter given log)) ?_ ?_ d edits given alike
  · intro d given alike
    exact alike
  · intro before edit after log final result ih given alike
    apply ih
    rw [comments_apply result]
    exact alike.onComments edit

theorem givenAfter_of_not_isOnComments {log : List (Draft × Edit)}
    (none : ∀ step ∈ log, ¬ step.2.isOnComments) (before : List Text) :
    givenAfter before log = before := by
  induction log with
  | nil => rfl
  | cons step log ih =>
    have same := Edit.given_of_not_isOnComments (none step List.mem_cons_self) before
    rw [givenAfter, List.foldl_cons, same]
    exact ih fun later member => none later (List.mem_cons_of_mem step member)

end Draft

/-! ## Records taken up again -/

theorem Record.commentLines_congr {r other : Record} (comments : r.comments = other.comments)
    (count : r.comments = [] → (r.commentCount = 0 ↔ other.commentCount = 0)) :
    r.commentLines = other.commentLines := by
  by_cases bare : r.comments = []
  · simp only [commentLines, ← comments, ne_eq, count bare]
  · rw [commentLines, commentLines, ← comments, if_neg fun lone => bare lone.1,
      if_neg fun lone => bare lone.1]

/-- The comments of a record as one text that was given, or none at all. -/
def Record.given (r : Record) : List Text :=
  if r.comments = [] ∧ r.commentCount = 0 then [] else [r.comments]

theorem Record.unlines_given (r : Record) : Text.unlines r.given = r.comments := by
  rw [given]
  split
  · next none => rw [none.1]; rfl
  · exact List.intercalate_singleton

theorem Record.attach_recount (r : Record) (file : Bytes) :
    File.attach file { r with commentCount := UInt8.ofNat r.commentLines.length } =
      File.attach file r := by
  rw [File.attach, File.attach, Record.toBytes, Record.toBytes, r.commentLines_recount]
  rfl

namespace Draft

theorem alike_ofRecord (r : Record) : Alike (ofRecord r).comments r.given := by
  by_cases bare : r.comments = []
  · by_cases zero : r.commentCount = 0
    · have none : (ofRecord r).comments = [] ∧ r.given = [] := by
        simp [ofRecord, Record.given, bare, zero]
      rw [none.1, none.2]
      exact ⟨rfl, Iff.rfl⟩
    · have lone : (ofRecord r).comments = [[]] ∧ r.given = [[]] := by
        simp [ofRecord, Record.given, bare, zero]
      rw [lone.1, lone.2]
      exact ⟨rfl, Iff.rfl⟩
  · have whole : (ofRecord r).comments = [r.comments].flatMap Text.lines ∧
        r.given = [r.comments] := by
      simp [ofRecord, Record.given, bare]
    rw [whole.1, whole.2]
    exact ⟨Text.unlines_flatMap_lines _, Text.flatMap_lines_eq_nil_iff⟩

theorem of_finish (d : Draft) (part : Part) : part.of d.finish = part.of d.record := by
  cases part with
  | text slot => exact d.text_finish slot
  | _ => rfl

theorem of_ofRecord (r : Record) (part : Part) : part.of (ofRecord r).record = part.of r := by
  cases part with
  | text slot => cases slot <;> rfl
  | _ => rfl

theorem finish_ofRecord (r : Record) :
    (ofRecord r).finish = { r with commentCount := UInt8.ofNat r.commentLines.length } := by
  have alike := alike_ofRecord r
  have text : Text.unlines (ofRecord r).comments = r.comments := alike.text.trans r.unlines_given
  -- Where there is no text, the count is all that tells one empty line from none.
  have lines : Record.commentLines { (ofRecord r).record with
      comments := Text.unlines (ofRecord r).comments
      commentCount := if (ofRecord r).comments = [] then 0 else 1 } = r.commentLines := by
    apply Record.commentLines_congr text
    intro bare
    have none : r.given = [] ↔ r.commentCount = 0 := by
      simp [Record.given, text.symm.trans bare]
    rw [← none, ← alike.none]
    simp
  apply Record.eq_of_parts
  · intro part
    rw [of_finish, of_ofRecord]
    cases part with
    | text slot => cases slot <;> rfl
    | _ => rfl
  · exact congrArg (fun lines => UInt8.ofNat lines.length) lines
  · exact text

theorem ofRecord_finish_finish (d : Draft) : (ofRecord d.finish).finish = d.finish := by
  rw [finish_ofRecord, ← d.commentCount_finish, UInt8.ofNat_toNat]

/-- What comes of a record that is taken up again and edited. -/
theorem finish_of_run (r : Record) (edits : List Edit) :
    (ofRecord r).finish = { r with commentCount := UInt8.ofNat r.commentLines.length } ∧
    (∀ file, File.attach file (ofRecord r).finish = File.attach file r) ∧
    ∃ log t, (ofRecord r).taken edits = log ∧ ((ofRecord r).run edits).finish = t ∧
      (ofRecord t).finish = t ∧
      t.commentCount.toNat = t.commentLines.length ∧
      (∀ part : Part, part.of t = (lastValue? part log).getD (part.of r)) ∧
      t.fileSize = r.fileSize ∧ t.flags.bits &&& 0xE0 = r.flags.bits &&& 0xE0 ∧
      t.comments = Text.unlines (givenAfter r.given log) ∧
      ((∀ step ∈ log, ¬ step.2.isOnComments) → t.comments = r.comments) ∧
      ∀ other : Record, (∀ part : Part, part.of other = part.of t) →
        other.commentCount = t.commentCount → other.comments = t.comments → other = t := by
  have parts (part : Part) : part.of ((ofRecord r).run edits).finish =
      (lastValue? part ((ofRecord r).taken edits)).getD (part.of r) := by
    rw [of_finish, of_run, of_ofRecord]
  have comments := (alike_run (alike_ofRecord r) edits).text
  refine ⟨finish_ofRecord r, ?_, _, _, rfl, rfl, ofRecord_finish_finish _, commentCount_finish _,
    parts, ?_, ?_, comments, ?_, fun other => Record.eq_of_parts⟩
  · intro file
    rw [finish_ofRecord, r.attach_recount]
  -- No edit has a value for either of these parts.
  · have kept := parts .fileSize
    rwa [lastValue?_eq_none fun _ edit => by cases edit <;> rfl] at kept
  · have kept := parts .spareFlags
    rwa [lastValue?_eq_none fun _ edit => by cases edit <;> rfl] at kept
  · intro none
    rw [givenAfter_of_not_isOnComments none, r.unlines_given] at comments
    exact comments

end Draft

end Textmode.Sauce
