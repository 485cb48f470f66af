import Textmode.Ansi.Artwork
import Textmode.Proofs.Checked.Text
import Textmode.Proofs.Prose
import Textmode.Text.ColumnWidth

/-! Text put under art line by line. What a line starts with makes no difference there, so to put
the text under the art again changes nothing. The prose of art that is put under the art again
stands where it stood.
-/

set_option autoImplicit false

namespace Textmode.Text

theorem indentLines_cons (measure : Text → Nat) (art : List Text) (line : Text) (ls : List Text) :
    indentLines measure art (line :: ls) =
      indentLine ((art.head?.map fun source => measure (leading source)).getD 0) line ::
        indentLines measure art.tail ls := by
  cases art <;> rfl

theorem getElem?_indentLines (measure : Text → Nat) (art ls : List Text) (i : Nat) :
    (indentLines measure art ls)[i]? =
      ls[i]?.map (indentLine ((art[i]?.map fun source => measure (leading source)).getD 0)) := by
  induction ls generalizing art i with
  | nil => simp [indentLines]
  | cons line ls ih =>
    rw [indentLines_cons]
    cases i with
    | zero => simp [List.head?_eq_getElem?]
    | succ i => simp [ih]

theorem length_indentLines (measure : Text → Nat) (art ls : List Text) :
    (indentLines measure art ls).length = ls.length := by
  induction ls generalizing art with
  | nil => simp [indentLines]
  | cons line ls ih => rw [indentLines_cons, List.length_cons, ih, List.length_cons]

theorem not_mem_lineFeed_indentLine {line : Text} (columns : Nat) (within : '\n' ∉ line) :
    '\n' ∉ indentLine columns line := by
  unfold indentLine
  split
  · exact List.not_mem_nil
  · intro feed
    obtain space | inside := List.mem_append.mp feed
    · exact absurd (List.eq_of_mem_replicate space) (by decide)
    · exact within ((List.dropWhile_suffix isBlank).subset inside)

theorem lines_indent (measure : Text → Nat) (art t : Text) :
    lines (indent measure art t) = indentLines measure (lines art) (lines t) := by
  refine List.splitOn_intercalate '\n' ?_ ?_
  · intro line member
    obtain ⟨i, here⟩ := List.mem_iff_getElem?.mp member
    rw [getElem?_indentLines, Option.map_eq_some_iff] at here
    obtain ⟨source, inside, rfl⟩ := here
    have one := not_mem_lineFeed_of_mem_lines (List.mem_of_getElem? inside)
    exact not_mem_lineFeed_indentLine _ one
  · rw [ne_eq, ← List.length_eq_zero_iff, length_indentLines, List.length_eq_zero_iff]
    exact List.splitOn_ne_nil '\n' t

theorem indentLine_nil (columns : Nat) : indentLine columns [] = [] := by
  simp [indentLine, trimStart]

theorem indentLine_cons {first : Char} (dark : ¬ isBlank first) (columns : Nat) (rest : Text) :
    indentLine columns (first :: rest) = List.replicate columns ' ' ++ first :: rest := by
  have kept : trimStart (first :: rest) = first :: rest := List.dropWhile_cons_of_neg dark
  rw [indentLine, kept, if_neg (List.cons_ne_nil first rest)]

/-- Carriage returns behind prose are far from where the prose starts. -/
theorem leading_append_cons {front : Text} {first : Char} (leads : ∀ c ∈ front, isLeading c)
    (writes : ¬ isLeading first) (rest : Text) : leading (front ++ first :: rest) = front := by
  have dark : ¬ isCarriageReturn first := fun carriage =>
    writes (isLeading_iff.mpr (.inl (isBlank_of_isCarriageReturn carriage)))
  rw [leading, dropTrailing_append_cons dark, List.takeWhile_append_of_pos leads,
    List.takeWhile_cons_of_neg writes, List.append_nil]

/-! ## What a line of art starts with -/

/-- All that a line has before its prose, where the carriage returns at its end do not count. -/
def IsLead (front line : Text) : Prop :=
  ∃ (bare : Text) (n : Nat), line = bare ++ List.replicate n '\r' ∧ bare.getLast? ≠ some '\r' ∧
    front <+: bare ∧ (∀ c ∈ front, isBlank c ∨ isDrawing c) ∧
    ∀ longer, longer <+: bare → (∀ c ∈ longer, isBlank c ∨ isDrawing c) → longer <+: front

theorem isLead_leading (line : Text) : IsLead (leading line) line := by
  have returns : ∀ c ∈ line.rtakeWhile isCarriageReturn, c = '\r' := by
    intro c member
    have carriage : isCarriageReturn c := List.mem_rtakeWhile_imp member
    exact of_decide_eq_true carriage
  refine ⟨dropTrailing isCarriageReturn line, (line.rtakeWhile isCarriageReturn).length,
    ?_, ?_, List.takeWhile_prefix _, ?_, ?_⟩
  · rw [← List.eq_replicate_of_mem returns, dropTrailing_eq_rdropWhile,
      List.rdropWhile_append_rtakeWhile]
  · intro last
    have carriage : isCarriageReturn '\r' := rfl
    exact not_of_mem_getLast?_dropTrailing last carriage
  · exact fun c member => isLeading_iff.mp (List.mem_takeWhile_imp member)
  · rintro longer ⟨back, whole⟩ leads
    rw [leading, ← whole, List.takeWhile_append_of_pos fun c here => isLeading_iff.mpr (leads c here)]
    exact List.prefix_append longer _

/-! ## What the lines start with themselves -/

def SameUnindented (first second : Text) : Prop :=
  ∃ blanks others rest : Text, first = blanks ++ rest ∧ second = others ++ rest ∧
    (∀ c ∈ blanks, isBlank c) ∧ ∀ c ∈ others, isBlank c

theorem trimStart_append {blanks : Text} (blank : ∀ c ∈ blanks, isBlank c) (t : Text) :
    trimStart (blanks ++ t) = trimStart t := List.dropWhile_append_of_pos blank

theorem sameUnindented_iff {first second : Text} :
    SameUnindented first second ↔ trimStart first = trimStart second := by
  constructor
  · rintro ⟨blanks, others, rest, rfl, rfl, blank, also⟩
    rw [trimStart_append blank, trimStart_append also]
  · intro same
    refine ⟨first.takeWhile isBlank, second.takeWhile isBlank, trimStart first, ?_, ?_,
      fun c => List.mem_takeWhile_imp, fun c => List.mem_takeWhile_imp⟩
    · exact List.takeWhile_append_dropWhile.symm
    · rw [same]
      exact List.takeWhile_append_dropWhile.symm

theorem trimStart_indentLine (columns : Nat) (line : Text) :
    trimStart (indentLine columns line) = trimStart line := by
  unfold indentLine
  split
  · next empty => rw [empty, trimStart, List.dropWhile_nil]
  · have spaces : ∀ c ∈ List.replicate columns ' ', isBlank c := by
      intro c member
      obtain rfl := List.eq_of_mem_replicate member
      decide
    rw [trimStart_append spaces]
    exact List.dropWhile_idempotent isBlank line

theorem indentLine_eq_indentLine_iff {columns : Nat} {first second : Text} :
    indentLine columns first = indentLine columns second ↔ SameUnindented first second := by
  rw [sameUnindented_iff]
  constructor
  · intro same
    rw [← trimStart_indentLine columns first, same, trimStart_indentLine]
  · intro same
    rw [indentLine, same, indentLine]

theorem indentLines_eq_indentLines_iff (measure : Text → Nat) (art : List Text)
    {ls others : List Text} : indentLines measure art ls = indentLines measure art others ↔
      List.Forall₂ SameUnindented ls others := by
  induction ls generalizing art others with
  | nil =>
    cases others with
    | nil => exact iff_of_true rfl .nil
    | cons other others =>
      rw [indentLines_cons, indentLines]
      exact iff_of_false (List.cons_ne_nil _ _).symm nofun
  | cons line ls ih =>
    cases others with
    | nil =>
      rw [indentLines_cons, indentLines]
      exact iff_of_false (List.cons_ne_nil _ _) nofun
    | cons other others =>
      rw [indentLines_cons, indentLines_cons, List.cons.injEq, List.forall₂_cons,
        indentLine_eq_indentLine_iff, ih]

theorem indent_eq_indent_iff {measure : Text → Nat} {art t u : Text} :
    indent measure art t = indent measure art u ↔
      List.Forall₂ SameUnindented (lines t) (lines u) := by
  rw [← indentLines_eq_indentLines_iff measure (lines art)]
  constructor
  · intro same
    rw [← lines_indent, same, lines_indent]
  · intro same
    rw [indent, same, indent]

theorem forall₂_sameUnindented_indentLines (measure : Text → Nat) (art ls : List Text) :
    List.Forall₂ SameUnindented (indentLines measure art ls) ls := by
  induction ls generalizing art with
  | nil => rw [indentLines]; exact .nil
  | cons line ls ih =>
    rw [indentLines_cons]
    exact .cons (sameUnindented_iff.mpr (trimStart_indentLine _ line)) (ih art.tail)

/-- Text under art keeps its lines, each without the blanks that it starts with. What is left of one
stands behind as many spaces as the art is wide before its prose in that line, if it has the line.
To put it there again changes nothing, and two texts come out alike exactly if they differ only in
the blanks that their lines start with. -/
theorem indent_exact (measure : Text → Nat) (art t : Text) :
    (lines (indent measure art t)).length = (lines t).length ∧
    (∀ (i : Nat) (line : Text), (lines t)[i]? = some line → ∃ blanks rest placed : Text,
      line = blanks ++ rest ∧ (∀ c ∈ blanks, isBlank c) ∧ (∀ c ∈ rest.head?, ¬ isBlank c) ∧
      (lines (indent measure art t))[i]? = some placed ∧
      (rest = [] → placed = []) ∧
      ((lines art)[i]? = none → placed = rest) ∧
      ∀ source, (lines art)[i]? = some source → rest ≠ [] →
        ∃ front, Checked.leading source = .ok front ∧ IsLead front source ∧
          placed = List.replicate (measure front) ' ' ++ rest) ∧
    indent measure art (indent measure art t) = indent measure art t ∧
    ∀ u, indent measure art t = indent measure art u ↔
      List.Forall₂ SameUnindented (lines t) (lines u) := by
  refine ⟨by rw [lines_indent, length_indentLines], ?_, ?_, fun u => indent_eq_indent_iff⟩
  · intro i line here
    have placed := getElem?_indentLines measure (lines art) (lines t) i
    rw [here, Option.map_some] at placed
    refine ⟨line.takeWhile isBlank, trimStart line, _, ?_, fun c => List.mem_takeWhile_imp, ?_,
      (lines_indent measure art t).symm ▸ placed, ?_, ?_, ?_⟩
    · exact List.takeWhile_append_dropWhile.symm
    · exact fun c first => Bool.eq_false_iff.mp (not_of_mem_head?_dropWhile first)
    · intro empty
      rw [indentLine, if_pos empty]
    · intro beyond
      rw [beyond, indentLine]
      split
      · next empty => exact empty.symm
      · rfl
    · intro source there some
      refine ⟨leading source, Checked.leading_eq source, isLead_leading source, ?_⟩
      rw [there, indentLine, if_neg some]
      rfl
  · rw [indent_eq_indent_iff, lines_indent]
    exact forall₂_sameUnindented_indentLines measure (lines art) (lines t)

end Textmode.Text

namespace Textmode.Ansi

/-- The prose of art, put under the art again, has its lines in the same columns: where the art has
the first character of a line that neither is blank nor draws, there the line starts. -/
theorem prose_keeps_column (art : Text) :
    (Text.lines (prose art)).length = (Text.lines (plainText art)).length ∧
    (Text.lines (indentUnder ColumnWidth.singleByte.measure art (prose art))).length =
      (Text.lines (plainText art)).length ∧
    Text.indentNotices (plainText art) (prose art) = [] ∧
    ∀ (i : Nat) (shown : Text), (Text.lines (plainText art))[i]? = some shown →
      ∃ written placed : Text,
      (Text.lines (prose art))[i]? = some written ∧
      (Text.lines (indentUnder ColumnWidth.singleByte.measure art (prose art)))[i]? = some placed ∧
      (written = [] ↔ ∀ c ∈ shown, Text.isBlank c ∨ Text.isDrawing c) ∧
      (written = [] → placed = []) ∧
      (written ≠ [] → ∃ (front : Text) (first : Char) (rest : Text),
        shown = front ++ first :: rest ∧
        (∀ c ∈ front, Text.isBlank c ∨ Text.isDrawing c) ∧
        ¬ (Text.isBlank first ∨ Text.isDrawing first) ∧
        written.head? = some first ∧
        placed = List.replicate front.length ' ' ++ written ∧
        shown[front.length]? = some first ∧ placed[front.length]? = some first) := by
  have count : (Text.lines (prose art)).length = (Text.lines (plainText art)).length := by
    rw [prose, Text.lines_prose, List.length_map]
  refine ⟨count, ?_, by rw [Text.indentNotices, if_pos count], ?_⟩
  · rw [indentUnder, Text.lines_indent, Text.length_indentLines, count]
  intro i shown here
  refine ⟨Text.proseLine shown,
    Text.indentLine (Text.leading shown).length (Text.proseLine shown), ?_, ?_, ?_, ?_, ?_⟩
  · rw [prose, Text.lines_prose, List.getElem?_map, here, Option.map_some]
  · rw [indentUnder, Text.lines_indent, Text.getElem?_indentLines, prose, Text.lines_prose,
      List.getElem?_map, here]
    rfl
  · simp only [Text.proseLine_eq_nil_iff, Text.isLeading_iff]
  · intro empty
    rw [empty, Text.indentLine_nil]
  · intro some
    -- Art and prose have the first character of prose in common, and it fixes the column.
    obtain drawn | ⟨front, first, rest, rfl, leads, writes⟩ := Text.forall_isLeading_or_exists shown
    · exact absurd (Text.proseLine_of_forall_isLeading drawn) some
    have dark : ¬ Text.isBlank first := fun blank => writes (Text.isLeading_iff.mpr (.inl blank))
    have begins := Text.proseLine_append_cons leads writes rest
    refine ⟨front, first, rest, rfl, fun c member => Text.isLeading_iff.mp (leads c member),
      fun leading => writes (Text.isLeading_iff.mpr leading), ?_, ?_, ?_, ?_⟩
    · rw [begins, List.head?_cons]
    · rw [begins, Text.leading_append_cons leads writes, Text.indentLine_cons dark]
    · simp
    · rw [begins, Text.leading_append_cons leads writes, Text.indentLine_cons dark]
      simp

end Textmode.Ansi
