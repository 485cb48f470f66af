import Mathlib.Data.List.DropRight
import Mathlib.Data.List.Infix
import Textmode.Proofs.Prose

/-! Prose is a normal form, and the lines in it are those that taking the prose does not change.
Nothing that is written in a line is lost on the way, and what stood together still does.
-/

set_option autoImplicit false

namespace Textmode.Text

/-! ## Normal lines -/

/-- Nothing draws, spaces stand alone, and no blank is at either end. -/
structure Normal (line : Text) : Prop where
  undrawn : ∀ c ∈ line, ¬ isDrawing c
  untabbed : '\t' ∉ line
  spaced : ¬ [' ', ' '] <:+: line
  begins : ∀ c ∈ line.head?, ¬ isBlank c
  ends : ∀ c ∈ line.getLast?, ¬ isBlank c

theorem not_isDrawing_undraw (c : Char) : ¬ isDrawing (undraw c) := by
  unfold undraw
  split
  · decide
  · next writes => exact writes

theorem eq_space_of_isGap {c : Char} (gap : isGap c) (other : c ≠ '\t') : c = ' ' := by
  rw [isGap, Bool.or_eq_true, decide_eq_true_iff, decide_eq_true_iff] at gap
  exact gap.resolve_right other

theorem head?_collapse (t : Text) :
    (collapse t).head? = t.head?.map fun c => if isGap c then ' ' else c := by
  fun_induction collapse t with
  | case1 => rfl
  | case2 c t gap next ih =>
    obtain ⟨d, here, also⟩ := (Option.any_eq_true ..).mp next
    rw [ih, here, Option.map_some, if_pos also, List.head?_cons, Option.map_some, if_pos gap]
  | case3 c t gap => rw [List.head?_cons, List.head?_cons, Option.map_some, if_pos gap]
  | case4 c t other => rw [List.head?_cons, List.head?_cons, Option.map_some, if_neg other]

theorem not_spaces_isInfix_collapse (t : Text) : ¬ [' ', ' '] <:+: collapse t := by
  fun_induction collapse t with
  | case1 => simp
  | case2 c t _ _ ih => exact ih
  | case3 c t _ last ih =>
    rw [List.infix_cons_iff, not_or]
    refine ⟨fun pair => ?_, ih⟩
    -- A second space would be the head of what follows, where the run does not go on.
    obtain ⟨-, rest, next⟩ := List.cons_prefix_cons.mp pair
    have head := head?_collapse t
    rw [← next] at head
    obtain ⟨d, here, space⟩ := Option.map_eq_some_iff.mp head.symm
    have other : ¬ isGap d := fun gap => last ((Option.any_eq_true ..).mpr ⟨d, here, gap⟩)
    rw [if_neg other] at space
    subst space
    exact other (by decide)
  | case4 c t other ih =>
    rw [List.infix_cons_iff, not_or]
    refine ⟨fun pair => ?_, ih⟩
    obtain ⟨rfl, -⟩ := List.cons_prefix_cons.mp pair
    exact other (by decide)

theorem collapse_eq_self {t : Text} (untabbed : '\t' ∉ t) (spaced : ¬ [' ', ' '] <:+: t) :
    collapse t = t := by
  induction t with
  | nil => rfl
  | cons c t ih =>
    rw [List.infix_cons_iff, not_or] at spaced
    rw [List.mem_cons, not_or] at untabbed
    rw [collapse, ih untabbed.2 spaced.2]
    by_cases gap : isGap c
    · obtain rfl := eq_space_of_isGap gap (Ne.symm untabbed.1)
      cases t with
      | nil => rfl
      | cons d t =>
        have other : ¬ isGap d := by
          intro also
          obtain rfl := eq_space_of_isGap also fun tab => untabbed.2 (tab ▸ List.mem_cons_self)
          exact spaced.1 (List.prefix_append [' ', ' '] t)
        rw [if_pos gap, List.head?_cons, Option.any_some, if_neg other]
    · rw [if_neg gap]

theorem trim_isInfix (t : Text) : trim t <:+: t :=
  (dropTrailing_isPrefix isBlank _).isInfix.trans (List.dropWhile_suffix isBlank).isInfix

theorem not_isBlank_of_mem_head?_trim {t : Text} {c : Char} (first : c ∈ (trim t).head?) :
    ¬ isBlank c := by
  obtain ⟨rest, same⟩ := List.head?_eq_some_iff.mp first
  have start : trim t <+: t.dropWhile isBlank := dropTrailing_isPrefix isBlank _
  rw [same] at start
  obtain ⟨back, whole⟩ := start
  have begins : c ∈ (t.dropWhile isBlank).head? := by rw [← whole]; rfl
  exact Bool.eq_false_iff.mp (not_of_mem_head?_dropWhile begins)

theorem trim_eq_self {t : Text} (begins : ∀ c ∈ t.head?, ¬ isBlank c)
    (ends : ∀ c ∈ t.getLast?, ¬ isBlank c) : trim t = t := by
  have start : trimStart t = t := by
    cases t with
    | nil => rfl
    | cons c t => exact List.dropWhile_cons_of_neg (begins c rfl)
  rw [trim, start]
  exact dropTrailing_eq_self_iff.mpr ends

theorem normal_proseLine (line : Text) : Normal (proseLine line) := by
  have part : proseLine line <:+: collapse (line.map undraw) := trim_isInfix _
  refine ⟨?_, ?_, ?_, ?_, ?_⟩
  · intro c member
    obtain rfl | ⟨undrawn, -⟩ := mem_collapse (part.subset member)
    · decide
    · obtain ⟨source, -, rfl⟩ := List.mem_map.mp undrawn
      exact not_isDrawing_undraw source
  · intro tab
    obtain space | ⟨-, other⟩ := mem_collapse (part.subset tab)
    · exact absurd space (by decide)
    · exact other (by decide)
  · exact fun pair => not_spaces_isInfix_collapse _ (pair.trans part)
  · exact fun c => not_isBlank_of_mem_head?_trim
  · exact fun c => not_of_mem_getLast?_dropTrailing

theorem Normal.proseLine_eq_self {line : Text} (normal : Normal line) : proseLine line = line := by
  have undrawn : line.map undraw = line := by
    conv_rhs => rw [← List.map_id line]
    exact List.map_congr_left fun c member => undraw_of_not_isDrawing (normal.undrawn c member)
  rw [proseLine, undrawn, collapse_eq_self normal.untabbed normal.spaced,
    trim_eq_self normal.begins normal.ends]

theorem prose_eq_self_iff {t : Text} : prose t = t ↔ ∀ line ∈ lines t, Normal line := by
  constructor
  · intro same line member
    rw [← same, lines_prose] at member
    obtain ⟨source, -, rfl⟩ := List.mem_map.mp member
    exact normal_proseLine source
  · intro normal
    have same : (lines t).map proseLine = lines t := by
      conv_rhs => rw [← List.map_id (lines t)]
      exact List.map_congr_left fun line member => (normal line member).proseLine_eq_self
    rw [prose, same]
    exact List.intercalate_splitOn '\n'

/-! ## What is written -/

def isProse (c : Char) : Bool := !isBlank c && !isDrawing c

theorem isProse_iff {c : Char} : isProse c ↔ ¬ isLeading c := by
  rw [isProse, isLeading, ← Bool.not_or, Bool.not_eq_true, Bool.not_eq_true']

/-- Characters `n` and `n + 1` of the prose of a line stand next to each other. -/
def Joined (line : Text) (n : Nat) : Prop :=
  ∃ (front : Text) (first second : Char) (back : Text),
    line = front ++ first :: second :: back ∧ isProse first ∧ isProse second ∧
      front.countP isProse = n

theorem joined_cons_iff {c : Char} {t : Text} {n : Nat} : Joined (c :: t) n ↔
    (n = 0 ∧ isProse c ∧ t.head?.any isProse) ∨
      ∃ m, n = m + (if isProse c then 1 else 0) ∧ Joined t m := by
  constructor
  · rintro ⟨front, first, second, back, whole, writes, next, count⟩
    cases front with
    | nil =>
      cases whole
      exact .inl ⟨count.symm, writes, next⟩
    | cons d front =>
      cases whole
      rw [List.countP_cons] at count
      exact .inr ⟨_, count.symm, front, first, second, back, rfl, writes, next, rfl⟩
  · rintro (⟨rfl, writes, next⟩ | ⟨m, rfl, front, first, second, back, rfl, writes, next, count⟩)
    · cases t with
      | nil => cases next
      | cons d t => exact ⟨[], c, d, t, rfl, writes, next, rfl⟩
    · refine ⟨c :: front, first, second, back, rfl, writes, next, ?_⟩
      rw [List.countP_cons, count]

theorem joined_cons_of_not {c : Char} {t : Text} {n : Nat} (other : ¬ isProse c) :
    Joined (c :: t) n ↔ Joined t n := by
  rw [joined_cons_iff, if_neg other]
  simp [other]

theorem joined_cons_congr {c : Char} {t u : Text}
    (next : t.head?.any isProse = u.head?.any isProse) (rest : ∀ n, Joined t n ↔ Joined u n)
    (n : Nat) : Joined (c :: t) n ↔ Joined (c :: u) n := by
  simp only [joined_cons_iff, next, rest]

theorem joined_append_of_forall_not {front : Text} (others : ∀ c ∈ front, ¬ isProse c) (t : Text)
    (n : Nat) : Joined (front ++ t) n ↔ Joined t n := by
  induction front with
  | nil => rfl
  | cons c front ih =>
    rw [List.cons_append, joined_cons_of_not (others c List.mem_cons_self)]
    exact ih fun d member => others d (List.mem_cons_of_mem c member)

theorem joined_append_right {back : Text} (others : ∀ c ∈ back, ¬ isProse c) (t : Text)
    (n : Nat) : Joined (t ++ back) n ↔ Joined t n := by
  induction t generalizing n with
  | nil =>
    have alone := joined_append_of_forall_not others [] n
    rwa [List.append_nil] at alone
  | cons c t ih =>
    refine joined_cons_congr ?_ ih n
    cases t with
    | cons d t => rfl
    | nil =>
      cases back with
      | nil => rfl
      | cons d back => exact Bool.not_eq_true _ ▸ others d List.mem_cons_self

theorem not_isProse_undraw {c : Char} (other : ¬ isProse c) : ¬ isProse (undraw c) := by
  rw [isProse_iff, not_not] at other ⊢
  rw [isLeading_iff, isBlank_undraw]
  exact .inl other

theorem undraw_of_isProse {c : Char} (prose : isProse c) : undraw c = c :=
  undraw_of_not_isLeading (isProse_iff.mp prose)

theorem not_isGap_of_isProse {c : Char} (prose : isProse c) : ¬ isGap c := fun gap =>
  isProse_iff.mp prose (isLeading_iff.mpr (.inl (isBlank_of_isGap gap)))

theorem any_isProse_head?_collapse_undraw (t : Text) :
    (collapse (t.map undraw)).head?.any isProse = t.head?.any isProse := by
  cases t with
  | nil => rfl
  | cons c t =>
    rw [head?_collapse, List.map_cons, List.head?_cons, Option.map_some, Option.any_some,
      List.head?_cons, Option.any_some, Bool.eq_iff_iff]
    by_cases prose : isProse c
    · rw [undraw_of_isProse prose, if_neg (not_isGap_of_isProse prose)]
    · refine iff_of_false ?_ prose
      split
      · decide
      · exact not_isProse_undraw prose

theorem joined_collapse_undraw (t : Text) (n : Nat) :
    Joined (collapse (t.map undraw)) n ↔ Joined t n := by
  induction t generalizing n with
  | nil => rfl
  | cons c t ih =>
    rw [List.map_cons, collapse]
    by_cases prose : isProse c
    · rw [undraw_of_isProse prose, if_neg (not_isGap_of_isProse prose)]
      exact joined_cons_congr (any_isProse_head?_collapse_undraw t) ih n
    · rw [joined_cons_of_not prose, ← ih]
      split
      · split
        · rfl
        · exact joined_cons_of_not (by decide)
      · exact joined_cons_of_not (not_isProse_undraw prose)

/-! ## Between the first and the last character of prose -/

/-- The part of a line from its first character of prose to its last one. -/
def IsCore (core line : Text) : Prop :=
  ∃ before after : Text, line = before ++ core ++ after ∧
    (∀ c ∈ before, ¬ isProse c) ∧ (∀ c ∈ after, ¬ isProse c) ∧
    (∀ c ∈ core.head?, isProse c) ∧ (∀ c ∈ core.getLast?, isProse c)

theorem exists_isCore (line : Text) : ∃ core, IsCore core line := by
  obtain drawn | ⟨front, first, rest, rfl, leads, writes⟩ := forall_isLeading_or_exists line
  · refine ⟨[], line, [], by simp, ?_, by simp, by simp, by simp⟩
    exact fun c member prose => isProse_iff.mp prose (drawn c member)
  · have kept : dropTrailing isLeading (first :: rest) = first :: dropTrailing isLeading rest :=
      dropTrailing_append_cons writes [] rest
    refine ⟨first :: dropTrailing isLeading rest, front, rest.rtakeWhile isLeading,
      ?_, ?_, ?_, ?_, ?_⟩
    · rw [List.append_assoc, List.cons_append, dropTrailing_eq_rdropWhile,
        List.rdropWhile_append_rtakeWhile]
    · exact fun c member prose => isProse_iff.mp prose (leads c member)
    · exact fun c member prose => isProse_iff.mp prose (List.mem_rtakeWhile_imp member)
    · intro c head
      obtain rfl := Option.some.inj head
      exact isProse_iff.mpr writes
    · rw [← kept]
      exact fun c last => isProse_iff.mpr (not_of_mem_getLast?_dropTrailing last)

theorem IsCore.proseLine_eq {core line : Text} (inside : IsCore core line) :
    proseLine line = collapse (core.map undraw) := by
  obtain ⟨before, after, rfl, leads, follows, begins, ends⟩ := inside
  simp only [isProse_iff, not_not] at leads follows begins ends
  have blank : dropTrailing isBlank (collapse (after.map undraw)) = [] :=
    dropTrailing_append_of_all [] fun c => isBlank_of_mem_collapse_undraw follows
  -- A core begins and ends with characters that stay, and all outside it becomes blank.
  cases core with
  | nil =>
    refine proseLine_of_forall_isLeading fun c member => ?_
    rw [List.append_nil] at member
    exact (List.mem_append.mp member).elim (leads c) (follows c)
  | cons first rest =>
    have writes := begins first rfl
    have front : collapse ((first :: rest).map undraw) = first :: collapse (rest.map undraw) :=
      collapse_undraw_append_cons writes [] rest
    rw [List.append_assoc, List.cons_append, proseLine_append_cons leads writes, front,
      List.cons_inj_right]
    obtain rfl | ⟨init, last, rfl⟩ := List.eq_nil_or_concat' rest
    · exact blank
    · have final : (first :: init ++ [last]).getLast? = some last := List.getLast?_concat
      have stays : ¬ isLeading last := ends last final
      have dark : ¬ isBlank last := fun blank => stays (isLeading_iff.mpr (.inl blank))
      rw [List.append_assoc, List.singleton_append, collapse_undraw_append_cons stays,
        collapse_undraw_append_cons stays, trimEnd, dropTrailing_append_cons dark, blank]
      rfl

theorem IsCore.filter_isProse_eq {core line : Text} (inside : IsCore core line) :
    line.filter isProse = core.filter isProse := by
  obtain ⟨before, after, rfl, leads, follows, -, -⟩ := inside
  rw [List.filter_append, List.filter_append, List.filter_eq_nil_iff.mpr leads,
    List.filter_eq_nil_iff.mpr follows, List.nil_append, List.append_nil]

theorem IsCore.joined_iff {core line : Text} (inside : IsCore core line) (n : Nat) :
    Joined line n ↔ Joined core n := by
  obtain ⟨before, after, rfl, leads, follows, -, -⟩ := inside
  rw [joined_append_right follows, joined_append_of_forall_not leads]

/-- Whether a character stays as it is between characters of prose: it does not draw and is no
space or tab. -/
def isKept (c : Char) : Bool := !isDrawing c && !isGap c

theorem isKept_iff {c : Char} : isKept c ↔ ¬ isDrawing c ∧ ¬ isGap c := by
  simp [isKept]

theorem filter_isKept_collapse_undraw (t : Text) :
    (collapse (t.map undraw)).filter isKept = t.filter isKept := by
  induction t with
  | nil => rfl
  | cons c t ih =>
    rw [List.map_cons, collapse]
    by_cases kept : isKept c
    · obtain ⟨writes, other⟩ := isKept_iff.mp kept
      rw [undraw_of_not_isDrawing writes, if_neg other, List.filter_cons_of_pos kept,
        List.filter_cons_of_pos kept, ih]
    · have gap : isGap (undraw c) := by
        unfold undraw
        split
        · decide
        · next writes => exact not_not.mp fun other => kept (isKept_iff.mpr ⟨writes, other⟩)
      rw [if_pos gap, List.filter_cons_of_neg kept]
      split
      · exact ih
      · rw [List.filter_cons_of_neg (by decide), ih]

theorem isKept_of_isProse {c : Char} (prose : isProse c) : isKept c :=
  isKept_iff.mpr ⟨fun draws => isProse_iff.mp prose (isLeading_iff.mpr (.inr draws)),
    not_isGap_of_isProse prose⟩

theorem filter_isProse_filter_isKept (t : Text) :
    (t.filter isKept).filter isProse = t.filter isProse := by
  rw [List.filter_filter]
  refine List.filter_congr fun c _ => ?_
  cases prose : isProse c with
  | true => rw [isKept_of_isProse prose]; rfl
  | false => rfl

/-! ## All lines -/

/-- Prose has as many lines as the text. Each one is normal, has the characters of prose of the line
in the text, joined where they were joined there, and between them all blanks that neither draw nor
are spaces or tabs. A text with normal lines is its own prose, so prose of prose is the same. -/
theorem prose_normal (t : Text) :
    (lines (prose t)).length = (lines t).length ∧
    (∀ (i : Nat) (shown : Text), (lines t)[i]? = some shown →
      ∃ written : Text, (lines (prose t))[i]? = some written ∧ Normal written ∧
        written.filter isProse = shown.filter isProse ∧
        (∀ n, Joined written n ↔ Joined shown n) ∧
        ∃ core, IsCore core shown ∧ written.filter isKept = core.filter isKept) ∧
    (prose t = t ↔ ∀ line ∈ lines t, Normal line) ∧
    prose (prose t) = prose t := by
  refine ⟨by rw [lines_prose, List.length_map], ?_, prose_eq_self_iff, ?_⟩
  · intro i shown here
    obtain ⟨core, inside⟩ := exists_isCore shown
    have kept : (proseLine shown).filter isKept = core.filter isKept := by
      rw [inside.proseLine_eq, filter_isKept_collapse_undraw]
    refine ⟨proseLine shown, ?_, normal_proseLine shown, ?_, ?_, core, inside, kept⟩
    · rw [lines_prose, List.getElem?_map, here, Option.map_some]
    · rw [inside.filter_isProse_eq, ← filter_isProse_filter_isKept, kept,
        filter_isProse_filter_isKept]
    · intro n
      rw [inside.proseLine_eq, joined_collapse_undraw, inside.joined_iff]
  · refine prose_eq_self_iff.mpr fun line member => ?_
    rw [lines_prose] at member
    obtain ⟨source, -, rfl⟩ := List.mem_map.mp member
    exact normal_proseLine source

example : prose "│a\u3000\u00A0b \t─ c\r\n──".toList = "a \u00A0b c\n".toList := by decide

end Textmode.Text
