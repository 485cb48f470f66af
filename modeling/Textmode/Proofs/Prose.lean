import Textmode.Proofs.Bytes
import Textmode.Proofs.Lines
import Textmode.Text.Indent

/-! Where the prose of a line starts. Blanks and what draws stand in front of it, and nothing of
them is left in the prose itself, so the first character after them is the one that the prose
begins with.
-/

set_option autoImplicit false

namespace Textmode.Text

theorem isLeading_iff {c : Char} : isLeading c ↔ isBlank c ∨ isDrawing c := by
  rw [isLeading, Bool.or_eq_true]

theorem isBlank_undraw (c : Char) : isBlank (undraw c) = isLeading c := by
  unfold undraw isLeading
  split
  · next draws => rw [draws, Bool.or_true]; decide
  · next writes => rw [Bool.not_eq_true] at writes; rw [writes, Bool.or_false]

theorem undraw_of_not_isDrawing {c : Char} (writes : ¬ isDrawing c) : undraw c = c := if_neg writes

theorem undraw_of_not_isLeading {c : Char} (writes : ¬ isLeading c) : undraw c = c :=
  undraw_of_not_isDrawing fun draws => writes (isLeading_iff.mpr (.inr draws))

theorem isBlank_of_isGap {c : Char} (gap : isGap c) : isBlank c := by
  rw [isGap, Bool.or_eq_true, decide_eq_true_iff, decide_eq_true_iff] at gap
  obtain rfl | rfl := gap <;> decide

theorem isBlank_of_isCarriageReturn {c : Char} (carriage : isCarriageReturn c) : isBlank c := by
  obtain rfl := of_decide_eq_true carriage
  decide

/-! ## Runs of spaces -/

/-- What a text is collapsed to has no characters that it did not have, but for spaces, and of
spaces and tabs only spaces. -/
theorem mem_collapse {t : Text} {c : Char} (member : c ∈ collapse t) :
    c = ' ' ∨ c ∈ t ∧ ¬ isGap c := by
  fun_induction collapse t with
  | case1 => cases member
  | case2 d t _ _ ih => exact (ih member).imp_right (.imp_left (List.mem_cons_of_mem d))
  | case3 d t _ _ ih =>
    obtain here | later := List.mem_cons.mp member
    · exact .inl here
    · exact (ih later).imp_right (.imp_left (List.mem_cons_of_mem d))
  | case4 d t other ih =>
    obtain here | later := List.mem_cons.mp member
    · exact .inr ⟨here ▸ List.mem_cons_self, here ▸ other⟩
    · exact (ih later).imp_right (.imp_left (List.mem_cons_of_mem d))

theorem collapse_append_cons {c : Char} (other : ¬ isGap c) (t rest : Text) :
    collapse (t ++ c :: rest) = collapse t ++ c :: collapse rest := by
  induction t with
  | nil => rw [List.nil_append, collapse.eq_2, if_neg other, collapse.eq_1, List.nil_append]
  | cons d t ih =>
    rw [List.cons_append, collapse, collapse, ih]
    by_cases gap : isGap d
    · rw [if_pos gap, if_pos gap]
      cases t with
      | nil => simp [other, collapse]
      | cons e t =>
        rw [List.cons_append, List.head?_cons, List.head?_cons, Option.any_some]
        split <;> rfl
    · rw [if_neg gap, if_neg gap, List.cons_append]

/-! ## Lines -/

theorem not_mem_lineFeed_proseLine {line : Text} (within : '\n' ∉ line) :
    '\n' ∉ proseLine line := by
  intro feed
  have collapsed := (List.dropWhile_suffix isBlank).subset
    ((dropTrailing_isPrefix isBlank _).subset feed)
  obtain space | ⟨undrawn, -⟩ := mem_collapse collapsed
  · exact absurd space (by decide)
  · obtain ⟨c, member, drawn⟩ := List.mem_map.mp undrawn
    unfold undraw at drawn
    split at drawn
    · exact absurd drawn (by decide)
    · exact within (drawn ▸ member)

theorem lines_prose (t : Text) : lines (prose t) = (lines t).map proseLine := by
  refine List.splitOn_intercalate '\n' ?_ (by simp [lines, List.splitOn_ne_nil])
  intro line member
  obtain ⟨source, here, rfl⟩ := List.mem_map.mp member
  exact not_mem_lineFeed_proseLine (not_mem_lineFeed_of_mem_lines here)

/-- What draws is blank once it is undrawn, and spaces for a run of it still are. -/
theorem isBlank_of_mem_collapse_undraw {t : Text} (leads : ∀ c ∈ t, isLeading c) {c : Char}
    (member : c ∈ collapse (t.map undraw)) : isBlank c := by
  obtain rfl | ⟨undrawn, -⟩ := mem_collapse member
  · decide
  · obtain ⟨source, here, rfl⟩ := List.mem_map.mp undrawn
    exact (isBlank_undraw source).trans (leads source here)

theorem collapse_undraw_append_cons {c : Char} (writes : ¬ isLeading c) (t rest : Text) :
    collapse ((t ++ c :: rest).map undraw) =
      collapse (t.map undraw) ++ c :: collapse (rest.map undraw) := by
  have other : ¬ isGap c := fun gap => writes (isLeading_iff.mpr (.inl (isBlank_of_isGap gap)))
  rw [List.map_append, List.map_cons, undraw_of_not_isLeading writes, collapse_append_cons other]

theorem proseLine_of_forall_isLeading {line : Text} (drawn : ∀ c ∈ line, isLeading c) :
    proseLine line = [] := by
  rw [proseLine, trim, trimStart, List.dropWhile_eq_nil_iff.mpr]
  · rfl
  · exact fun c => isBlank_of_mem_collapse_undraw drawn

theorem proseLine_append_cons {front : Text} {first : Char} (leads : ∀ c ∈ front, isLeading c)
    (writes : ¬ isLeading first) (rest : Text) :
    proseLine (front ++ first :: rest) =
      first :: trimEnd (collapse (rest.map undraw)) := by
  have dark : ¬ isBlank first := fun blank => writes (isLeading_iff.mpr (.inl blank))
  rw [proseLine, collapse_undraw_append_cons writes, trim, trimStart,
    List.dropWhile_append_of_pos fun c => isBlank_of_mem_collapse_undraw leads,
    List.dropWhile_cons_of_neg dark]
  exact dropTrailing_append_cons dark [] _

theorem forall_isLeading_or_exists (line : Text) :
    (∀ c ∈ line, isLeading c) ∨ ∃ front first rest, line = front ++ first :: rest ∧
      (∀ c ∈ front, isLeading c) ∧ ¬ isLeading first := by
  cases past : line.dropWhile isLeading with
  | nil => exact .inl (List.dropWhile_eq_nil_iff.mp past)
  | cons first rest =>
    refine .inr ⟨line.takeWhile isLeading, first, rest, ?_, fun c => List.mem_takeWhile_imp, ?_⟩
    · rw [← past, List.takeWhile_append_dropWhile]
    · have begins : first ∈ (line.dropWhile isLeading).head? := by rw [past]; rfl
      exact Bool.eq_false_iff.mp (not_of_mem_head?_dropWhile begins)

theorem proseLine_eq_nil_iff {line : Text} : proseLine line = [] ↔ ∀ c ∈ line, isLeading c := by
  refine ⟨fun empty => ?_, proseLine_of_forall_isLeading⟩
  obtain drawn | ⟨front, first, rest, rfl, leads, writes⟩ := forall_isLeading_or_exists line
  · exact drawn
  · rw [proseLine_append_cons leads writes] at empty
    exact absurd empty (List.cons_ne_nil first _)

end Textmode.Text
