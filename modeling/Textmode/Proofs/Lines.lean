import Textmode.Proofs.Utf8

/-! Lines put together and taken apart. A text made of others has all of their lines, and between
them nothing but line feeds. -/

set_option autoImplicit false

namespace Textmode.Text

theorem unlines_cons_cons (line next : Text) (ls : List Text) :
    unlines (line :: next :: ls) = line ++ '\n' :: unlines (next :: ls) := by
  rw [unlines, List.intercalate_cons_cons, List.append_assoc, List.singleton_append, unlines]

theorem unlines_concat {ls : List Text} (nonempty : ls ≠ []) (line : Text) :
    unlines (ls ++ [line]) = unlines ls ++ '\n' :: line := by
  induction ls with
  | nil => exact absurd rfl nonempty
  | cons first ls ih =>
    cases ls with
    | nil => simp [unlines]
    | cons next ls =>
      rw [unlines_cons_cons, List.cons_append, List.cons_append, unlines_cons_cons,
        ← List.cons_append, ih (List.cons_ne_nil next ls), List.append_assoc, List.cons_append]

theorem not_mem_lineFeed_of_mem_lines {t line : Text} (member : line ∈ lines t) :
    '\n' ∉ line := by
  induction t generalizing line with
  | nil =>
    obtain rfl := List.mem_singleton.mp member
    exact List.not_mem_nil
  | cons c t ih =>
    rw [lines, List.splitOn_cons_eq_if_modifyHead] at member
    split at member
    · obtain rfl | later := List.mem_cons.mp member
      · exact List.not_mem_nil
      · exact ih later
    · next other =>
      -- The character goes in front of the first line of the others.
      obtain ⟨first, later, cut⟩ := List.exists_cons_of_ne_nil (List.splitOn_ne_nil '\n' t)
      rw [cut, List.modifyHead_cons] at member
      rw [lines, cut] at ih
      obtain rfl | past := List.mem_cons.mp member
      · intro feed
        obtain here | inside := List.mem_cons.mp feed
        · exact other (beq_iff_eq.mpr here.symm)
        · exact ih List.mem_cons_self inside
      · exact ih (List.mem_cons_of_mem first past)

theorem lines_unlines {texts : List Text} (nonempty : texts ≠ []) :
    lines (unlines texts) = texts.flatMap lines := by
  induction texts with
  | nil => exact absurd rfl nonempty
  | cons t texts ih =>
    cases texts with
    | nil => simp [unlines]
    | cons next texts =>
      rw [unlines_cons_cons, lines, List.splitOn_append_cons_self, ← lines, ← lines,
        ih (List.cons_ne_nil next texts), List.flatMap_cons (x := t)]

theorem unlines_flatMap_lines (texts : List Text) :
    unlines (texts.flatMap lines) = unlines texts := by
  cases texts with
  | nil => rfl
  | cons t texts =>
    rw [← lines_unlines (List.cons_ne_nil t texts)]
    exact List.intercalate_splitOn '\n'

theorem flatMap_lines_eq_nil_iff {texts : List Text} : texts.flatMap lines = [] ↔ texts = [] := by
  cases texts with
  | nil => rfl
  | cons t texts => simp [lines, List.splitOn_ne_nil]

theorem unlines_inj {first second : List Text} (left : ∀ line ∈ first, '\n' ∉ line)
    (right : ∀ line ∈ second, '\n' ∉ line) (some : first ≠ []) (other : second ≠ []) :
    unlines first = unlines second ↔ first = second := by
  constructor
  · intro same
    rw [← List.splitOn_intercalate '\n' left some, ← List.splitOn_intercalate '\n' right other]
    exact congrArg (List.splitOn '\n') same
  · rintro rfl
    rfl

theorem filter_unlines {ls : List Text} (apart : ∀ line ∈ ls, '\n' ∉ line) :
    (unlines ls).filter (· ≠ '\n') = ls.flatten := by
  have kept {line : Text} (absent : '\n' ∉ line) : line.filter (· ≠ '\n') = line := by
    rw [List.filter_eq_self]
    intro c member
    exact decide_eq_true fun feed => absent (feed ▸ member)
  induction ls with
  | nil => rfl
  | cons line ls ih =>
    have first := kept (apart line List.mem_cons_self)
    have rest := ih fun other member => apart other (List.mem_cons_of_mem line member)
    cases ls with
    | nil => rw [unlines, List.intercalate_singleton, first, List.flatten_singleton]
    | cons next ls =>
      rw [unlines_cons_cons, List.filter_append, first, List.filter_cons_of_neg (by simp), rest,
        List.flatten_cons (l := line)]

theorem size_le_size_unlines {ls : List Text} {line : Text} (member : line ∈ ls) :
    Utf8.size line ≤ Utf8.size (unlines ls) := by
  induction ls with
  | nil => cases member
  | cons first ls ih =>
    cases ls with
    | nil =>
      obtain rfl := List.mem_singleton.mp member
      simp [unlines]
    | cons next ls =>
      rw [unlines_cons_cons, Utf8.size_append, Utf8.size]
      obtain rfl | later := List.mem_cons.mp member
      · omega
      · have := ih later
        omega

theorem size_le_of_mem_lines {t line : Text} (member : line ∈ lines t) :
    Utf8.size line ≤ Utf8.size t := by
  have whole : unlines (lines t) = t := List.intercalate_splitOn '\n'
  rw [← whole]
  exact size_le_size_unlines member

theorem size_le_of_mem_flatMap_lines {texts : List Text} {width : Nat}
    (fits : ∀ t ∈ texts, Utf8.size t ≤ width) {line : Text} (member : line ∈ texts.flatMap lines) :
    Utf8.size line ≤ width := by
  obtain ⟨whole, here, part⟩ := List.mem_flatMap.mp member
  exact Nat.le_trans (size_le_of_mem_lines part) (fits whole here)

end Textmode.Text
