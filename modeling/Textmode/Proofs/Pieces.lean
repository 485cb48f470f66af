import Textmode.Proofs.Checked.Text
import Textmode.Proofs.Chunks

/-! A text in pieces that octets are counted for. The loop that takes them off its front always
comes to an end, nothing is lost between them, and each is as long as it can be. So is what a field
keeps of a text.
-/

set_option autoImplicit false

namespace Textmode

open Checked (isBoundary)

theorem Checked.isBoundary_of_isPrefix {front t : Text} (start : front <+: t) :
    isBoundary (Utf8.encode front).length t := by
  rw [Utf8.length_encode]
  exact isBoundary_iff.mpr ⟨front, start, rfl⟩

namespace Text

variable {width : Nat} {t piece : Text}

theorem longestWithin_iff {start : Text} : LongestWithin width t start ↔
    start <+: t ∧ (Utf8.encode start).length ≤ width ∧
      ∀ c rest, t = start ++ c :: rest → width < (Utf8.encode (start ++ [c])).length := by
  constructor
  · intro longest
    refine ⟨longest.isPrefix, longest.fits, ?_⟩
    rintro c rest rfl
    by_contra! fits
    have longer : start ++ [c] <+: start ++ c :: rest :=
      (List.prefix_append_right_inj start).mpr (List.prefix_append [c] rest)
    have shorter := (longest.longest _ longer fits).length_le
    rw [List.length_append, List.length_singleton] at shorter
    omega
  · rintro ⟨front, fits, wide⟩
    refine ⟨front, fits, ?_⟩
    intro other front' fits'
    rcases List.prefix_or_prefix_of_prefix front' front with before | ⟨more, rfl⟩
    · exact before
    cases more with
    | nil => simp
    | cons c more =>
      -- A longer one would begin with one more character, which already does not fit.
      obtain ⟨rest, rfl⟩ := front'
      have := wide c (more ++ rest) (by simp)
      simp only [Utf8.length_encode, Utf8.size_append, Utf8.size] at this fits'
      omega

/-- No place to cut a text at lies between the end of its longest start and the width. -/
theorem LongestWithin.le_of_isBoundary {start : Text} (longest : LongestWithin width t start)
    {place : Nat} (inside : place ≤ width) (here : isBoundary place t) :
    place ≤ (Utf8.encode start).length := by
  obtain ⟨other, front, rfl⟩ := Checked.isBoundary_iff.mp here
  rw [Utf8.length_encode]
  exact size_le_of_isPrefix (longest.longest other front (Utf8.length_encode other ▸ inside))

theorem Chunked.head {chunk : Text} {chunks : List Text}
    (cut : Chunked width t (chunk :: chunks)) : chunk ≠ [] ∧ LongestWithin width t chunk := by
  cases cut with
  | cons some longest _ => exact ⟨some, longest⟩

theorem Chunked.of_append {front back : List Text} (cut : Chunked width t (front ++ back)) :
    Chunked width back.flatten back := by
  induction front generalizing t with
  | nil =>
    rw [List.nil_append] at cut
    exact cut.flatten.symm ▸ cut
  | cons chunk front ih =>
    cases cut with
    | cons _ _ rest => exact ih rest

theorem Chunked.overflows {front back : List Text} {c : Char} {rest : Text}
    (cut : Chunked width t (front ++ piece :: back))
    (same : t = front.flatten ++ piece ++ c :: rest) :
    width < (Utf8.encode (piece ++ [c])).length := by
  have behind : (piece :: back).flatten = piece ++ c :: rest := by
    have whole := cut.flatten
    rw [same, List.flatten_append, List.append_assoc] at whole
    exact List.append_cancel_left whole
  exact (longestWithin_iff.mp cut.of_append.head.2).2.2 c rest behind

/-- A text in pieces from its front on, each as long as `width` octets allow. -/
structure Greedy (width : Nat) (t : Text) (pieces : List Text) : Prop where
  flatten : pieces.flatten = t
  ne_nil : ∀ piece ∈ pieces, piece ≠ []
  fits : ∀ piece ∈ pieces, (Utf8.encode piece).length ≤ width
  isBoundary : ∀ front back, pieces = front ++ back →
    isBoundary (Utf8.encode front.flatten).length t
  overflows : ∀ front piece back c rest, pieces = front ++ piece :: back →
    t = front.flatten ++ piece ++ c :: rest → width < (Utf8.encode (piece ++ [c])).length
  long : ∀ front piece back, pieces = front ++ piece :: back → back ≠ [] →
    width < (Utf8.encode piece).length + 4

theorem Chunked.greedy {chunks : List Text} (cut : Chunked width t chunks) :
    Greedy width t chunks where
  flatten := cut.flatten
  ne_nil piece member := by
    obtain ⟨front, back, rfl⟩ := List.append_of_mem member
    exact cut.of_append.head.1
  fits piece member := by
    obtain ⟨front, back, rfl⟩ := List.append_of_mem member
    exact cut.of_append.head.2.fits
  isBoundary front back whole := by
    rw [← cut.flatten, whole, List.flatten_append]
    exact Checked.isBoundary_of_isPrefix (List.prefix_append _ _)
  overflows front piece back c rest whole same := by
    rw [whole] at cut
    exact cut.overflows same
  long front piece back whole more := by
    subst whole
    obtain ⟨other, back, rfl⟩ := List.exists_cons_of_ne_nil more
    have later : Chunked width t ((front ++ [piece]) ++ other :: back) := by simpa using cut
    -- The piece behind has a first character, which takes at most four octets.
    obtain ⟨c, rest, rfl⟩ := List.exists_cons_of_ne_nil later.of_append.head.1
    have whole : t = front.flatten ++ piece ++ c :: (rest ++ back.flatten) :=
      cut.flatten.symm.trans (by simp)
    have wide := cut.overflows whole
    rw [Utf8.encode_append, List.length_append, Utf8.encode_singleton,
      String.length_utf8EncodeChar] at wide
    have := c.utf8Size_le_four
    omega

theorem Greedy.tail {pieces : List Text} (greedy : Greedy width t (piece :: pieces)) :
    Greedy width pieces.flatten pieces where
  flatten := rfl
  ne_nil other member := greedy.ne_nil other (List.mem_cons_of_mem piece member)
  fits other member := greedy.fits other (List.mem_cons_of_mem piece member)
  isBoundary front back whole := by
    rw [whole, List.flatten_append]
    exact Checked.isBoundary_of_isPrefix (List.prefix_append _ _)
  overflows front other back c rest whole same := by
    apply greedy.overflows (piece :: front) other back c rest
    · rw [whole, List.cons_append]
    · rw [← greedy.flatten, List.flatten_cons, same, List.flatten_cons]
      simp only [List.append_assoc]
  long front other back whole more := by
    apply greedy.long (piece :: front) other back _ more
    rw [whole, List.cons_append]

theorem Greedy.chunked {pieces : List Text} (greedy : Greedy width t pieces) :
    Chunked width t pieces := by
  induction pieces generalizing t with
  | nil => exact greedy.flatten ▸ .nil
  | cons piece pieces ih =>
    have whole : piece ++ pieces.flatten = t := greedy.flatten
    refine .cons (greedy.ne_nil piece List.mem_cons_self) ?_ ?_
    · refine longestWithin_iff.mpr
        ⟨⟨_, whole⟩, greedy.fits piece List.mem_cons_self, fun c rest => ?_⟩
      exact greedy.overflows [] piece pieces c rest rfl
    · rw [← whole, List.drop_left]
      exact ih greedy.tail

theorem greedy_iff (room : 4 ≤ width) {pieces : List Text} :
    Greedy width t pieces ↔ pieces = Text.pieces width t :=
  ⟨fun greedy => (chunked_iff room).mp greedy.chunked,
    fun same => ((chunked_iff room).mpr same).greedy⟩

end Text

open Text (Greedy LongestWithin)

/-- Each round of the loop takes a piece off the front of what is left. -/
theorem Checked.exists_nextPiece (width : Nat) {t : Text} (more : t ≠ []) :
    ∃ piece rest, nextPiece width t = .ok (piece, rest) ∧ piece ≠ [] ∧ piece ++ rest = t := by
  obtain ⟨c, t, rfl⟩ := List.exists_cons_of_ne_nil more
  refine ⟨_, _, nextPiece_cons width c t, List.cons_ne_nil _ _, ?_⟩
  have start := Text.fit_isPrefix (width - c.utf8Size) t
  rw [List.cons_append, List.prefix_iff_eq_append.mp start]

/-- The loop comes to an end for every text, as each of its rounds takes something off it. Where a
piece has room for any character, its pieces are those that make up the text, each ends between
characters, and none but the last has room for one more. A field of any width holds the longest
start of a text that it has room for, and its filling. -/
theorem cuts_greedily (t : Text) :
    (∀ width rest, rest ≠ [] → ∃ piece behind,
      Checked.nextPiece width rest = .ok (piece, behind) ∧ piece ≠ [] ∧ piece ++ behind = rest) ∧
    (∀ width, 4 ≤ width → ∃ pieces, Checked.pieces width t = .ok pieces ∧
      Text.pieces width t = pieces ∧ ∀ other, Greedy width t other ↔ other = pieces) ∧
    ∀ fill width, ∃ start, LongestWithin width t start ∧
      isBoundary (Utf8.encode start).length t ∧
      (∀ place ≤ width, isBoundary place t → place ≤ (Utf8.encode start).length) ∧
      Checked.field fill width t = .ok (Text.padded fill width start) ∧
      Text.field fill width t = Text.padded fill width start ∧
      (Text.padded fill width start).length = width := by
  refine ⟨fun width rest => Checked.exists_nextPiece width, ?_, ?_⟩
  · intro width room
    exact ⟨_, Checked.pieces_eq width t, rfl, fun other => Text.greedy_iff room⟩
  · intro fill width
    have longest := Text.fit_longestWithin width t
    have same := Text.field_eq_padded_fit fill width t
    refine ⟨_, longest, Checked.isBoundary_of_isPrefix longest.isPrefix,
      fun place => longest.le_of_isBoundary, ?_, same, ?_⟩
    · rw [Checked.field_eq, same]
    · exact Text.length_padded (Text.size_fit_le width t)

/-- Characters of one to four octets, in pieces of four. -/
theorem cuts_greedily_mixed :
    4 ≤ 4 ∧ Checked.pieces 4 ['a', '😀', 'é', 'b', '€'] = .ok [['a'], ['😀'], ['é', 'b'], ['€']] ∧
      Greedy 4 ['a', '😀', 'é', 'b', '€'] [['a'], ['😀'], ['é', 'b'], ['€']] := by
  obtain ⟨pieces, read, same, greedy⟩ :=
    (cuts_greedily ['a', '😀', 'é', 'b', '€']).2.1 4 (Nat.le_refl 4)
  obtain rfl : pieces = [['a'], ['😀'], ['é', 'b'], ['€']] := by
    rw [← same]
    decide +kernel
  exact ⟨Nat.le_refl 4, read, (greedy _).mpr rfl⟩

end Textmode
