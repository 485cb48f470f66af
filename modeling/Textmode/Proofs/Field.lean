import Textmode.Text.Fit
import Textmode.Proofs.Utf8

/-! What a field keeps of a text: the longest start that its octets can hold, less the spaces
and NULs that fields are filled with. -/

set_option autoImplicit false

namespace Textmode.Text

/-- The longest start of a text whose octets number at most `width`. -/
structure LongestWithin (width : Nat) (t start : Text) : Prop where
  isPrefix : start <+: t
  fits : (Utf8.encode start).length ≤ width
  longest : ∀ other, other <+: t → (Utf8.encode other).length ≤ width → other <+: start

def isPadding (c : Char) : Bool := c = ' ' || c = '\x00'

/-- What a field of `width` octets gives back of a text: its longest start that fits, without
the padding at the end. Nothing stands in for what is lost. -/
structure Kept (width : Nat) (written read : Text) : Prop where
  cut : ∃ start, LongestWithin width written start ∧ read = dropTrailing isPadding start
  isPrefix : read <+: written

theorem size_le_of_isPrefix {s t : Text} (start : s <+: t) : Utf8.size s ≤ Utf8.size t := by
  obtain ⟨rest, rfl⟩ := start
  simp

theorem isPrefix_fit {width : Nat} {t other : Text} (start : other <+: t)
    (fits : Utf8.size other ≤ width) : other <+: fit width t := by
  induction t generalizing width other with
  | nil => simpa [fit] using start
  | cons c t ih =>
    cases other with
    | nil => exact List.nil_prefix
    | cons d other =>
      obtain ⟨rfl, tail⟩ := List.cons_prefix_cons.mp start
      rw [Utf8.size] at fits
      rw [fit, if_pos (by omega)]
      exact List.cons_prefix_cons.mpr ⟨rfl, ih tail (by omega)⟩

theorem fit_longestWithin (width : Nat) (t : Text) : LongestWithin width t (fit width t) where
  isPrefix := fit_isPrefix width t
  fits := by
    rw [Utf8.length_encode]
    exact size_fit_le width t
  longest other start fits := isPrefix_fit start (Utf8.length_encode other ▸ fits)

theorem LongestWithin.unique {width : Nat} {t first second : Text}
    (left : LongestWithin width t first) (right : LongestWithin width t second) :
    first = second := by
  have before := right.longest first left.isPrefix left.fits
  have behind := left.longest second right.isPrefix right.fits
  exact before.eq_of_length_le behind.length_le

theorem kept_dropTrailing_fit (width : Nat) (t : Text) :
    Kept width t (dropTrailing isPadding (fit width t)) where
  cut := ⟨_, fit_longestWithin width t, rfl⟩
  isPrefix := (dropTrailing_isPrefix isPadding _).trans (fit_isPrefix width t)

theorem fit_eq_self_iff {width : Nat} {t : Text} : fit width t = t ↔ Utf8.size t ≤ width := by
  constructor
  · intro whole
    rw [← whole]
    exact size_fit_le width t
  · intro fits
    exact (fit_isPrefix width t).eq_of_length_le (isPrefix_fit (List.prefix_refl t) fits).length_le

def padded (fill : UInt8) (width : Nat) (t : Text) : Bytes :=
  Utf8.encode t ++ List.replicate (width - (Utf8.encode t).length) fill

theorem field_eq_padded_fit (fill : UInt8) (width : Nat) (t : Text) :
    field fill width t = padded fill width (fit width t) := by
  rw [field, padded, Utf8.length_encode]

theorem field_eq_padded {fill : UInt8} {width : Nat} {t : Text} (fits : Utf8.size t ≤ width) :
    field fill width t = padded fill width t := by
  rw [field_eq_padded_fit, fit_eq_self_iff.mpr fits]

theorem length_padded {fill : UInt8} {width : Nat} {t : Text} (fits : Utf8.size t ≤ width) :
    (padded fill width t).length = width := by
  rw [← field_eq_padded fits, length_field]

theorem pieces_eq_singleton {width : Nat} {t : Text} (nonempty : t ≠ [])
    (fits : Utf8.size t ≤ width) : pieces width t = [t] := by
  cases t with
  | nil => exact absurd rfl nonempty
  | cons c t =>
    rw [Utf8.size] at fits
    have whole : fit (width - c.utf8Size) t = t := fit_eq_self_iff.mpr (by omega)
    rw [pieces, whole, List.drop_length, pieces]

theorem subset_of_mem_pieces {width : Nat} {t piece : Text} (member : piece ∈ pieces width t) :
    piece ⊆ t := by
  induction t using pieces.induct width with
  | case1 => simp [pieces] at member
  | case2 c t ih =>
    rw [pieces] at member
    obtain rfl | later := List.mem_cons.mp member
    · exact List.cons_subset_cons c (fit_isPrefix _ t).subset
    · intro d inside
      exact List.mem_cons_of_mem c (List.mem_of_mem_drop (ih later inside))

theorem size_le_of_mem_pieces {width : Nat} (room : 4 ≤ width) {t piece : Text}
    (member : piece ∈ pieces width t) : Utf8.size piece ≤ width := by
  induction t using pieces.induct width with
  | case1 => simp [pieces] at member
  | case2 c t ih =>
    rw [pieces] at member
    obtain rfl | later := List.mem_cons.mp member
    · have := size_fit_le (width - c.utf8Size) t
      have := c.utf8Size_le_four
      rw [Utf8.size]
      omega
    · exact ih later

end Textmode.Text
