import Textmode.Charset.Utf8

/-! Text in fields of a fixed number of octets. A character that does not fit as a
whole is left out, never cut. -/

set_option autoImplicit false

namespace Textmode.Text

def fit : Nat → Text → Text
  | _, [] => []
  | width, c :: t => if c.utf8Size ≤ width then c :: fit (width - c.utf8Size) t else []

theorem fit_isPrefix (width : Nat) (t : Text) : fit width t <+: t := by
  induction t generalizing width with
  | nil => simp [fit]
  | cons c t ih =>
    unfold fit
    split
    · exact List.cons_prefix_cons.mpr ⟨rfl, ih _⟩
    · exact List.nil_prefix

theorem size_fit_le (width : Nat) (t : Text) : Utf8.size (fit width t) ≤ width := by
  induction t generalizing width with
  | nil => simp [fit, Utf8.size]
  | cons c t ih =>
    unfold fit
    split
    · next h =>
      have := ih (width - c.utf8Size)
      rw [Utf8.size]
      omega
    · simp [Utf8.size]

def field (fill : UInt8) (width : Nat) (t : Text) : Bytes :=
  Utf8.encode (fit width t) ++ List.replicate (width - Utf8.size (fit width t)) fill

@[simp] theorem length_field (fill : UInt8) (width : Nat) (t : Text) :
    (field fill width t).length = width := by
  have := size_fit_le width t
  simp only [field, List.length_append, Utf8.length_encode, List.length_replicate]
  omega

/-- The text in consecutive pieces of at most `width` octets, each as long as it can be.
A single character wider than that is a piece of its own. -/
def pieces (width : Nat) : Text → List Text
  | [] => []
  | c :: t =>
    (c :: fit (width - c.utf8Size) t) ::
      pieces width (t.drop (fit (width - c.utf8Size) t).length)
termination_by t => t.length

end Textmode.Text
