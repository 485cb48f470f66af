/-! Octets as they lie in a file: numbers with the least significant octet first,
fields cut out by position, and the filling at the end of a field.
-/

set_option autoImplicit false

namespace Textmode

abbrev Bytes := List UInt8

/-- The low `width` octets of a number, the least significant first. -/
def littleEndian : Nat → Nat → Bytes
  | 0, _ => []
  | width + 1, n => UInt8.ofNat n :: littleEndian width (n / 256)

def ofLittleEndian : Bytes → Nat
  | [] => 0
  | b :: rest => b.toNat + 256 * ofLittleEndian rest

@[simp] theorem length_littleEndian (width n : Nat) : (littleEndian width n).length = width := by
  induction width generalizing n with
  | zero => rfl
  | succ width ih => simp [littleEndian, ih]

theorem ofLittleEndian_littleEndian_succ (width n : Nat) :
    ofLittleEndian (littleEndian (width + 1) n) =
      n % 256 + 256 * ofLittleEndian (littleEndian width (n / 256)) := by
  simp [littleEndian, ofLittleEndian]

def slice {α : Type} (offset width : Nat) (l : List α) : List α := (l.drop offset).take width

def dropTrailing {α : Type} (p : α → Bool) (l : List α) : List α := (l.reverse.dropWhile p).reverse

theorem dropTrailing_append_of_all {α : Type} {p : α → Bool} {tail : List α}
    (l : List α) (h : ∀ a ∈ tail, p a) : dropTrailing p (l ++ tail) = dropTrailing p l := by
  simp only [dropTrailing, List.reverse_append]
  rw [List.dropWhile_append_of_pos (by simpa using h)]

theorem dropTrailing_isPrefix {α : Type} (p : α → Bool) (l : List α) : dropTrailing p l <+: l := by
  have h := List.dropWhile_suffix p (l := l.reverse)
  simpa [dropTrailing] using List.reverse_prefix.mpr h

end Textmode
