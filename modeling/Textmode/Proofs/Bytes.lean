import Textmode.Bytes
import Mathlib.Algebra.Ring.Nat
import Mathlib.Data.List.DropRight

/-! Reading back what was laid out octet by octet: numbers, fields at an offset, and what is
left of a list without what it starts with or the filling at its end. -/

set_option autoImplicit false

namespace Textmode

theorem ofLittleEndian_littleEndian (width n : Nat) :
    ofLittleEndian (littleEndian width n) = n % 256 ^ width := by
  induction width generalizing n with
  | zero => simp [littleEndian, ofLittleEndian, Nat.mod_one]
  | succ width ih =>
    rw [ofLittleEndian_littleEndian_succ, ih, Nat.pow_succ', Nat.mod_mul]

theorem littleEndian_ofLittleEndian (bytes : Bytes) :
    littleEndian bytes.length (ofLittleEndian bytes) = bytes := by
  induction bytes with
  | nil => rfl
  | cons b rest ih =>
    have small := b.toNat_lt
    have low : UInt8.ofNat (b.toNat + 256 * ofLittleEndian rest) = b := by
      apply UInt8.toNat_inj.mp
      rw [UInt8.toNat_ofNat']
      omega
    have others : (b.toNat + 256 * ofLittleEndian rest) / 256 = ofLittleEndian rest := by omega
    rw [ofLittleEndian, List.length_cons, littleEndian, low, others, ih]

theorem ofLittleEndian_lt (bytes : Bytes) : ofLittleEndian bytes < 256 ^ bytes.length := by
  induction bytes with
  | nil => exact Nat.one_pos
  | cons b rest ih =>
    have small := b.toNat_lt
    rw [ofLittleEndian, List.length_cons, Nat.pow_succ]
    omega

section Slices

variable {α : Type} {offset width : Nat}

theorem slice_append_left {l rest : List α} (whole : l.length = width) :
    slice 0 width (l ++ rest) = l := by
  subst whole
  simp [slice]

theorem slice_append_right {l rest : List α} (past : l.length ≤ offset) :
    slice offset width (l ++ rest) = slice (offset - l.length) width rest := by
  rw [slice, slice, List.drop_append, List.drop_eq_nil_of_le past, List.nil_append]

theorem slice_append_slice (offset width next : Nat) (l : List α) :
    slice offset width l ++ slice (offset + width) next l = slice offset (width + next) l := by
  rw [slice, slice, slice, List.take_add, List.drop_drop]

theorem length_slice {l : List α} (inside : offset + width ≤ l.length) :
    (slice offset width l).length = width := by
  rw [slice, List.length_take, List.length_drop]
  omega

theorem slice_self {l : List α} (whole : l.length = width) : slice 0 width l = l := by
  subst whole
  simp [slice]

end Slices

theorem not_of_mem_head?_dropWhile {α : Type} {p : α → Bool} {l : List α} {a : α}
    (first : a ∈ (l.dropWhile p).head?) : p a = false := by
  have stop := List.head?_dropWhile_not p l
  rwa [Option.mem_def.mp first] at stop

section Trailing

variable {α : Type} {p q : α → Bool}

theorem dropTrailing_eq_rdropWhile (p : α → Bool) (l : List α) :
    dropTrailing p l = l.rdropWhile p := rfl

theorem dropTrailing_concat_of_pos {l : List α} {a : α} (h : p a) :
    dropTrailing p (l ++ [a]) = dropTrailing p l := List.rdropWhile_concat_pos p l a h

theorem dropTrailing_concat_of_neg {l : List α} {a : α} (h : ¬ p a) :
    dropTrailing p (l ++ [a]) = l ++ [a] := List.rdropWhile_concat_neg p l a h

theorem dropTrailing_eq_self_iff {l : List α} :
    dropTrailing p l = l ↔ ∀ a ∈ l.getLast?, ¬ p a := by
  rw [dropTrailing_eq_rdropWhile, List.rdropWhile_eq_self_iff]
  constructor
  · intro kept a last
    have nonempty : l ≠ [] := by
      rintro rfl
      simp at last
    rw [List.getLast?_eq_some_getLast nonempty, Option.mem_some_iff] at last
    exact last ▸ kept nonempty
  · intro kept nonempty
    exact kept _ (List.getLast?_eq_some_getLast nonempty)

/-- What is dropped ends at the last element that is kept. -/
theorem dropTrailing_append_cons {a : α} (keeps : ¬ p a) (l rest : List α) :
    dropTrailing p (l ++ a :: rest) = l ++ a :: dropTrailing p rest := by
  induction rest using List.reverseRecOn with
  | nil => exact dropTrailing_concat_of_neg keeps
  | append_singleton rest b ih =>
    rw [← List.cons_append, ← List.append_assoc]
    by_cases dropped : p b
    · rw [dropTrailing_concat_of_pos dropped, ih, dropTrailing_concat_of_pos dropped]
    · rw [dropTrailing_concat_of_neg dropped, dropTrailing_concat_of_neg dropped,
        List.append_assoc, List.cons_append]

theorem dropTrailing_idem (p : α → Bool) (l : List α) :
    dropTrailing p (dropTrailing p l) = dropTrailing p l := List.rdropWhile_idempotent p l

theorem not_of_mem_getLast?_dropTrailing {l : List α} {a : α}
    (last : a ∈ (dropTrailing p l).getLast?) : ¬ p a :=
  dropTrailing_eq_self_iff.mp (dropTrailing_idem p l) a last

theorem dropTrailing_dropTrailing_of_imp (weaker : ∀ a, q a → p a) (l : List α) :
    dropTrailing q (dropTrailing p l) = dropTrailing p l := by
  rw [dropTrailing_eq_self_iff]
  intro a last dropped
  exact not_of_mem_getLast?_dropTrailing last (weaker a dropped)

theorem dropTrailing_absorb_of_imp (weaker : ∀ a, q a → p a) (l : List α) :
    dropTrailing p (dropTrailing q l) = dropTrailing p l := by
  induction l using List.reverseRecOn with
  | nil => rfl
  | append_singleton l a ih =>
    by_cases dropped : q a
    · rw [dropTrailing_concat_of_pos dropped, dropTrailing_concat_of_pos (weaker a dropped), ih]
    · rw [dropTrailing_concat_of_neg dropped]

end Trailing

end Textmode
