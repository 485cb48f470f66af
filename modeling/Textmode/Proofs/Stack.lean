import Textmode.Proofs.File
import Mathlib.Logic.Function.Iterate

/-! Records behind each other at the end of a file. Stripping takes them off from the last one on.
Each of them is at least as long as a block, so there can only be so many, whatever they claim.
-/

set_option autoImplicit false

namespace Textmode.Sauce.File

/-- Stripping is so many rounds of taking off the last record, and each of them finds one. -/
theorem exists_rounds (file : Bytes) : ∃ rounds, strip file = dropRecord^[rounds] file ∧
    rounds * Block.width + (strip file).length ≤ file.length ∧
    ∀ k < rounds, endsInRecord (dropRecord^[k] file) := by
  induction file using strip.induct with
  | case1 file h ih =>
    obtain ⟨rounds, result, room, found⟩ := ih
    have removed := length_dropRecord h
    rw [strip_of_endsInRecord h]
    refine ⟨rounds + 1, result, ?_, ?_⟩
    · rw [Nat.succ_mul]
      omega
    · intro k earlier
      cases k with
      | zero => exact h
      | succ k => exact found k (Nat.lt_of_succ_lt_succ earlier)
  | case2 file h =>
    rw [strip_of_not_endsInRecord h]
    refine ⟨0, rfl, ?_, ?_⟩
    · rw [Nat.zero_mul, Nat.zero_add]
    · intro k earlier
      cases earlier

theorem strip_eq_self_iff {file : Bytes} : strip file = file ↔ ¬ endsInRecord file := by
  constructor
  · intro same
    rw [← same]
    exact not_endsInRecord_strip file
  · exact strip_of_not_endsInRecord

/-- Stripping takes a block at least in each round and stops at the first start of the file that
ends in no record. Nothing changes exactly where nothing is read. -/
theorem strip_settles (file : Bytes) :
    (∃ rounds, rounds ≤ file.length / 128 ∧ strip file = dropRecord^[rounds] file ∧
      ∀ k < rounds, endsInRecord (dropRecord^[k] file) ∧
        dropRecord^[k + 1] file <+: dropRecord^[k] file ∧
        (dropRecord^[k + 1] file).length + 128 ≤ (dropRecord^[k] file).length) ∧
    strip file <+: file ∧
    ((strip file).length < 128 ∨
      ¬ Block.mark <+: (strip file).drop ((strip file).length - 128)) ∧
    (strip file = file ↔ read? file = none) ∧
    strip (strip file) = strip file := by
  refine ⟨?_, strip_isPrefix file, ?_, ?_, strip_strip file⟩
  · obtain ⟨rounds, result, room, found⟩ := exists_rounds file
    refine ⟨rounds, ?_, result, ?_⟩
    · rw [Nat.le_div_iff_mul_le (by decide)]
      exact (Nat.le_add_right _ _).trans room
    · intro k earlier
      rw [Function.iterate_succ_apply']
      exact ⟨found k earlier, dropRecord_isPrefix _, length_dropRecord (found k earlier)⟩
  · have settled := not_endsInRecord_strip file
    rw [endsInRecord_iff, not_and, lastBlock] at settled
    exact (Nat.lt_or_ge _ _).imp_right settled
  · rw [strip_eq_self_iff, read?_eq_none_iff]

end Textmode.Sauce.File
