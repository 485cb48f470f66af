import Textmode.Proofs.Json.Scalars

/-! Integers in JSON. Those of 64 bits without a sign are written in one way only, and none of them
is too large to be used.
-/

set_option autoImplicit false

namespace Textmode.Json

theorem isDigits_digits (n : Nat) : IsDigits (Decimal.digits n) :=
  ⟨Decimal.digits_ne_nil n, fun _ member => Decimal.isDigit_of_mem_digits member⟩

theorem not_hasLeadingZero_digits (n : Nat) : ¬ hasLeadingZero (Decimal.digits n) := by
  rw [hasLeadingZero, Bool.and_eq_true, decide_eq_true_eq, decide_eq_true_eq]
  rintro ⟨first, long⟩
  rw [Decimal.head?_digits first, Decimal.digits, if_pos (by decide)] at long
  exact absurd long (by decide)

theorem numberText_digits (n : Nat) :
    NumberText (Decimal.digits n) ⟨false, Decimal.digits n, none, none⟩ := by
  have written := @NumberText.mk false _ _ none _ (isDigits_digits n) (not_hasLeadingZero_digits n)
    (by simp) .absent
  simpa only [Bool.false_eq_true, if_false, fractionText, List.append_nil, List.nil_append]
    using written

namespace Literal

theorem le_foldl (n : Nat) (ds : Text) :
    n ≤ ds.foldl (fun n c => 10 * n + Decimal.digitValue c) n := by
  induction ds generalizing n with
  | nil => exact Nat.le_refl n
  | cons c ds ih =>
    have more : n ≤ 10 * n + Decimal.digitValue c := by omega
    exact Nat.le_trans more (ih _)

theorem absorb_of_lt {n : Nat} {ds : Text}
    (fits : ds.foldl (fun n c => 10 * n + Decimal.digitValue c) n < UInt64.size) :
    absorb n ds = (ds.foldl (fun n c => 10 * n + Decimal.digitValue c) n, []) := by
  induction ds generalizing n with
  | nil => rfl
  | cons c ds ih =>
    rw [absorb, if_pos (Nat.lt_of_le_of_lt (le_foldl _ ds) fits)]
    exact ih fits

theorem toDouble_le (n : Nat) : toDouble n ≤ 2 * n := by
  unfold toDouble
  split
  · omega
  · next large =>
    have some : n ≠ 0 := by
      rintro rfl
      exact large (by decide)
    have unit : 1 <<< (n.log2 - 52) ≤ n := by
      rw [Nat.one_shiftLeft]
      exact Nat.le_trans (Nat.pow_le_pow_right (by decide) (Nat.sub_le _ _))
        (Nat.log2_self_le some)
    have low : n / (1 <<< (n.log2 - 52)) * (1 <<< (n.log2 - 52)) ≤ n := Nat.div_mul_le_self _ _
    dsimp only
    split
    · rw [Nat.add_mul, Nat.one_mul]
      omega
    · omega

theorem not_isTooLarge {negative : Bool} {whole : Text}
    (fits : Decimal.value whole < UInt64.size) :
    ¬ isTooLarge ⟨negative, whole, none, none⟩ := by
  have parts : scaled ⟨negative, whole, none, none⟩ = (Decimal.value whole, 0) := by
    have first : absorb 0 whole = (Decimal.value whole, []) := absorb_of_lt fits
    simp [scaled, first, absorb]
  have small : toDouble (Decimal.value whole) * toDouble (Nat.pow 10 0) < doubleLimit := by
    have one : toDouble (Nat.pow 10 0) = 1 := by decide
    have limit : 2 * UInt64.size ≤ doubleLimit := by decide +kernel
    have bound := toDouble_le (Decimal.value whole)
    rw [one, Nat.mul_one]
    omega
  rw [isTooLarge, parts]
  simp only [Int.toNat_zero, Nat.not_le.mpr small, decide_false, Bool.or_false,
    Bool.and_eq_true, decide_eq_true_eq]
  omega

end Literal

theorem scalarText_digits {n : Nat} (fits : n < UInt64.size) :
    ScalarText (Decimal.digits n) (.integer n) := by
  refine .integer (numberText_digits n) (Literal.not_isTooLarge ?_) ?_
  · rwa [Decimal.value_digits]
  · rw [← Decimal.value_digits n]
    simp [Literal.integer?, Literal.isWhole, Decimal.value_digits]

theorem ScalarText.eq_digits {s : Text} {n : Nat} (written : ScalarText s (.integer n)) :
    s = Decimal.digits n := by
  cases written with
  | @integer _ l _ number fits whole =>
    obtain @⟨negative, ds, tail, fraction, exponent, digits, noZero, _, exponentText⟩ := number
    unfold Literal.integer? Literal.isWhole at whole
    -- With a fraction or an exponent it is no integer, and with a sign it is below zero.
    split at whole
    · next alone =>
      simp only [Bool.and_eq_true, decide_eq_true_eq] at alone
      obtain ⟨rfl, rfl⟩ := alone
      cases exponentText
      cases negative with
      | true =>
        dsimp only at whole
        split at whole
        · split at whole
          · cases whole
          · next notZero =>
            have same := Option.some.inj whole
            omega
        · next positive => exact absurd rfl positive
      | false =>
        have same : Decimal.value ds = n := Int.ofNat_inj.mp (Option.some.inj whole)
        have short : ds.head? = some '0' → ds.length = 1 := by
          intro first
          rw [hasLeadingZero, first] at noZero
          have one : 0 < ds.length := List.length_pos_iff.mpr digits.1
          simp only [decide_true, Bool.true_and, decide_eq_true_eq] at noZero
          omega
        rw [← same, Decimal.digits_value digits.1 digits.2 short]
        simp [fractionText]
    · cases whole

end Textmode.Json
