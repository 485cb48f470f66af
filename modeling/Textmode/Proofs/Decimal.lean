import Textmode.Decimal
import Textmode.Proofs.Bytes
import Textmode.Proofs.Utf8

/-! Decimal digits, and how they fill a field of a fixed number of places. -/

set_option autoImplicit false

namespace Textmode

namespace Decimal

theorem toNat_of_isDigit {c : Char} (digit : isDigit c) : 0x30 ≤ c.toNat ∧ c.toNat ≤ 0x39 := by
  simpa [isDigit, Char.le_def, UInt32.le_iff_toNat_le] using digit

theorem isDigit_digit (n : Nat) : isDigit (digit n) := by
  have last : ∀ k < 10, isDigit (Char.ofNat ('0'.toNat + k)) := by decide
  exact last (n % 10) (Nat.mod_lt n (by decide))

theorem isDigit_of_mem_digits {n : Nat} {c : Char} (member : c ∈ digits n) : isDigit c := by
  induction n using digits.induct with
  | case1 n small =>
    rw [digits, if_pos small] at member
    exact List.mem_singleton.mp member ▸ isDigit_digit n
  | case2 n large ih =>
    rw [digits, if_neg large] at member
    rcases List.mem_append.mp member with leading | last
    · exact ih leading
    · exact List.mem_singleton.mp last ▸ isDigit_digit n

theorem length_digits_le {n places : Nat} (some : 0 < places) (fits : n < 10 ^ places) :
    (digits n).length ≤ places := by
  induction n using digits.induct generalizing places with
  | case1 n small =>
    rw [digits, if_pos small]
    exact some
  | case2 n large ih =>
    cases places with
    | zero => omega
    | succ places =>
      -- A number of two digits at least needs a place for those in front of the last.
      have more : 0 < places := by
        rcases Nat.eq_zero_or_pos places with rfl | more
        · omega
        · exact more
      have front : n / 10 < 10 ^ places := by
        rw [Nat.pow_succ] at fits
        omega
      rw [digits, if_neg large, List.length_append, List.length_singleton]
      exact Nat.succ_le_succ (ih more front)

theorem length_padded {n places : Nat} (some : 0 < places) (fits : n < 10 ^ places) :
    (padded places n).length = places := by
  rw [padded, List.length_append, List.length_replicate]
  exact Nat.sub_add_cancel (length_digits_le some fits)

theorem isDigit_of_mem_padded {n places : Nat} {c : Char} (member : c ∈ padded places n) :
    isDigit c := by
  rcases List.mem_append.mp member with zero | digit
  · rw [List.eq_of_mem_replicate zero]
    rfl
  · exact isDigit_of_mem_digits digit

theorem small_of_isDigit {t : Text} (digits : ∀ c ∈ t, isDigit c) : ∀ c ∈ t, c.toNat < 0x80 := by
  intro c member
  have := toNat_of_isDigit (digits c member)
  omega

theorem size_of_isDigit {t : Text} (digits : ∀ c ∈ t, isDigit c) : Utf8.size t = t.length :=
  Utf8.size_eq_length (small_of_isDigit digits)

theorem encode_of_isDigit {t : Text} (digits : ∀ c ∈ t, isDigit c) :
    Utf8.encode t = t.map fun c => UInt8.ofNat c.toNat :=
  Utf8.encode_of_small (small_of_isDigit digits)

theorem digits_ten_mul_add {n last : Nat} (more : 0 < n) (small : last < 10) :
    digits (10 * n + last) = digits n ++ [digit last] := by
  rw [digits, if_neg (by omega)]
  congr 1
  · congr 1
    omega
  · simp only [digit]
    congr 3
    omega

theorem padded_succ {places n last : Nat} (some : 0 < places) (small : last < 10) :
    padded (places + 1) (10 * n + last) = padded places n ++ [digit last] := by
  rcases Nat.eq_zero_or_pos n with rfl | more
  · have zero : padded places 0 = List.replicate places '0' := by
      obtain ⟨rest, rfl⟩ := Nat.exists_eq_succ_of_ne_zero (Nat.ne_of_gt some)
      have one : digits 0 = ['0'] := by
        rw [digits]
        rfl
      rw [padded, one, List.length_singleton, Nat.succ_sub_one, List.replicate_succ']
    have one : digits last = [digit last] := by rw [digits, if_pos small]
    rw [Nat.mul_zero, Nat.zero_add, zero, padded, one, List.length_singleton, Nat.add_sub_cancel]
  · rw [padded, padded, digits_ten_mul_add more small, List.length_append, List.length_singleton,
      Nat.add_sub_add_right, List.append_assoc]

/-! ## Digits and numbers -/

theorem value_append_singleton (ds : List Char) (c : Char) :
    value (ds ++ [c]) = 10 * value ds + digitValue c := by
  rw [value, List.foldl_append]
  rfl

theorem value_singleton (c : Char) : value [c] = digitValue c := Nat.zero_add (digitValue c)

theorem digitValue_digit (n : Nat) : digitValue (digit n) = n % 10 := by
  have last : ∀ k < 10, digitValue (Char.ofNat ('0'.toNat + k)) = k := by decide
  exact last (n % 10) (Nat.mod_lt n (by decide))

theorem value_digits (n : Nat) : value (digits n) = n := by
  induction n using digits.induct with
  | case1 n small =>
    rw [digits, if_pos small, value_singleton, digitValue_digit, Nat.mod_eq_of_lt small]
  | case2 n large ih =>
    rw [digits, if_neg large, value_append_singleton, ih, digitValue_digit]
    exact Nat.div_add_mod n 10

theorem value_padded (places n : Nat) : value (padded places n) = n := by
  have zeros (k : Nat) : (List.replicate k '0').foldl (fun n c => 10 * n + digitValue c) 0 = 0 := by
    induction k with
    | zero => rfl
    | succ k ih => exact ih
  rw [value, padded, List.foldl_append, zeros]
  exact value_digits n

theorem digits_ne_nil (n : Nat) : digits n ≠ [] := by
  rw [digits]
  split <;> simp

theorem digit_digitValue {c : Char} (isDigit : isDigit c) : digit (digitValue c) = c := by
  have bounds := toNat_of_isDigit isDigit
  have zero : '0'.toNat = 0x30 := rfl
  rw [digit, digitValue, Nat.mod_eq_of_lt (by omega), Nat.add_sub_cancel' (by omega),
    Char.ofNat_toNat]

theorem digitValue_lt {c : Char} (isDigit : isDigit c) : digitValue c < 10 := by
  have bounds := toNat_of_isDigit isDigit
  have zero : '0'.toNat = 0x30 := rfl
  rw [digitValue]
  omega

theorem digitValue_pos {c : Char} (isDigit : isDigit c) (notZero : c ≠ '0') : 0 < digitValue c := by
  refine Nat.pos_of_ne_zero fun zero => notZero ?_
  rw [← digit_digitValue isDigit, zero]
  rfl

theorem value_pos {c : Char} {ds : List Char} (digits : ∀ d ∈ c :: ds, isDigit d)
    (notZero : c ≠ '0') : 0 < value (c :: ds) := by
  induction ds using List.reverseRecOn with
  | nil =>
    rw [value_singleton]
    exact digitValue_pos (digits c List.mem_cons_self) notZero
  | append_singleton ds d ih =>
    have front := ih fun e member => digits e (List.mem_append_left [d] member)
    rw [← List.cons_append, value_append_singleton]
    omega

/-- Only the digit zero may have a zero in front. -/
theorem digits_value {ds : List Char} (some : ds ≠ []) (digits : ∀ d ∈ ds, isDigit d)
    (noZero : ds.head? = .some '0' → ds.length = 1) : Decimal.digits (value ds) = ds := by
  -- From the end, since it is the last digit that division by ten takes off.
  induction ds using List.reverseRecOn with
  | nil => exact absurd rfl some
  | append_singleton ds d ih =>
    have last := digits d (by simp)
    rw [value_append_singleton]
    cases ds with
    | nil =>
      rw [← value_append_singleton, List.nil_append, value_singleton, Decimal.digits,
        if_pos (digitValue_lt last), digit_digitValue last]
    | cons c ds =>
      have front : ∀ e ∈ c :: ds, isDigit e :=
        fun e member => digits e (List.mem_append_left [d] member)
      have notZero : c ≠ '0' := by
        rintro rfl
        simp at noZero
      rw [digits_ten_mul_add (value_pos front notZero) (digitValue_lt last), digit_digitValue last,
        ih (by simp) front fun first => absurd (Option.some.inj first) notZero]

theorem head?_digits {n : Nat} (first : (digits n).head? = some '0') : n = 0 := by
  induction n using digits.induct with
  | case1 n small =>
    rw [digits, if_pos small] at first
    have same := congrArg digitValue (Option.some.inj first)
    rw [digitValue_digit, Nat.mod_eq_of_lt small] at same
    exact same
  | case2 n large ih =>
    rw [digits, if_neg large, List.head?_append_of_ne_nil _ (digits_ne_nil _)] at first
    have := ih first
    omega

end Decimal

end Textmode
