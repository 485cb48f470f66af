import Textmode.Decimal
import Textmode.Json.Quoted

/-! Numbers of JSON as they are written, and the question whether double precision can
hold them. A value that is used may not be larger than that. -/

set_option autoImplicit false

namespace Textmode.Json

structure Literal where
  negative : Bool
  whole : Text
  fraction : Option Text
  /-- The digits of the exponent, and whether it is negative. -/
  exponent : Option (Bool × Text)
  deriving DecidableEq, Repr

/-- Where digits are missing, a value that is used could go on; one that is only passed
over is wrong as it stands. -/
def missingDigits (purpose : Purpose) (t : Text) : Fault :=
  if t = [] ∧ purpose = .use then .endOfText else .malformed

def digitRun (purpose : Purpose) (t : Text) : Except Fault (Text × Text) :=
  if t.takeWhile Decimal.isDigit = [] then .error (missingDigits purpose t)
  else .ok (t.takeWhile Decimal.isDigit, t.dropWhile Decimal.isDigit)

def sign : Text → Bool × Text
  | '-' :: t => (true, t)
  | t => (false, t)

def exponentSign : Text → Bool × Text
  | '-' :: t => (true, t)
  | '+' :: t => (false, t)
  | t => (false, t)

def fractionPart (purpose : Purpose) : Text → Except Fault (Option Text × Text)
  | '.' :: t => (digitRun purpose t).map fun (ds, rest) => (some ds, rest)
  | t => .ok (none, t)

def isExponentMark (c : Char) : Bool := c = 'e' || c = 'E'

def exponentPart (purpose : Purpose) : Text → Except Fault (Option (Bool × Text) × Text)
  | [] => .ok (none, [])
  | c :: t =>
    if isExponentMark c then
      (digitRun purpose (exponentSign t).2).map fun (ds, rest) =>
        (some ((exponentSign t).1, ds), rest)
    else .ok (none, c :: t)

def hasLeadingZero (whole : Text) : Bool := whole.head? = some '0' && 1 < whole.length

def literal (purpose : Purpose) (t : Text) : Except Fault (Literal × Text) := do
  let (whole, t₁) ← digitRun purpose (sign t).2
  if hasLeadingZero whole then throw .malformed
  let (fraction, t₂) ← fractionPart purpose t₁
  let (exponent, t₃) ← exponentPart purpose t₂
  return ({ negative := (sign t).1, whole, fraction, exponent }, t₃)

namespace Literal

def isWhole (l : Literal) : Bool := l.fraction = none && l.exponent = none

/-- The integer that a literal denotes. A negative zero is none: integers have one zero. -/
def integer? (l : Literal) : Option Int :=
  if l.isWhole then
    if l.negative then
      if Decimal.value l.whole = 0 then none else some (-(Decimal.value l.whole : Int))
    else some (Decimal.value l.whole)
  else none

/-- Takes in digits as long as 64 bits can hold the number, and gives back the others. -/
def absorb : Nat → Text → Nat × Text
  | n, [] => (n, [])
  | n, c :: t =>
    if 10 * n + Decimal.digitValue c < UInt64.size then absorb (10 * n + Decimal.digitValue c) t
    else (n, c :: t)

/-- The literal as a 64-bit number and a power of ten, without its sign. Digits that 64 bits
have no room for count by their number only. -/
def scaled (l : Literal) : Nat × Int :=
  let (n, dropped) := absorb 0 l.whole
  let digits := l.fraction.getD []
  let (n, rest) := absorb n digits
  let written : Int := match l.exponent with
    | none => 0
    | some (negative, ds) => if negative then -(Decimal.value ds : Int) else Decimal.value ds
  (n, dropped.length - (digits.length - rest.length : Nat) + written)

/-- The nearest number with 53 significant bits, of two the one whose last bit is zero. -/
def toDouble (n : Nat) : Nat :=
  if n < 1 <<< 53 then n
  else
    -- The weight of the last of 53 bits.
    let unit := 1 <<< (n.log2 - 52)
    let low := n / unit
    let half := 2 * (n % unit)
    (if unit < half ∨ half = unit ∧ low % 2 = 1 then low + 1 else low) * unit

/-- From here on a number rounds to infinity. -/
def doubleLimit : Nat := 1 <<< 1024 - 1 <<< 970

/-- Whether a literal overflows when it is computed in double precision, as the product
of its digits and its power of ten. -/
def isTooLarge (l : Literal) : Bool :=
  0 < l.scaled.1 && 0 ≤ l.scaled.2 &&
    (308 < l.scaled.2 || doubleLimit ≤ toDouble l.scaled.1 * toDouble (Nat.pow 10 l.scaled.2.toNat))

end Literal

theorem digitRun_shorter {purpose : Purpose} {t ds rest : Text}
    (h : digitRun purpose t = .ok (ds, rest)) : rest.length < t.length := by
  unfold digitRun at h
  split at h
  · simp at h
  · next some_digit =>
    simp only [Except.ok.injEq, Prod.mk.injEq] at h
    have whole := congrArg List.length
      (List.takeWhile_append_dropWhile (p := Decimal.isDigit) (l := t))
    have : (t.takeWhile Decimal.isDigit).length ≠ 0 := by simpa using some_digit
    simp only [List.length_append] at whole
    simp only [← h.2]
    omega

theorem length_sign_le (t : Text) : (sign t).2.length ≤ t.length := by
  unfold sign
  split <;> simp

theorem length_exponentSign_le (t : Text) : (exponentSign t).2.length ≤ t.length := by
  unfold exponentSign
  split <;> simp

theorem fractionPart_le {purpose : Purpose} {t rest : Text} {ds : Option Text}
    (h : fractionPart purpose t = .ok (ds, rest)) : rest.length ≤ t.length := by
  unfold fractionPart at h
  split at h
  · next t =>
    cases found : digitRun purpose t with
    | error fault => simp [found, Except.map] at h
    | ok result =>
      simp only [found, Except.map, Except.ok.injEq, Prod.mk.injEq] at h
      have := digitRun_shorter found
      simp only [← h.2, List.length_cons]
      omega
  · simp only [Except.ok.injEq, Prod.mk.injEq] at h
    simp [← h.2]

theorem exponentPart_le {purpose : Purpose} {t rest : Text} {ds : Option (Bool × Text)}
    (h : exponentPart purpose t = .ok (ds, rest)) : rest.length ≤ t.length := by
  unfold exponentPart at h
  split at h
  · simp only [Except.ok.injEq, Prod.mk.injEq] at h
    simp [← h.2]
  · next c t =>
    split at h
    · cases found : digitRun purpose (exponentSign t).2 with
      | error fault => simp [found, Except.map] at h
      | ok result =>
        simp only [found, Except.map, Except.ok.injEq, Prod.mk.injEq] at h
        have := digitRun_shorter found
        have := length_exponentSign_le t
        simp only [← h.2, List.length_cons]
        omega
    · simp only [Except.ok.injEq, Prod.mk.injEq] at h
      simp [← h.2]

theorem literal_shorter {purpose : Purpose} {t rest : Text} {l : Literal}
    (h : literal purpose t = .ok (l, rest)) : rest.length < t.length := by
  unfold literal at h
  simp only [bind, Except.bind, throw, throwThe, MonadExceptOf.throw, pure, Except.pure] at h
  split at h
  · simp at h
  · next wholeOk =>
    have := digitRun_shorter wholeOk
    have := length_sign_le t
    split at h
    · simp at h
    · split at h
      · simp at h
      · next fractionOk =>
        have := fractionPart_le fractionOk
        split at h
        · simp at h
        · next exponentOk =>
          have := exponentPart_le exponentOk
          simp only [Except.ok.injEq, Prod.mk.injEq] at h
          simp only [← h.2]
          omega

end Textmode.Json
