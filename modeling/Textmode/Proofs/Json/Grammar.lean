import Textmode.Json.Item
import Mathlib.Data.List.Basic

/-! JSON as it may be written, said without a reader: strings with their escapes, numbers in their
parts, values in brackets, and blanks between all of them. Some of what is well-formed stands for
nothing that can be used, so the rules come with a purpose: what is only passed over may hold
halves of surrogate pairs and numbers of any size.
-/

set_option autoImplicit false

namespace Textmode.Json

def AllBlank (t : Text) : Prop := ∀ c ∈ t, isBlank c

/-! ## Strings -/

def letterEscapes : List (Char × Char) :=
  [('"', '"'), ('\\', '\\'), ('/', '/'), ('b', '\x08'), ('f', '\x0c'), ('n', '\n'), ('r', '\r'),
    ('t', '\t')]

inductive HexCode : Text → Nat → Prop where
  | mk {a b c d : Char} {i j k l : Nat} : hexValue? a = some i → hexValue? b = some j →
      hexValue? c = some k → hexValue? d = some l →
      HexCode [a, b, c, d] (((i * 16 + j) * 16 + k) * 16 + l)

def IsHighHalf (n : Nat) : Prop := 0xD800 ≤ n ∧ n < 0xDC00

def IsLowHalf (n : Nat) : Prop := 0xDC00 ≤ n ∧ n ≤ 0xDFFF

/-- `Spells s t`: between quotes, `s` is a way to write `t`. -/
inductive Spells : Text → Text → Prop where
  | nil : Spells [] []
  | plain {c : Char} {s t : Text} : c ≠ '"' → c ≠ '\\' → 0x20 ≤ c.toNat → Spells s t →
      Spells (c :: s) (c :: t)
  | letter {e c : Char} {s t : Text} : (e, c) ∈ letterEscapes → Spells s t →
      Spells ('\\' :: e :: s) (c :: t)
  | code {ds s t : Text} {n : Nat} : HexCode ds n → ¬ IsHighHalf n → ¬ IsLowHalf n →
      Spells s t → Spells ('\\' :: 'u' :: (ds ++ s)) (Char.ofNat n :: t)
  | pair {ds es s t : Text} {high low : Nat} : HexCode ds high → IsHighHalf high →
      HexCode es low → IsLowHalf low → Spells s t →
      Spells ('\\' :: 'u' :: (ds ++ '\\' :: 'u' :: (es ++ s)))
        (Char.ofNat (0x10000 + (high - 0xD800) * 0x400 + (low - 0xDC00)) :: t)

/-- What may stand between quotes at all, whether or not it stands for a text. -/
inductive Quotable : Text → Prop where
  | nil : Quotable []
  | plain {c : Char} {s : Text} : c ≠ '"' → c ≠ '\\' → 0x20 ≤ c.toNat → Quotable s →
      Quotable (c :: s)
  | letter {e c : Char} {s : Text} : (e, c) ∈ letterEscapes → Quotable s →
      Quotable ('\\' :: e :: s)
  | code {ds s : Text} {n : Nat} : HexCode ds n → Quotable s → Quotable ('\\' :: 'u' :: (ds ++ s))

theorem Spells.quotable {s t : Text} (spells : Spells s t) : Quotable s := by
  induction spells with
  | nil => exact .nil
  | plain notQuote notBackslash printable _ ih => exact .plain notQuote notBackslash printable ih
  | letter escape _ ih => exact .letter escape ih
  | code digits _ _ _ ih => exact .code digits ih
  | pair first _ second _ _ ih => exact .code first (.code second ih)

/-! ## Numbers -/

def IsDigits (ds : Text) : Prop := ds ≠ [] ∧ ∀ c ∈ ds, Decimal.isDigit c

def fractionText : Option Text → Text
  | some ds => '.' :: ds
  | none => []

inductive ExponentText : Text → Option (Bool × Text) → Prop where
  | absent : ExponentText [] none
  | bare {mark : Char} {ds : Text} : isExponentMark mark → IsDigits ds →
      ExponentText (mark :: ds) (some (false, ds))
  | plus {mark : Char} {ds : Text} : isExponentMark mark → IsDigits ds →
      ExponentText (mark :: '+' :: ds) (some (false, ds))
  | minus {mark : Char} {ds : Text} : isExponentMark mark → IsDigits ds →
      ExponentText (mark :: '-' :: ds) (some (true, ds))

inductive NumberText : Text → Literal → Prop where
  | mk {negative : Bool} {whole written : Text} {fraction : Option Text}
      {exponent : Option (Bool × Text)} : IsDigits whole → ¬ hasLeadingZero whole →
      (∀ ds ∈ fraction, IsDigits ds) → ExponentText written exponent →
      NumberText ((if negative then ['-'] else []) ++ (whole ++ (fractionText fraction ++ written)))
        { negative, whole, fraction, exponent }

/-! ## Values -/

inductive ScalarText : Text → Item → Prop where
  | null : ScalarText ['n', 'u', 'l', 'l'] .null
  | true : ScalarText ['t', 'r', 'u', 'e'] (.bool true)
  | false : ScalarText ['f', 'a', 'l', 's', 'e'] (.bool false)
  | text {s t : Text} : Spells s t → ScalarText ('"' :: (s ++ ['"'])) (.text t)
  | integer {s : Text} {l : Literal} {n : Int} : NumberText s l → ¬ l.isTooLarge →
      l.integer? = some n → ScalarText s (.integer n)
  | decimal {s : Text} {l : Literal} : NumberText s l → ¬ l.isTooLarge → l.integer? = none →
      ScalarText s .decimal

inductive IsScalar (purpose : Purpose) : Text → Prop where
  | usable {s : Text} {i : Item} : ScalarText s i → IsScalar purpose s
  | string {s : Text} : purpose = .pass → Quotable s → IsScalar purpose ('"' :: (s ++ ['"']))
  | number {s : Text} {l : Literal} : purpose = .pass → NumberText s l → IsScalar purpose s

structure Spaced where
  before : Text := []
  core : Text
  after : Text := []
  blank : AllBlank (before ++ after) := by simp [AllBlank]

def Spaced.text (v : Spaced) : Text := v.before ++ (v.core ++ v.after)

structure Member where
  before : Text := []
  spelled : Text
  key : Text
  between : Text := []
  value : Spaced
  blank : AllBlank (before ++ between) := by simp [AllBlank]

namespace Member

def text (m : Member) : Text :=
  m.before ++ '"' :: (m.spelled ++ '"' :: (m.between ++ ':' :: m.value.text))

/-- A key that is passed over need not stand for a text. -/
def HasKey (purpose : Purpose) (m : Member) : Prop :=
  match purpose with
  | .use => Spells m.spelled m.key
  | .pass => Quotable m.spelled

end Member

def separated (pieces : List Text) : Text := [','].intercalate pieces

def arrayText (gap : Text) (elements : List Spaced) : Text :=
  '[' :: (separated (elements.map Spaced.text) ++ (gap ++ [']']))

def objectText (gap : Text) (members : List Member) : Text :=
  '\x7b' :: (separated (members.map Member.text) ++ (gap ++ ['\x7d']))

/-- A value with at most `room` brackets open at once in it. -/
inductive IsValue (purpose : Purpose) : Nat → Text → Prop where
  | scalar {room : Nat} {s : Text} : IsScalar purpose s → IsValue purpose room s
  | array {room : Nat} {gap : Text} {elements : List Spaced} : AllBlank gap →
      (∀ e ∈ elements, IsValue purpose room e.core) →
      IsValue purpose (room + 1) (arrayText gap elements)
  | object {room : Nat} {gap : Text} {members : List Member} : AllBlank gap →
      (∀ m ∈ members, m.HasKey purpose) → (∀ m ∈ members, IsValue purpose room m.value.core) →
      IsValue purpose (room + 1) (objectText gap members)

def Ends (t : Text) : Prop := ∀ c ∈ t.head?, isBlank c ∨ c = ',' ∨ c = ']' ∨ c = '\x7d'

end Textmode.Json
