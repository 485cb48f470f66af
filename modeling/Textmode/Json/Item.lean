import Textmode.Json.Number

/-! Values of JSON, as far as a record can use them. A value with brackets has no use, so
only its extent is found; that takes a stack of open brackets and no recursion on the
value. -/

set_option autoImplicit false

namespace Textmode.Json

inductive Item where
  | null
  | bool (b : Bool)
  | integer (n : Int)
  /-- A number that is no integer by the way it is written. -/
  | decimal
  | text (t : Text)
  | compound
  deriving DecidableEq, Repr

namespace Item

def text? : Item → Option Text
  | text t => some t
  | _ => none

def below? (i : Item) (bound : Nat) : Option Nat :=
  match i with
  | integer n => if 0 ≤ n ∧ n < bound then some n.toNat else none
  | _ => none

end Item

inductive Bracket where
  | array
  | object
  deriving DecidableEq, Repr

inductive Expect where
  | value
  | firstElement
  | firstKey
  | key
  | next
  deriving DecidableEq, Repr

def isBlank (c : Char) : Bool := c = ' ' || c = '\t' || c = '\n' || c = '\r'

def dropBlank (t : Text) : Text := t.dropWhile isBlank

theorem length_dropBlank_le (t : Text) : (dropBlank t).length ≤ t.length :=
  (List.dropWhile_suffix _).length_le

def word : Text → Text → Except Fault Text
  | [], t => .ok t
  | _ :: _, [] => .error .endOfText
  | e :: es, c :: t => if c = e then word es t else .error .malformed

theorem word_le {w t rest : Text} (h : word w t = .ok rest) : rest.length ≤ t.length := by
  fun_induction word w t with
  | case1 t => simp_all
  | case2 => simp at h
  | case3 es c t ih => exact Nat.le_succ_of_le (ih h)
  | case4 => simp at h

def number (purpose : Purpose) (t : Text) : Except Fault (Item × Text) :=
  match literal purpose t with
  | .error fault => .error fault
  | .ok (l, rest) =>
    if purpose = .use ∧ l.isTooLarge then .error .malformed
    else match l.integer? with
      | some n => .ok (.integer n, rest)
      | none => .ok (.decimal, rest)

def scalar (purpose : Purpose) : Text → Except Fault (Item × Text)
  | [] => .error .endOfText
  | c :: t =>
    if c = 'n' then (word ['u', 'l', 'l'] t).map (.null, ·)
    else if c = 't' then (word ['r', 'u', 'e'] t).map (.bool true, ·)
    else if c = 'f' then (word ['a', 'l', 's', 'e'] t).map (.bool false, ·)
    else if c = '"' then (unquote purpose t).map fun (text, rest) => (.text text, rest)
    else if c = '-' ∨ Decimal.isDigit c then number purpose (c :: t)
    else .error .malformed

theorem number_shorter {purpose : Purpose} {t rest : Text} {item : Item}
    (h : number purpose t = .ok (item, rest)) : rest.length < t.length := by
  unfold number at h
  split at h
  · simp at h
  · next found =>
    have := literal_shorter found
    split at h
    · simp at h
    · split at h <;>
      · simp only [Except.ok.injEq, Prod.mk.injEq] at h
        exact h.2 ▸ this

theorem map_eq_ok {α β ε : Type} {f : α → β} {e : Except ε α} {b : β} (h : e.map f = .ok b) :
    ∃ a, e = .ok a ∧ f a = b := by
  cases e with
  | error fault => simp [Except.map] at h
  | ok a => exact ⟨a, rfl, by simpa [Except.map] using h⟩

theorem scalar_shorter {purpose : Purpose} {t rest : Text} {item : Item}
    (h : scalar purpose t = .ok (item, rest)) : rest.length < t.length := by
  have ofWord {w t rest : Text} {item item' : Item}
      (h : (word w t).map (Prod.mk item') = .ok (item, rest)) : rest.length < t.length + 1 := by
    obtain ⟨_, found, same⟩ := map_eq_ok h
    simp only [Prod.mk.injEq] at same
    have := word_le found
    simp only [← same.2]
    omega
  unfold scalar at h
  split at h
  · simp at h
  · next c t =>
    split at h
    · exact ofWord h
    · split at h
      · exact ofWord h
      · split at h
        · exact ofWord h
        · split at h
          · obtain ⟨_, found, same⟩ := map_eq_ok h
            have := unquote_shorter found
            simp only [Prod.mk.injEq] at same
            simp only [← same.2, List.length_cons]
            omega
          · split at h
            · exact number_shorter h
            · simp at h

def nextChar (t : Text) : Except Fault (Char × Text) :=
  match dropBlank t with
  | [] => .error .endOfText
  | c :: rest => .ok (c, rest)

theorem nextChar_shorter {t rest : Text} {c : Char} (h : nextChar t = .ok (c, rest)) :
    rest.length < t.length := by
  unfold nextChar at h
  have blank := length_dropBlank_le t
  cases eq : dropBlank t with
  | nil => simp [eq] at h
  | cons c tail =>
    rw [eq, List.length_cons] at blank
    simp only [eq, Except.ok.injEq, Prod.mk.injEq] at h
    exact h.2 ▸ blank

def colon (t : Text) : Except Fault Text := do
  let (c, rest) ← nextChar t
  if c = ':' then return rest else throw .malformed

theorem colon_shorter {t rest : Text} (h : colon t = .ok rest) : rest.length < t.length := by
  unfold colon at h
  simp only [bind, Except.bind, throw, throwThe, MonadExceptOf.throw, pure, Except.pure] at h
  split at h
  · simp at h
  · next found =>
    have := nextChar_shorter found
    split at h
    · simp only [Except.ok.injEq] at h
      exact h ▸ this
    · simp at h

def afterKey (purpose : Purpose) (t : Text) : Except Fault Text := do
  let (_, rest) ← unquote purpose t
  colon rest

theorem afterKey_shorter {purpose : Purpose} {t rest : Text}
    (h : afterKey purpose t = .ok rest) : rest.length < t.length := by
  unfold afterKey at h
  simp only [bind, Except.bind] at h
  split at h
  · simp at h
  · next found => exact Nat.lt_trans (colon_shorter h) (unquote_shorter found)

def Bracket.first : Bracket → Expect
  | array => .firstElement
  | object => .firstKey

def Bracket.afterComma : Bracket → Expect
  | array => .value
  | object => .key

def Bracket.close : Bracket → Char
  | array => ']'
  | object => '\x7d'

def Bracket.ofChar? (c : Char) : Option Bracket :=
  if c = '[' then some .array else if c = '\x7b' then some .object else none

/-- An empty array shows only after a look at what an element could be. -/
def Expect.rank : Expect → Nat
  | firstElement => 1
  | _ => 0

/-- What follows the value that is being read, inside the brackets `stack`, the innermost
first. At most `room` brackets can be open at once in a value that is used. -/
def afterValue (purpose : Purpose) (room : Nat) (stack : List Bracket) (expect : Expect)
    (t : Text) : Except Fault Text :=
  match expect, stack with
  | .next, [] => .ok t
  | .next, bracket :: outer =>
    match _h : nextChar t with
    | .error fault => .error fault
    | .ok (c, rest) =>
      if c = ',' then afterValue purpose room stack bracket.afterComma rest
      else if c = bracket.close then afterValue purpose room outer .next rest
      else .error .malformed
  | .value, _ =>
    match _h : nextChar t with
    | .error fault => .error fault
    | .ok (c, rest) =>
      match Bracket.ofChar? c with
      | some bracket =>
        if purpose = .use ∧ room ≤ stack.length then .error .malformed
        else afterValue purpose room (bracket :: stack) bracket.first rest
      | none =>
        match _hs : scalar purpose (dropBlank t) with
        | .error fault => .error fault
        | .ok (_, rest) => afterValue purpose room stack .next rest
  | .firstElement, _ =>
    match _h : nextChar t with
    | .error fault => .error fault
    | .ok (c, rest) =>
      -- What was looked at is still to be read if it is a value.
      if c = ']' then afterValue purpose room stack.tail .next rest
      else afterValue purpose room stack .value t
  | .firstKey, _ =>
    match _h : nextChar t with
    | .error fault => .error fault
    | .ok (c, rest) =>
      if c = '\x7d' then afterValue purpose room stack.tail .next rest
      else if c = '"' then
        match _hk : afterKey purpose rest with
        | .error fault => .error fault
        | .ok rest => afterValue purpose room stack .value rest
      else .error .malformed
  | .key, _ =>
    match _h : nextChar t with
    | .error fault => .error fault
    | .ok (c, rest) =>
      if c = '"' then
        match _hk : afterKey purpose rest with
        | .error fault => .error fault
        | .ok rest => afterValue purpose room stack .value rest
      else .error .malformed
termination_by (t.length, expect.rank)
decreasing_by
  · exact .left _ _ (nextChar_shorter _h)
  · exact .left _ _ (nextChar_shorter _h)
  · exact .left _ _ (nextChar_shorter _h)
  · exact .left _ _ (Nat.lt_of_lt_of_le (scalar_shorter _hs) (length_dropBlank_le t))
  · exact .left _ _ (nextChar_shorter _h)
  · exact .right _ (by decide)
  · exact .left _ _ (nextChar_shorter _h)
  · exact .left _ _ (Nat.lt_trans (afterKey_shorter _hk) (nextChar_shorter _h))
  · exact .left _ _ (Nat.lt_trans (afterKey_shorter _hk) (nextChar_shorter _h))

theorem afterValue_le {purpose : Purpose} {room : Nat} {stack : List Bracket} {expect : Expect}
    {t rest : Text} (h : afterValue purpose room stack expect t = .ok rest) :
    rest.length ≤ t.length := by
  fun_induction afterValue purpose room stack expect t with
  | case1 => exact Nat.le_of_eq (by simp_all)
  | case3 | case4 | case12 | case15 =>
    exact Nat.le_of_lt (Nat.lt_of_le_of_lt (‹_ → rest.length ≤ _› h)
      (nextChar_shorter ‹nextChar _ = .ok _›))
  | case8 _ _ _ _ next _ _ shallow ih =>
    rw [if_neg shallow] at h
    exact Nat.le_of_lt (Nat.lt_of_le_of_lt (ih h) (nextChar_shorter next))
  | case10 _ t _ _ _ _ _ _ found ih =>
    exact Nat.le_trans (ih h)
      (Nat.le_of_lt (Nat.lt_of_lt_of_le (scalar_shorter found) (length_dropBlank_le t)))
  | case13 _ _ _ _ _ _ ih => exact ih h
  | case17 | case21 =>
    exact Nat.le_of_lt (Nat.lt_of_le_of_lt (‹_ → rest.length ≤ _› h)
      (Nat.lt_trans (afterKey_shorter ‹afterKey _ _ = .ok _›)
        (nextChar_shorter ‹nextChar _ = .ok _›)))
  | _ => simp_all

def item (room : Nat) (t : Text) : Except Fault (Item × Text) :=
  match nextChar t with
  | .error fault => .error fault
  | .ok (c, _) =>
    match Bracket.ofChar? c with
    | some _ => (afterValue .use room [] .value t).map (.compound, ·)
    | none => scalar .use (dropBlank t)

theorem item_le {room : Nat} {t rest : Text} {found : Item} (h : item room t = .ok (found, rest)) :
    rest.length ≤ t.length := by
  unfold item at h
  split at h
  · simp at h
  · split at h
    · obtain ⟨_, passed, same⟩ := map_eq_ok h
      simp only [Prod.mk.injEq] at same
      exact same.2 ▸ afterValue_le passed
    · exact Nat.le_trans (Nat.le_of_lt (scalar_shorter h)) (length_dropBlank_le t)

/-- What follows a value that is passed over. Nothing limits its depth. -/
def skip (t : Text) : Except Fault Text := afterValue .pass 0 [] .value t

theorem skip_le {t rest : Text} (h : skip t = .ok rest) : rest.length ≤ t.length := afterValue_le h

end Textmode.Json
