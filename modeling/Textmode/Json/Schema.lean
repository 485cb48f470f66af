import Textmode.Json.Item

/-! Records in JSON. An object gives the fields under their keys, in any order and with
other keys among them, which are passed over. An array gives them in the order of the
schema, as many of them as it has. -/

set_option autoImplicit false

namespace Textmode.Json

structure Schema (φ υ : Type) where
  /-- The fields in the order of an array. -/
  fields : List φ
  key : φ → Text
  value : φ → Text → Except Fault (υ × Text)
  value_le : ∀ {f : φ} {t rest : Text} {v : υ}, value f t = .ok (v, rest) →
    rest.length ≤ t.length

inductive Continuation where
  | more (t : Text)
  | finished (rest : Text)
  deriving DecidableEq

def nextKey (first : Bool) (t : Text) : Except Fault Continuation := do
  let (c, rest) ← nextChar t
  if c = '\x7d' then return .finished rest
  if first then
    if c = '"' then return .more rest else throw .malformed
  else
    if c ≠ ',' then throw .malformed
    let (c, rest) ← nextChar rest
    if c = '"' then return .more rest else throw .malformed

def nextElement (first : Bool) (t : Text) : Except Fault Continuation := do
  let (c, rest) ← nextChar t
  if c = ']' then return .finished rest
  if first then return .more t
  if c ≠ ',' then throw .malformed
  let (c, _) ← nextChar rest
  if c = ']' then throw .malformed else return .more rest

theorem nextKey_shorter {first : Bool} {t rest : Text} (h : nextKey first t = .ok (.more rest)) :
    rest.length < t.length := by
  unfold nextKey at h
  simp only [bind, Except.bind, throw, throwThe, MonadExceptOf.throw, pure, Except.pure] at h
  split at h
  · simp at h
  · next found =>
    have := nextChar_shorter found
    split at h
    · simp at h
    · split at h
      · split at h
        · simp only [Except.ok.injEq, Continuation.more.injEq] at h
          exact h ▸ this
        · simp at h
      · split at h
        · simp at h
        · split at h
          · simp at h
          · next again =>
            have := nextChar_shorter again
            split at h
            · simp only [Except.ok.injEq, Continuation.more.injEq] at h
              simp only [← h]
              omega
            · simp at h

theorem nextKey_finished_le {first : Bool} {t rest : Text}
    (h : nextKey first t = .ok (.finished rest)) : rest.length ≤ t.length := by
  unfold nextKey at h
  simp only [bind, Except.bind, throw, throwThe, MonadExceptOf.throw, pure, Except.pure] at h
  split at h
  · simp at h
  · next found =>
    split at h
    · simp only [Except.ok.injEq, Continuation.finished.injEq] at h
      exact h ▸ Nat.le_of_lt (nextChar_shorter found)
    · split at h
      · split at h <;> simp at h
      · split at h
        · simp at h
        · split at h
          · simp at h
          · split at h <;> simp at h

theorem nextElement_le {first : Bool} {t rest : Text}
    (h : nextElement first t = .ok (.more rest) ∨ nextElement first t = .ok (.finished rest)) :
    rest.length ≤ t.length := by
  unfold nextElement at h
  simp only [bind, Except.bind, throw, throwThe, MonadExceptOf.throw, pure, Except.pure] at h
  cases found : nextChar t with
  | error fault => simp [found] at h
  | ok result =>
    have shorter := nextChar_shorter found
    by_cases ended : result.1 = ']'
    · simp [found, ended] at h
      exact h ▸ Nat.le_of_lt shorter
    · by_cases start : first = true
      · simp [found, ended, start] at h
        exact Nat.le_of_eq (congrArg List.length h.symm)
      · by_cases comma : result.1 = ','
        · cases again : nextChar result.2 with
          | error fault => simp [found, start, comma, again] at h
          | ok after =>
            by_cases trailing : after.1 = ']'
            · simp [found, start, comma, again, trailing] at h
            · simp [found, start, comma, again, trailing] at h
              exact h ▸ Nat.le_of_lt shorter
        · simp [found, ended, start, comma] at h

namespace Schema

variable {φ υ : Type}

/-- One member after the opening quote of its key: a field with its value, or nothing under
an unknown key. A field can have one value only, and a second one is told from its key
already. -/
def member [DecidableEq φ] (schema : Schema φ υ) (found : List (φ × υ)) (t : Text) :
    Except Fault (Option (φ × υ) × Text) := do
  let (key, t) ← unquote .use t
  match schema.fields.find? (schema.key · = key) with
  | none =>
    let t ← colon t
    let t ← skip t
    return (none, t)
  | some field =>
    -- The key is enough: what stands after it does not matter any more.
    if field ∈ found.map Prod.fst then throw .wrongShape
    let t ← colon t
    let (v, t) ← schema.value field t
    return (some (field, v), t)

theorem member_shorter [DecidableEq φ] {schema : Schema φ υ} {found : List (φ × υ)}
    {t rest : Text} {entry : Option (φ × υ)} (h : schema.member found t = .ok (entry, rest)) :
    rest.length < t.length := by
  unfold member at h
  simp only [bind, Except.bind, throw, throwThe, MonadExceptOf.throw, pure, Except.pure] at h
  split at h
  · simp at h
  · next keyOk =>
    have := unquote_shorter keyOk
    split at h
    · split at h
      · simp at h
      · next colonOk =>
        have := colon_shorter colonOk
        split at h
        · simp at h
        · next skipOk =>
          have := skip_le skipOk
          simp only [Except.ok.injEq, Prod.mk.injEq] at h
          simp only [← h.2]
          omega
    · split at h
      · simp at h
      · split at h
        · simp at h
        · next colonOk =>
          have := colon_shorter colonOk
          split at h
          · simp at h
          · next valueOk =>
            have := schema.value_le valueOk
            simp only [Except.ok.injEq, Prod.mk.injEq] at h
            simp only [← h.2]
            omega

def members [DecidableEq φ] (schema : Schema φ υ) (found : List (φ × υ)) (first : Bool) (t : Text) :
    Except Fault (List (φ × υ) × Text) :=
  match _hn : nextKey first t with
  | .error fault => .error fault
  | .ok (.finished rest) => .ok (found, rest)
  | .ok (.more t₁) =>
    match _hm : schema.member found t₁ with
    | .error fault => .error fault
    | .ok (entry, t₂) => members schema (found ++ entry.toList) false t₂
termination_by t.length
decreasing_by exact Nat.lt_trans (member_shorter _hm) (nextKey_shorter _hn)

def elements (schema : Schema φ υ) : List φ → Bool → Text → Except Fault (List (φ × υ) × Text)
  | [], _, t => do
    let (c, rest) ← nextChar t
    if c = ']' then return ([], rest) else throw .malformed
  | field :: fields, first, t => do
    match ← nextElement first t with
    | .finished rest => return ([], rest)
    | .more t =>
      let (v, t) ← schema.value field t
      let (more, rest) ← elements schema fields false t
      return ((field, v) :: more, rest)

/-- A scalar in the place of a record is read first and then refused. -/
def record [DecidableEq φ] (schema : Schema φ υ) (t : Text) : Except Fault (List (φ × υ) × Text) :=
  match nextChar t with
  | .error fault => .error fault
  | .ok (c, rest) =>
    match Bracket.ofChar? c with
    | some .object => schema.members [] true rest
    | some .array => schema.elements schema.fields true rest
    | none =>
      match scalar .use (dropBlank t) with
      | .error fault => .error fault
      | .ok _ => .error .wrongShape

theorem members_le [DecidableEq φ] {schema : Schema φ υ} {found all : List (φ × υ)} {first : Bool}
    {t rest : Text} (h : schema.members found first t = .ok (all, rest)) :
    rest.length ≤ t.length := by
  fun_induction members schema found first t with
  | case2 _ _ _ _ ended =>
    simp only [Except.ok.injEq, Prod.mk.injEq] at h
    exact h.2 ▸ nextKey_finished_le ended
  | case4 _ _ _ _ going _ _ memberOk ih =>
    exact Nat.le_of_lt (Nat.lt_of_le_of_lt (ih h)
      (Nat.lt_trans (member_shorter memberOk) (nextKey_shorter going)))
  | _ => simp at h

theorem elements_le {schema : Schema φ υ} {fields : List φ} {all : List (φ × υ)} {first : Bool}
    {t rest : Text} (h : schema.elements fields first t = .ok (all, rest)) :
    rest.length ≤ t.length := by
  induction fields generalizing first t all rest with
  | nil =>
    unfold elements at h
    simp only [bind, Except.bind, throw, throwThe, MonadExceptOf.throw, pure, Except.pure] at h
    split at h
    · simp at h
    · next found =>
      have := nextChar_shorter found
      split at h
      · simp only [Except.ok.injEq, Prod.mk.injEq] at h
        exact h.2 ▸ Nat.le_of_lt this
      · simp at h
  | cons field fields ih =>
    unfold elements at h
    simp only [bind, Except.bind, pure, Except.pure] at h
    split at h
    · simp at h
    · split at h
      · next ended =>
        simp only [Except.ok.injEq, Prod.mk.injEq] at h
        exact h.2 ▸ nextElement_le (.inr ended)
      · next going =>
        have := nextElement_le (.inl going)
        split at h
        · simp at h
        · next valueOk =>
          have := schema.value_le valueOk
          split at h
          · simp at h
          · next result restOk =>
            simp only [Except.ok.injEq, Prod.mk.injEq] at h
            have : result.2.length ≤ _ := ih restOk
            exact h.2 ▸ Nat.le_trans this (Nat.le_trans ‹_› ‹_›)

theorem record_le [DecidableEq φ] {schema : Schema φ υ} {all : List (φ × υ)} {t rest : Text}
    (h : schema.record t = .ok (all, rest)) : rest.length ≤ t.length := by
  unfold record at h
  split at h
  · simp at h
  · next found =>
    have := nextChar_shorter found
    split at h
    · have := members_le h
      omega
    · have := elements_le h
      omega
    · split at h <;> simp at h

def whole [DecidableEq φ] (schema : Schema φ υ) (t : Text) : Except Fault (List (φ × υ)) := do
  let (found, rest) ← schema.record t
  if dropBlank rest = [] then return found else throw .malformed

end Schema

end Textmode.Json
