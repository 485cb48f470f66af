import Textmode.Sauce.Block
import Textmode.Text.Indent
import Textmode.Proofs.Bytes
import Textmode.Proofs.Field

/-! Texts cut by the number of octets, where each step is checked. A step that has no result is a
fault, and none of the cuts that fields and indentations are made with comes to one.
-/

set_option autoImplicit false

namespace Textmode.Checked

/-! ## Steps -/

inductive Fault where
  /-- There is no octet at such a place, or no field. -/
  | outOfRange
  | belowZero
  | insideCharacter
  /-- A number does not fit the octet that it was to be put in. -/
  | tooLarge
  /-- A block or field does not have the width it must have. -/
  | wrongWidth
  | divisionByZero
  deriving DecidableEq, Repr

def octetAt (i : Nat) (bytes : Bytes) : Except Fault UInt8 :=
  match bytes[i]? with
  | some b => .ok b
  | none => .error .outOfRange

def between (low high : Nat) (bytes : Bytes) : Except Fault Bytes :=
  if low ≤ high ∧ high ≤ bytes.length then .ok (slice low (high - low) bytes)
  else .error .outOfRange

def minus (m n : Nat) : Except Fault Nat := if n ≤ m then .ok (m - n) else .error .belowZero

def narrow (n : Nat) : Except Fault UInt8 :=
  if n < UInt8.size then .ok (UInt8.ofNat n) else .error .tooLarge

def assertWidth (actual expected : Nat) : Except Fault Unit :=
  if actual = expected then .ok () else .error .wrongWidth

def divide (m n : Nat) : Except Fault Nat :=
  if n = 0 then .error .divisionByZero else .ok (m / n)

theorem octetAt_eq {i : Nat} {bytes : Bytes} (inside : i < bytes.length) :
    octetAt i bytes = .ok (Sauce.Block.octetAt i bytes) := by
  rw [octetAt, Sauce.Block.octetAt, List.getElem?_eq_getElem inside]
  rfl

theorem between_eq {low high : Nat} {bytes : Bytes} (order : low ≤ high)
    (inside : high ≤ bytes.length) : between low high bytes = .ok (slice low (high - low) bytes) :=
  if_pos ⟨order, inside⟩

theorem between_zero {high : Nat} {bytes : Bytes} (inside : high ≤ bytes.length) :
    between 0 high bytes = .ok (bytes.take high) := between_eq (Nat.zero_le high) inside

theorem between_length {low : Nat} {bytes : Bytes} (inside : low ≤ bytes.length) :
    between low bytes.length bytes = .ok (bytes.drop low) := by
  rw [between_eq inside (Nat.le_refl _), slice, List.take_of_length_le]
  rw [List.length_drop]

theorem minus_eq {m n : Nat} (order : n ≤ m) : minus m n = .ok (m - n) := if_pos order

theorem narrow_eq {n : Nat} (small : n < 256) : narrow n = .ok (UInt8.ofNat n) := if_pos small

theorem assertWidth_eq (width : Nat) : assertWidth width width = .ok () := if_pos rfl

@[simp] theorem ok_bind {α β : Type} (a : α) (f : α → Except Fault β) :
    (Except.ok a >>= f) = f a := rfl

@[simp] theorem pure_eq_ok {α : Type} (a : α) : (pure a : Except Fault α) = .ok a := rfl

theorem mapM_eq {α β : Type} {f : α → Except Fault β} {g : α → β} {l : List α}
    (each : ∀ a ∈ l, f a = .ok (g a)) : l.mapM f = .ok (l.map g) := by
  induction l with
  | nil => rfl
  | cons a l ih =>
    have first := each a List.mem_cons_self
    have others := ih fun b later => each b (List.mem_cons_of_mem a later)
    rw [List.mapM_cons, first, others]
    rfl

/-! ## Places in a text -/

/-- A text in two parts, the first one of so many octets. There are none where the place is
within a character or behind the text. -/
def cutAt? : Nat → Text → Option (Text × Text)
  | 0, t => some ([], t)
  | _ + 1, [] => none
  | n + 1, c :: t =>
    if c.utf8Size ≤ n + 1 then
      (cutAt? (n + 1 - c.utf8Size) t).map fun (front, back) => (c :: front, back)
    else none
termination_by _ t => t.length

def isBoundary (n : Nat) (t : Text) : Bool := (cutAt? n t).isSome

def upTo (n : Nat) (t : Text) : Except Fault Text :=
  match cutAt? n t with
  | some (front, _) => .ok front
  | none => .error .insideCharacter

def after (n : Nat) (t : Text) : Except Fault Text :=
  match cutAt? n t with
  | some (_, back) => .ok back
  | none => .error .insideCharacter

theorem cutAt?_size (front back : Text) :
    cutAt? (Utf8.size front) (front ++ back) = some (front, back) := by
  induction front with
  | nil => rw [Utf8.size, List.nil_append, cutAt?]
  | cons c front ih =>
    have some := c.utf8Size_pos
    obtain ⟨n, same⟩ : ∃ n, c.utf8Size + Utf8.size front = n + 1 :=
      Nat.exists_eq_add_one_of_ne_zero (by omega)
    have rest : n + 1 - c.utf8Size = Utf8.size front := by omega
    rw [Utf8.size, same, List.cons_append, cutAt?, if_pos (by omega), rest, ih]
    rfl

theorem eq_of_cutAt? {n : Nat} {t front back : Text} (cut : cutAt? n t = some (front, back)) :
    t = front ++ back ∧ Utf8.size front = n := by
  fun_induction cutAt? n t generalizing front back with
  | case1 t =>
    cases cut
    exact ⟨rfl, rfl⟩
  | case2 => cases cut
  | case3 n c t fits ih =>
    obtain ⟨⟨a, b⟩, rest, same⟩ := Option.map_eq_some_iff.mp cut
    cases same
    obtain ⟨rfl, size⟩ := ih rest
    refine ⟨rfl, ?_⟩
    rw [Utf8.size]
    omega
  | case4 => cases cut

theorem isBoundary_iff {n : Nat} {t : Text} :
    isBoundary n t ↔ ∃ front, front <+: t ∧ Utf8.size front = n := by
  rw [isBoundary, Option.isSome_iff_exists]
  constructor
  · rintro ⟨⟨front, back⟩, cut⟩
    obtain ⟨rfl, size⟩ := eq_of_cutAt? cut
    exact ⟨front, List.prefix_append front back, size⟩
  · rintro ⟨front, ⟨back, rfl⟩, rfl⟩
    exact ⟨_, cutAt?_size front back⟩

theorem upTo_size {front t : Text} (start : front <+: t) :
    upTo (Utf8.size front) t = .ok front := by
  obtain ⟨back, rfl⟩ := start
  rw [upTo, cutAt?_size]

theorem after_size {front t : Text} (start : front <+: t) :
    after (Utf8.size front) t = .ok (t.drop front.length) := by
  obtain ⟨back, rfl⟩ := start
  rw [after, cutAt?_size, List.drop_left]

/-! ## Fields -/

def lastBoundary (t : Text) : Nat → Except Fault Nat
  | 0 => if isBoundary 0 t then .ok 0 else .error .belowZero
  | n + 1 => if isBoundary (n + 1) t then .ok (n + 1) else lastBoundary t n

def truncate (width : Nat) (t : Text) : Except Fault Text := do
  if Utf8.size t ≤ width then return t
  let stop ← lastBoundary t width
  upTo stop t

def resize (fill : UInt8) (width : Nat) (bytes : Bytes) : Bytes :=
  bytes.take width ++ List.replicate (width - bytes.length) fill

def field (fill : UInt8) (width : Nat) (t : Text) : Except Fault Bytes := do
  let start ← truncate width t
  return resize fill width (Utf8.encode start)

open Text (fit)

theorem lastBoundary_eq (t : Text) (n : Nat) : lastBoundary t n = .ok (Utf8.size (fit n t)) := by
  have inside := Text.fit_isPrefix n t
  have fits := Text.size_fit_le n t
  induction n with
  | zero =>
    have start : isBoundary 0 t := isBoundary_iff.mpr ⟨[], List.nil_prefix, rfl⟩
    rw [lastBoundary, if_pos start, Nat.le_zero.mp fits]
  | succ n ih =>
    -- Either the text can be cut here, or the search goes on one octet further to the left.
    rw [lastBoundary]
    split
    · next here =>
      obtain ⟨front, start, size⟩ := isBoundary_iff.mp here
      have longer := Text.size_le_of_isPrefix (Text.isPrefix_fit start size.le)
      have same : Utf8.size (fit (n + 1) t) = n + 1 := by omega
      rw [same]
    · next within =>
      -- Nothing ends at this place, so what fits ends in front of it.
      have shorter : Utf8.size (fit (n + 1) t) ≠ n + 1 :=
        fun size => within (isBoundary_iff.mpr ⟨_, inside, size⟩)
      have same : fit (n + 1) t = fit n t := by
        have less : fit (n + 1) t <+: fit n t := Text.isPrefix_fit inside (by omega)
        have more := Text.isPrefix_fit (Text.fit_isPrefix n t)
          (Nat.le_succ_of_le (Text.size_fit_le n t))
        exact less.eq_of_length_le more.length_le
      rw [same]
      exact ih (Text.fit_isPrefix n t) (Text.size_fit_le n t)

theorem truncate_eq (width : Nat) (t : Text) : truncate width t = .ok (fit width t) := by
  rw [truncate]
  split
  · next fits =>
    rw [Text.fit_eq_self_iff.mpr fits]
    rfl
  · rw [lastBoundary_eq]
    exact upTo_size (Text.fit_isPrefix width t)

theorem field_eq (fill : UInt8) (width : Nat) (t : Text) :
    field fill width t = .ok (Text.field fill width t) := by
  have fits : (Utf8.encode (fit width t)).length ≤ width :=
    (Text.fit_longestWithin width t).fits
  rw [field, truncate_eq, ok_bind, pure_eq_ok, resize, List.take_of_length_le fits, Text.field,
    Utf8.length_encode]

/-! ## Pieces -/

/-- A start of a text that fits, and its first character where that alone is too wide. -/
def firstPiece (width : Nat) (t : Text) : Except Fault Text := do
  let start ← truncate width t
  if start = [] then upTo (t.head?.elim (Utf8.size t) Char.utf8Size) t else return start

def nextPiece (width : Nat) (t : Text) : Except Fault (Text × Text) := do
  let piece ← firstPiece width t
  let rest ← after (Utf8.size piece) t
  return (piece, rest)

theorem fit_zero (t : Text) : fit 0 t = [] := by
  cases t with
  | nil => rfl
  | cons c t => exact if_neg (Nat.not_le.mpr c.utf8Size_pos)

theorem firstPiece_cons (width : Nat) (c : Char) (t : Text) :
    firstPiece width (c :: t) = .ok (c :: fit (width - c.utf8Size) t) := by
  rw [firstPiece, truncate_eq, ok_bind, fit]
  split
  · rw [if_neg (List.cons_ne_nil _ _), pure_eq_ok]
  · next wide =>
    have none : width - c.utf8Size = 0 := by omega
    have start : [c] <+: c :: t := List.prefix_append [c] t
    rw [if_pos rfl, none, fit_zero]
    exact upTo_size start

theorem nextPiece_cons (width : Nat) (c : Char) (t : Text) : nextPiece width (c :: t) =
    .ok (c :: fit (width - c.utf8Size) t, t.drop (fit (width - c.utf8Size) t).length) := by
  have start : c :: fit (width - c.utf8Size) t <+: c :: t :=
    List.cons_prefix_cons.mpr ⟨rfl, Text.fit_isPrefix _ t⟩
  rw [nextPiece, firstPiece_cons, ok_bind, after_size start, ok_bind, pure_eq_ok, List.length_cons,
    List.drop_succ_cons]

def pieces (width : Nat) : Text → Except Fault (List Text)
  | [] => .ok []
  | c :: t =>
    match _next : nextPiece width (c :: t) with
    | .error fault => .error fault
    | .ok (piece, rest) => (pieces width rest).map (piece :: ·)
termination_by t => t.length
decreasing_by
  rw [nextPiece_cons] at _next
  cases _next
  rw [List.length_drop, List.length_cons]
  omega

theorem pieces_eq (width : Nat) (t : Text) : pieces width t = .ok (Text.pieces width t) := by
  induction t using Text.pieces.induct width with
  | case1 => rw [pieces, Text.pieces]
  | case2 c t ih =>
    rw [pieces, nextPiece_cons, Text.pieces]
    dsimp only
    rw [ih]
    rfl

/-! ## What a line of art starts with -/

def places (start : Nat) : Text → List (Nat × Char)
  | [] => []
  | c :: t => (start, c) :: places (start + c.utf8Size) t

def firstOutside (p : Char → Bool) (start : Nat) (t : Text) : Nat :=
  ((places start t).find? fun (_, c) => !p c).elim (start + Utf8.size t) Prod.fst

def leading (line : Text) : Except Fault Text :=
  let bare := dropTrailing Text.isCarriageReturn line
  upTo (firstOutside Text.isLeading 0 bare) bare

theorem firstOutside_eq (p : Char → Bool) (start : Nat) (t : Text) :
    firstOutside p start t = start + Utf8.size (t.takeWhile p) := by
  induction t generalizing start with
  | nil => rfl
  | cons c t ih =>
    rw [firstOutside, places]
    cases inside : p c with
    | true =>
      rw [List.find?_cons_of_neg (by simp [inside]), List.takeWhile_cons_of_pos inside, Utf8.size,
        Utf8.size, ← Nat.add_assoc, ← Nat.add_assoc]
      exact ih (start + c.utf8Size)
    | false =>
      rw [List.find?_cons_of_pos (by simp [inside]), List.takeWhile_cons_of_neg (by simp [inside])]
      rfl

theorem leading_eq (line : Text) : leading line = .ok (Text.leading line) := by
  rw [leading, firstOutside_eq, Nat.zero_add]
  exact upTo_size (List.takeWhile_prefix _)

end Textmode.Checked
