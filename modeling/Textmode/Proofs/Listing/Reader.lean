import Textmode.Sauce.Listing.Reader
import Textmode.Proofs.Json.Objects

/-! What the fields of a listing make of well-formed values: each reads to the end of its value or
finds it wrong, wherever the value stands.
-/

set_option autoImplicit false

namespace Textmode.Sauce.Listing

open Json

variable {α : Type} {purpose kind : Purpose} {depth : Nat} {v s : Text} {i : Item}

def accepted (read? : Item → Option α) (i : Item) : Except Fault Item :=
  if i = .null ∨ (read? i).isSome then .ok i else .error .wrongShape

theorem checked_eq (read? : Item → Option α) (i : Item) (rest : Text) :
    checked read? (i, rest) = (accepted read? i).map (·, rest) := by
  rw [checked, accepted]
  split <;> rfl

theorem takes_checked {read : Text → Except Fault (Item × Text)} {o : Except Fault Item}
    (takes : Takes read v o) (read? : Item → Option α) :
    Takes (fun t => (read t).bind (checked read?)) v (o.bind (accepted read?)) := by
  intro gap rest blank ends
  simp only [takes gap rest blank ends]
  cases o with
  | error fault => rfl
  | ok i => exact checked_eq read? i rest

/-! ## Texts -/

theorem textValue_scalar (written : IsScalar kind s) {gap : Text} (blank : AllBlank gap)
    (rest : Text) :
    textValue (gap ++ (s ++ rest)) = (scalar .use (s ++ rest)).bind (checked Item.text?) := by
  obtain ⟨c, t, rfl, dark, _, plain⟩ := written.exists_cons
  rw [List.cons_append, textValue, nextChar_append blank dark]
  simp only [bind, Except.bind]
  rw [plain, dropBlank_append blank dark]

theorem textValue_brackets {c : Char} {bracket : Bracket} (opens : Bracket.ofChar? c = some bracket)
    {gap : Text} (blank : AllBlank gap) (t : Text) :
    textValue (gap ++ c :: t) = .error .wrongShape := by
  rw [textValue, nextChar_append blank (Bracket.ofChar?_eq_some opens).1]
  simp only [bind, Except.bind]
  rw [opens]
  rfl

theorem takes_textValue_scalar (written : ScalarText s i) :
    Takes textValue s (accepted Item.text? i) := by
  intro gap rest blank ends
  have plain : IsScalar .use s := .usable written
  rw [textValue_scalar plain blank, scalar_of_scalarText written ends]
  exact checked_eq Item.text? i rest

theorem takes_textValue (value : IsValue kind depth v) : ∃ o, Takes textValue v o := by
  cases value with
  | scalar written =>
    obtain ⟨o, -, read⟩ := scalar_of_isScalar .use written
    refine ⟨o.bind (accepted Item.text?), fun gap rest blank ends => ?_⟩
    rw [textValue_scalar written blank, read rest ends]
    cases o with
    | error fault => rfl
    | ok i => exact checked_eq Item.text? i rest
  | array _ _ =>
    exact ⟨.error .wrongShape, fun gap rest blank _ => textValue_brackets rfl blank _⟩
  | object _ _ _ =>
    exact ⟨.error .wrongShape, fun gap rest blank _ => textValue_brackets rfl blank _⟩

/-! ## Parts of the flags -/

theorem flagValue_iceColors : flagValue .iceColors =
    fun t => (Json.item (maxDepth - 2) t).bind (checked switch?) := by
  funext t
  rfl

theorem flagValue_number {field : FlagField} {bound : Nat} (number : field.bound? = some bound) :
    flagValue field = Json.item (maxDepth - 2) := by
  cases field with
  | iceColors => cases number
  | letterSpacing | aspectRatio =>
    funext t
    rw [flagValue]
    exact bind_pure (Json.item (maxDepth - 2) t)

theorem settled_flags : flagSchema.Settled := by
  intro field kind depth v value
  obtain ⟨o, takes, -⟩ := takes_item value (maxDepth - 2)
  change ∃ o, Takes (flagValue field) v o
  cases field with
  | iceColors => exact ⟨_, flagValue_iceColors ▸ takes_checked takes switch?⟩
  | letterSpacing | aspectRatio =>
    rw [flagValue_number rfl]
    exact ⟨o, takes⟩

theorem partsValue_record {c : Char} (dark : ¬ isBlank c) (notNull : c ≠ 'n') {t : Text}
    {o : Except Fault (List (FlagField × Item))} (takes : Takes flagSchema.record (c :: t) o) :
    Takes partsValue (c :: t) (o.map .parts) := by
  intro gap rest blank ends
  rw [partsValue, List.cons_append, nextChar_append blank dark]
  simp only [bind, Except.bind]
  rw [if_neg notNull, ← List.cons_append, takes gap rest blank ends]
  cases o <;> rfl

theorem partsValue_null (t : Text) {gap : Text} (blank : AllBlank gap) :
    partsValue (gap ++ 'n' :: t) =
      (scalar .use ('n' :: t)).map fun (i, rest) => (.item i, rest) := by
  rw [partsValue, nextChar_append blank (by decide)]
  simp only [bind, Except.bind, if_true]
  rw [dropBlank_append blank (by decide)]
  cases scalar .use ('n' :: t) <;> rfl

theorem takes_partsValue (value : IsValue kind depth v) : ∃ o, Takes partsValue v o := by
  obtain ⟨o, takes⟩ := Schema.takes_record settled_flags value
  obtain ⟨c, t, same, dark, -⟩ := value.exists_cons
  by_cases isNull : c = 'n'
  · subst isNull
    cases value with
    | scalar written =>
      obtain ⟨o, -, read⟩ := scalar_of_isScalar .use written
      subst same
      refine ⟨o.map .item, fun gap rest blank ends => ?_⟩
      have scanned := read rest ends
      rw [List.cons_append] at scanned ⊢
      rw [partsValue_null _ blank, scanned]
      cases o <;> rfl
    | array _ _ => cases same
    | object _ _ _ => cases same
  · subst same
    exact ⟨_, partsValue_record dark isNull takes⟩

/-! ## Fields -/

theorem value_number {field : Field} {bound : Nat} (number : field.bound? = some bound) :
    value field = fun t => (Json.item (maxDepth - 1) t).map fun (i, rest) => (.item i, rest) := by
  cases field with
  | fileSize | dataType | fileType | tinfo1 | tinfo2 | tinfo3 | tinfo4 | flags => rfl
  | _ => cases number

theorem settled : schema.Settled := by
  intro field kind depth v value
  change ∃ o, Takes (Listing.value field) v o
  obtain ⟨i, takesItem, -⟩ := takes_item value (maxDepth - 1)
  obtain ⟨t, takesText⟩ := takes_textValue value
  cases field with
  | title | author | group | fontName | comments => exact ⟨_, takesText.map Entry.item⟩
  | date => exact ⟨_, (takes_checked takesItem ListedDate.ofItem?).map Entry.item⟩
  | splitFlags => exact takes_partsValue value
  | _ => exact ⟨_, takesItem.map Entry.item⟩

end Textmode.Sauce.Listing
