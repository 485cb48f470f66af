import Textmode.Proofs.Decimal
import Textmode.Proofs.Painting

/-! The HTML of art as a language of its own, whatever the art. Its markup says how text looks, and
without the markup it is the text.
-/

set_option autoImplicit false

namespace Textmode.Ansi.Html

/-! ## The language -/

def reserved : List Char := ['<', '>', '&', '"', '\'']

def entities : List Text :=
  ["&lt;".toList, "&gt;".toList, "&amp;".toList, "&quot;".toList, "&#x27;".toList]

inductive PlainMarkup : Text → Prop where
  | nil : PlainMarkup []
  | char {c : Char} {t : Text} : c ∉ reserved → PlainMarkup t → PlainMarkup (c :: t)
  | entity {e t : Text} : e ∈ entities → PlainMarkup t → PlainMarkup (e ++ t)

/-- Text in which some of it blinks. Nothing blinks within what blinks. -/
inductive InnerMarkup : Text → Prop where
  | nil : InnerMarkup []
  | still {p t : Text} : PlainMarkup p → InnerMarkup t → InnerMarkup (p ++ t)
  | blinking {p t : Text} : PlainMarkup p → InnerMarkup t →
      InnerMarkup ("<span class='blink'>".toList ++ p ++ "</span>".toList ++ t)

inductive PropertyMarkup : Text → Prop where
  | color {n : Nat} : n ≤ 15 →
      PropertyMarkup ("color: var(--c".toList ++ Decimal.digits n ++ [')'])
  | background {n : Nat} : 1 ≤ n → n ≤ 7 →
      PropertyMarkup ("background-color: var(--c".toList ++ Decimal.digits n ++ [')'])
  | underlined : PropertyMarkup "text-decoration: underline".toList

def StyleMarkup (style : Text) : Prop :=
  ∃ properties : List Text, properties ≠ [] ∧ (∀ p ∈ properties, PropertyMarkup p) ∧
    style = "; ".toList.intercalate properties

inductive Markup : Text → Prop where
  | nil : Markup []
  | bare {inner t : Text} : InnerMarkup inner → Markup t → Markup (inner ++ t)
  | styled {style inner t : Text} : StyleMarkup style → InnerMarkup inner → Markup t →
      Markup ("<span style='".toList ++ style ++ "'>".toList ++ inner ++ "</span>".toList ++ t)

def dropTags : Text → Text := go false
where
  go : Bool → Text → Text
    | _, [] => []
    | false, c :: t => if c = '<' then go true t else c :: go false t
    | true, c :: t => if c = '>' then go false t else go true t

def unescape : Text → Text
  | '&' :: 'l' :: 't' :: ';' :: t => '<' :: unescape t
  | '&' :: 'g' :: 't' :: ';' :: t => '>' :: unescape t
  | '&' :: 'a' :: 'm' :: 'p' :: ';' :: t => '&' :: unescape t
  | '&' :: 'q' :: 'u' :: 'o' :: 't' :: ';' :: t => '"' :: unescape t
  | '&' :: '#' :: 'x' :: '2' :: '7' :: ';' :: t => '\'' :: unescape t
  | c :: t => c :: unescape t
  | [] => []

/-! ## Escaped text -/

theorem unescape_cons {c : Char} (other : c ≠ '&') (t : Text) :
    unescape (c :: t) = c :: unescape t := by
  simp [unescape, other]

theorem entity_cases (c : Char) :
    (c ∉ reserved ∧ entity c = [c]) ∨
      (entity c ∈ entities ∧ ∀ t, unescape (entity c ++ t) = c :: unescape t) := by
  by_cases free : c ∈ reserved
  · right
    -- Each reserved character has an entity, which nothing behind it can change.
    simp only [reserved, List.mem_cons, List.not_mem_nil, or_false] at free
    rcases free with rfl | rfl | rfl | rfl | rfl <;> exact ⟨by decide, fun _ => rfl⟩
  · left
    refine ⟨free, ?_⟩
    simp only [reserved, List.mem_cons, List.not_mem_nil, or_false, not_or] at free
    simp [entity, free]

theorem plainMarkup_escape (t : Text) : PlainMarkup (escape t) := by
  induction t with
  | nil => exact .nil
  | cons c t ih =>
    rw [escape, List.flatMap_cons, ← escape]
    obtain ⟨free, same⟩ | ⟨member, _⟩ := entity_cases c
    · rw [same]
      exact .char free ih
    · exact .entity member ih

theorem unescape_escape (t : Text) : unescape (escape t) = t := by
  induction t with
  | nil => rfl
  | cons c t ih =>
    rw [escape, List.flatMap_cons, ← escape]
    obtain ⟨free, same⟩ | ⟨_, read⟩ := entity_cases c
    · have other : c ≠ '&' := by
        rintro rfl
        exact free (by decide)
      rw [same, List.singleton_append, unescape_cons other, ih]
    · rw [read, ih]

theorem PlainMarkup.not_mem {t : Text} (plain : PlainMarkup t) : '<' ∉ t := by
  induction plain with
  | nil => exact List.not_mem_nil
  | char free _ ih =>
    intro member
    rcases List.mem_cons.mp member with rfl | later
    · exact free (by decide)
    · exact ih later
  | entity known _ ih =>
    have none : ∀ e ∈ entities, '<' ∉ e := by decide
    exact List.not_mem_append (none _ known) ih

/-! ## Text without its tags -/

def IsTag (tag : Text) : Prop := ∃ inside, tag = '<' :: (inside ++ ['>']) ∧ '>' ∉ inside

theorem isTag_blink : IsTag "<span class='blink'>".toList :=
  ⟨"span class='blink'".toList, rfl, by decide⟩

theorem isTag_close : IsTag "</span>".toList := ⟨"/span".toList, rfl, by decide⟩

theorem dropTags_append {t : Text} (free : '<' ∉ t) (rest : Text) :
    dropTags (t ++ rest) = t ++ dropTags rest := by
  induction t with
  | nil => rfl
  | cons c t ih =>
    rw [List.mem_cons, not_or] at free
    have step : dropTags (c :: (t ++ rest)) = c :: dropTags (t ++ rest) := by
      rw [dropTags, dropTags.go, if_neg (Ne.symm free.1), ← dropTags]
    rw [List.cons_append, step, ih free.2, List.cons_append]

theorem IsTag.dropTags_append {tag : Text} (isTag : IsTag tag) (rest : Text) :
    dropTags (tag ++ rest) = dropTags rest := by
  obtain ⟨inside, rfl, free⟩ := isTag
  -- Within the tag everything is dropped, up to the bracket that ends it.
  have skip : dropTags.go true (inside ++ '>' :: rest) = dropTags.go false rest := by
    induction inside with
    | nil => rfl
    | cons c inside ih =>
      rw [List.mem_cons, not_or] at free
      rw [List.cons_append, dropTags.go, if_neg (Ne.symm free.1), ih free.2]
  rw [List.cons_append, List.append_assoc, List.singleton_append, dropTags, dropTags.go, if_pos rfl,
    skip, ← dropTags]

theorem dropTags_escape (t rest : Text) : dropTags (escape t ++ rest) = escape t ++ dropTags rest :=
  dropTags_append (plainMarkup_escape t).not_mem rest

/-! ## Pieces and runs -/

def Piece.shown : Piece → Text
  | still t => t
  | blinking t => t

def Run.shown (run : Run) : Text := run.pieces.flatMap Piece.shown

theorem Piece.toHtml_still (t : Text) : (still t).toHtml = escape t := rfl

theorem Piece.toHtml_blinking (t : Text) : (blinking t).toHtml =
    "<span class='blink'>".toList ++ escape t ++ "</span>".toList := rfl

theorem innerMarkup_pieces (pieces : List Piece) :
    InnerMarkup (pieces.flatMap Piece.toHtml) := by
  induction pieces with
  | nil => exact .nil
  | cons piece pieces ih =>
    rw [List.flatMap_cons]
    cases piece with
    | still t =>
      rw [Piece.toHtml_still]
      exact .still (plainMarkup_escape t) ih
    | blinking t =>
      rw [Piece.toHtml_blinking]
      exact .blinking (plainMarkup_escape t) ih

theorem escape_append (t rest : Text) : escape (t ++ rest) = escape t ++ escape rest :=
  List.flatMap_append

theorem dropTags_piece (piece : Piece) (rest : Text) :
    dropTags (piece.toHtml ++ rest) = escape piece.shown ++ dropTags rest := by
  cases piece with
  | still t => exact dropTags_escape t rest
  | blinking t =>
    rw [Piece.toHtml_blinking, Piece.shown, List.append_assoc, List.append_assoc,
      isTag_blink.dropTags_append, dropTags_escape, isTag_close.dropTags_append]

theorem drop_pieces {drop : Text → Text}
    (each : ∀ (piece : Piece) (rest : Text),
      drop (piece.toHtml ++ rest) = escape piece.shown ++ drop rest)
    (pieces : List Piece) (rest : Text) :
    drop (pieces.flatMap Piece.toHtml ++ rest) =
      escape (pieces.flatMap Piece.shown) ++ drop rest := by
  induction pieces with
  | nil => rfl
  | cons piece pieces ih =>
    rw [List.flatMap_cons, List.append_assoc, each, ih, List.flatMap_cons, escape_append,
      List.append_assoc]

theorem flatten_stretches (t : Text) : (stretches t).flatten = t := by
  fun_induction stretches t with
  | case1 => rfl
  | case2 c t _ ih => rw [List.flatten_cons, ih, List.cons_append, List.takeWhile_append_dropWhile]
  | case3 c t _ ih => rw [List.flatten_cons, ih, List.cons_append, List.takeWhile_append_dropWhile]

theorem Piece.shown_ofStretch (t : Text) : (ofStretch t).shown = t := by
  unfold ofStretch
  split <;> rfl

/-- Where text blinks, nothing of it is lost between the words. -/
theorem shown_of (pen : Pen) (t : Text) : (Run.of pen t).shown = t := by
  unfold Run.of Run.shown
  dsimp only
  split
  · rw [List.flatMap_map, List.flatMap_congr fun s _ => Piece.shown_ofStretch s, List.flatMap_id']
    exact flatten_stretches t
  · simp [Piece.shown]

/-! ## Styles -/

theorem cases_of_mem_intercalate {c : Char} {separator : Text} {parts : List Text}
    (member : c ∈ separator.intercalate parts) : c ∈ separator ∨ ∃ part ∈ parts, c ∈ part := by
  induction parts with
  | nil => cases member
  | cons part parts ih =>
    cases parts with
    | nil => exact .inr ⟨part, List.mem_cons_self, by simpa using member⟩
    | cons next parts =>
      rw [List.intercalate_cons_cons, List.mem_append, List.mem_append] at member
      rcases member with (first | between) | later
      · exact .inr ⟨part, List.mem_cons_self, first⟩
      · exact .inl between
      · obtain here | ⟨other, inside, here⟩ := ih later
        · exact .inl here
        · exact .inr ⟨other, List.mem_cons_of_mem part inside, here⟩

/-- The characters of properties, those of numbers apart. -/
def propertyChars : List Char := "background-color: var(--c)text-decoration: underline".toList

theorem cases_of_mem_text {property : Property} {c : Char} (member : c ∈ property.text) :
    c ∈ propertyChars ∨ Decimal.isDigit c := by
  have fixed : ∀ part ∈ ["color: var(--c".toList, "background-color: var(--c".toList, [')'],
      "text-decoration: underline".toList], part ⊆ propertyChars := by decide
  cases property with
  | underlined => exact .inl (fixed _ (by decide) member)
  | color n =>
    rcases List.mem_append.mp member with front | last
    · rcases List.mem_append.mp front with name | digit
      · exact .inl (fixed _ (by decide) name)
      · exact .inr (Decimal.isDigit_of_mem_digits digit)
    · exact .inl (fixed _ (by decide) last)
  | background n =>
    rcases List.mem_append.mp member with front | last
    · rcases List.mem_append.mp front with name | digit
      · exact .inl (fixed _ (by decide) name)
      · exact .inr (Decimal.isDigit_of_mem_digits digit)
    · exact .inl (fixed _ (by decide) last)

theorem not_mem_text {c : Char} (other : c ∉ propertyChars) (noDigit : ¬ Decimal.isDigit c)
    (property : Property) : c ∉ property.text := by
  intro member
  obtain fixed | digit := cases_of_mem_text member
  · exact other fixed
  · exact noDigit digit

theorem not_mem_styleText {c : Char} (separator : c ∉ "; ".toList) (other : c ∉ propertyChars)
    (noDigit : ¬ Decimal.isDigit c) (style : List Property) : c ∉ styleText style := by
  intro member
  obtain between | ⟨part, here, inside⟩ := cases_of_mem_intercalate member
  · exact separator between
  · obtain ⟨property, _, rfl⟩ := List.mem_map.mp here
    exact not_mem_text other noDigit property inside

theorem PropertyMarkup.exists_property {p : Text} (markup : PropertyMarkup p) :
    ∃ property : Property, p = property.text := by
  cases markup with
  | @color n _ => exact ⟨.color n, rfl⟩
  | @background n _ _ => exact ⟨.background n, rfl⟩
  | underlined => exact ⟨.underlined, rfl⟩

theorem StyleMarkup.isTag {style : Text} (markup : StyleMarkup style) :
    IsTag ("<span style='".toList ++ style ++ "'>".toList) := by
  obtain ⟨properties, _, known, rfl⟩ := markup
  have free : '>' ∉ "; ".toList.intercalate properties := by
    intro member
    obtain between | ⟨p, here, inside⟩ := cases_of_mem_intercalate member
    · exact absurd between (by decide)
    · obtain ⟨property, rfl⟩ := (known p here).exists_property
      exact not_mem_text (by decide) (by decide) property inside
  refine ⟨"span style='".toList ++ "; ".toList.intercalate properties ++ "'".toList, ?_, ?_⟩
  · simp
  · exact List.not_mem_append (List.not_mem_append (by decide) free) (by decide)

theorem mem_style_iff {pen : Pen} {p : Property} : p ∈ pen.style ↔
    (pen.foregroundCode ≠ 7 ∧ p = .color pen.foregroundCode) ∨
      (pen.background ≠ 0 ∧ p = .background pen.background.toNat) ∨
      (pen.underline ∧ p = .underlined) := by
  simp only [Pen.style, List.mem_append, List.mem_ite_nil_left, List.mem_ite_nil_right,
    List.mem_singleton, or_assoc, ne_eq]

theorem propertyMarkup_of_mem_style {pen : Pen} (standard : pen.Standard) {p : Property}
    (member : p ∈ pen.style) : PropertyMarkup p.text := by
  have low : pen.foreground.toNat < 8 := UInt8.lt_iff_toNat_lt.mp standard.foreground
  have ground : pen.background.toNat < 8 := UInt8.lt_iff_toNat_lt.mp standard.background
  obtain ⟨_, rfl⟩ | ⟨other, rfl⟩ | ⟨_, rfl⟩ := mem_style_iff.mp member
  · refine .color ?_
    unfold Pen.foregroundCode
    split <;> omega
  · have some : pen.background.toNat ≠ 0 := fun none => other (UInt8.toNat_inj.mp none)
    exact .background (by omega) (by omega)
  · exact .underlined

theorem styleMarkup_styleText {pen : Pen} (standard : pen.Standard) (some : pen.style ≠ []) :
    StyleMarkup (styleText pen.style) := by
  refine ⟨pen.style.map Property.text, by simpa using some, ?_, rfl⟩
  intro p member
  obtain ⟨property, here, rfl⟩ := List.mem_map.mp member
  exact propertyMarkup_of_mem_style standard here

/-! ## Art -/

theorem Run.toHtml_bare {run : Run} (bare : run.style = []) :
    run.toHtml = run.pieces.flatMap Piece.toHtml := if_pos bare

theorem Run.toHtml_styled {run : Run} (styled : run.style ≠ []) :
    run.toHtml = "<span style='".toList ++ styleText run.style ++ "'>".toList ++
      run.pieces.flatMap Piece.toHtml ++ "</span>".toList := if_neg styled

variable {pen last : Pen} {is : List Instruction} {runs : List Run} {rest : Text}

theorem markup_run_append (standard : pen.Standard) (t : Text) (markup : Markup rest) :
    Markup ((Run.of pen t).toHtml ++ rest) := by
  by_cases bare : (Run.of pen t).style = []
  · rw [Run.toHtml_bare bare]
    exact .bare (innerMarkup_pieces _) markup
  · rw [Run.toHtml_styled bare]
    exact .styled (styleMarkup_styleText standard bare) (innerMarkup_pieces _) markup

theorem dropTags_run_append (standard : pen.Standard) (t rest : Text) :
    dropTags ((Run.of pen t).toHtml ++ rest) = escape t ++ dropTags rest := by
  have inner := drop_pieces dropTags_piece (Run.of pen t).pieces
  rw [← Run.shown, shown_of] at inner
  by_cases bare : (Run.of pen t).style = []
  · rw [Run.toHtml_bare bare, inner]
  · have markup : StyleMarkup (styleText (Run.of pen t).style) := styleMarkup_styleText standard bare
    rw [Run.toHtml_styled bare, List.append_assoc, List.append_assoc,
      markup.isTag.dropTags_append, inner, isTag_close.dropTags_append]

/-- Runs are markup, and their text is what the instructions show. -/
theorem markup_of_paints (paints : Paints pen is runs last) (standard : pen.Standard) :
    Markup (runs.flatMap Run.toHtml) ∧
      dropTags (runs.flatMap Run.toHtml) = escape (is.flatMap Instruction.shown) := by
  induction paints with
  | done => exact ⟨.nil, rfl⟩
  | @text _ _ t _ _ _ ih =>
    obtain ⟨markup, shown⟩ := ih standard
    rw [List.flatMap_cons, List.flatMap_cons, dropTags_run_append standard, shown, ← escape_append]
    exact ⟨markup_run_append standard t markup, rfl⟩
  | @silent _ _ _ i _ _ other follows _ ih =>
    have silent : i.shown = [] := by
      cases i with
      | text _ => cases other
      | _ => rfl
    rw [List.flatMap_cons, silent, List.nil_append]
    exact ih (standard.apply follows)

/-- All art has its HTML, in a language that cannot do more than show text, and without the markup
it is the text of the art. -/
theorem toHtml_markup (t : Text) : ∃ html, toHtml t = .ok html ∧ Markup html ∧
    unescape (dropTags html) = plainText t := by
  obtain ⟨runs, last, paints⟩ := exists_paints_instructions t {}
  obtain ⟨markup, shown⟩ := markup_of_paints paints Pen.standard_new
  refine ⟨_, paints.toHtml_eq, markup, ?_⟩
  rw [shown, unescape_escape, plainText]

end Textmode.Ansi.Html
