import Textmode.Proofs.Json.Grammar
import Textmode.Proofs.Decimal

/-! Strings, numbers and words of JSON in front of any text: the reader takes what is written and
finds what it stands for.
-/

set_option autoImplicit false

namespace Textmode.Json

variable {purpose : Purpose}

/-! ## Strings -/

theorem unquote_quote (purpose : Purpose) (rest : Text) :
    unquote purpose ('"' :: rest) = .ok ([], rest) := by
  rw [unquote]

theorem unquote_plain {c : Char} (notQuote : c ≠ '"') (notBackslash : c ≠ '\\')
    (printable : 0x20 ≤ c.toNat) (t : Text) :
    unquote purpose (c :: t) = (unquote purpose t).map fun (more, rest) => (c :: more, rest) := by
  rw [unquote, if_neg (Nat.not_lt.mpr printable)]
  · exact fun same => notQuote same
  · exact fun same => notBackslash same

theorem unquote_escape {t cs rest : Text} (found : unescape purpose t = .ok (cs, rest)) :
    unquote purpose ('\\' :: t) =
      (unquote purpose rest).map fun (more, rest) => (cs ++ more, rest) := by
  rw [unquote]
  split
  · next fault => rw [found] at fault; cases fault
  · next same =>
    rw [found] at same
    cases same
    rfl

theorem fourHex_append {ds : Text} {n : Nat} (code : HexCode ds n) (rest : Text) :
    fourHex (ds ++ rest) = .ok (n, rest) := by
  obtain ⟨a, b, c, d⟩ := code
  simp only [List.cons_append, List.nil_append, fourHex, a, b, c, d]

theorem unescape_letter {e c : Char} (escape : (e, c) ∈ letterEscapes) (purpose : Purpose)
    (rest : Text) : unescape purpose (e :: rest) = .ok ([c], rest) := by
  simp only [letterEscapes, List.mem_cons, List.not_mem_nil, or_false, Prod.mk.injEq] at escape
  rcases escape with ⟨rfl, rfl⟩ | ⟨rfl, rfl⟩ | ⟨rfl, rfl⟩ | ⟨rfl, rfl⟩ | ⟨rfl, rfl⟩ | ⟨rfl, rfl⟩ |
    ⟨rfl, rfl⟩ | ⟨rfl, rfl⟩ <;> rfl

theorem unquote_letter {e c : Char} (escape : (e, c) ∈ letterEscapes) (t : Text) :
    unquote purpose ('\\' :: e :: t) =
      (unquote purpose t).map fun (more, rest) => (c :: more, rest) :=
  unquote_escape (unescape_letter escape purpose t)

theorem unescape_code {ds : Text} {n : Nat} (code : HexCode ds n) (purpose : Purpose)
    (rest : Text) :
    unescape purpose ('u' :: (ds ++ rest)) =
      if purpose = .pass then .ok ([], rest)
      else if n < 0xD800 ∨ 0xDFFF < n then .ok ([Char.ofNat n], rest)
      else if n < 0xDC00 then lowSurrogate n rest
      else .error .malformed := by
  rw [unescape, unicodeEscape, fourHex_append code]

theorem unquote_code {ds : Text} {n : Nat} (code : HexCode ds n) (whole : n < 0xD800 ∨ 0xDFFF < n)
    (t : Text) : unquote .use ('\\' :: 'u' :: (ds ++ t)) =
      (unquote .use t).map fun (more, rest) => (Char.ofNat n :: more, rest) := by
  have found := unescape_code code .use t
  rw [if_neg (by decide), if_pos whole] at found
  exact unquote_escape found

theorem unescape_high {ds : Text} {high : Nat} (code : HexCode ds high) (half : IsHighHalf high)
    (rest : Text) : unescape .use ('u' :: (ds ++ rest)) = lowSurrogate high rest := by
  unfold IsHighHalf at half
  rw [unescape_code code, if_neg (by decide), if_neg (by omega), if_pos half.2]

theorem lowSurrogate_append {es : Text} {low : Nat} (high : Nat) (code : HexCode es low)
    (half : IsLowHalf low) (rest : Text) :
    lowSurrogate high ('\\' :: 'u' :: (es ++ rest)) =
      .ok ([Char.ofNat (0x10000 + (high - 0xD800) * 0x400 + (low - 0xDC00))], rest) := by
  rw [lowSurrogate, fourHex_append code]
  exact if_pos half

theorem unquote_pair {ds es : Text} {high low : Nat} (first : HexCode ds high)
    (isHigh : IsHighHalf high) (second : HexCode es low) (isLow : IsLowHalf low) (t : Text) :
    unquote .use ('\\' :: 'u' :: (ds ++ '\\' :: 'u' :: (es ++ t))) =
      (unquote .use t).map fun (more, rest) =>
        (Char.ofNat (0x10000 + (high - 0xD800) * 0x400 + (low - 0xDC00)) :: more, rest) := by
  have found := unescape_high first isHigh ('\\' :: 'u' :: (es ++ t))
  rw [lowSurrogate_append high second isLow] at found
  exact unquote_escape found

theorem unquote_of_spells {s t : Text} (spells : Spells s t) (rest : Text) :
    unquote .use (s ++ '"' :: rest) = .ok (t, rest) := by
  induction spells with
  | nil => exact unquote_quote .use rest
  | plain notQuote notBackslash printable _ ih =>
    rw [List.cons_append, unquote_plain notQuote notBackslash printable, ih]
    rfl
  | letter escape _ ih =>
    rw [List.cons_append, List.cons_append, unquote_letter escape, ih]
    rfl
  | code digits notHigh notLow _ ih =>
    unfold IsHighHalf at notHigh
    unfold IsLowHalf at notLow
    rw [List.cons_append, List.cons_append, List.append_assoc, unquote_code digits (by omega), ih]
    rfl
  | pair first isHigh second isLow _ ih =>
    simp only [List.cons_append, List.append_assoc]
    rw [unquote_pair first isHigh second isLow, ih]
    rfl

theorem Spells.unique {s t u : Text} (left : Spells s t) (right : Spells s u) : t = u := by
  have same := (unquote_of_spells left []).symm.trans (unquote_of_spells right [])
  exact congrArg Prod.fst (Except.ok.inj same)

theorem unquote_of_quotable {s : Text} (quotable : Quotable s) :
    ∃ t, ∀ rest, unquote .pass (s ++ '"' :: rest) = .ok (t, rest) := by
  induction quotable with
  | nil => exact ⟨[], unquote_quote .pass⟩
  | @plain c s notQuote notBackslash printable _ ih =>
    obtain ⟨t, read⟩ := ih
    refine ⟨c :: t, fun rest => ?_⟩
    rw [List.cons_append, unquote_plain notQuote notBackslash printable, read]
    rfl
  | @letter e c s escape _ ih =>
    obtain ⟨t, read⟩ := ih
    refine ⟨c :: t, fun rest => ?_⟩
    rw [List.cons_append, List.cons_append, unquote_letter escape, read]
    rfl
  | @code ds s n digits _ ih =>
    obtain ⟨t, read⟩ := ih
    refine ⟨t, fun rest => ?_⟩
    have whole := unescape_code digits .pass (s ++ '"' :: rest)
    rw [if_pos rfl] at whole
    rw [List.cons_append, List.cons_append, List.append_assoc, unquote_escape whole, read]
    rfl

theorem unquote_escape_error {t : Text} {fault : Fault}
    (found : unescape purpose t = .error fault) : unquote purpose ('\\' :: t) = .error fault := by
  rw [unquote]
  split
  · next same => exact congrArg _ (Except.error.inj (same.symm.trans found))
  · next same =>
    rw [found] at same
    cases same

theorem ne_of_mem_letterEscapes {e c : Char} (escape : (e, c) ∈ letterEscapes) : e ≠ 'u' := by
  have letters : ∀ pair ∈ letterEscapes, pair.1 ≠ 'u' := by decide
  exact letters (e, c) escape

theorem lowSurrogate_other (high : Nat) {t : Text} (some : t ≠ []) (alone : t ≠ ['\\'])
    (other : ∀ rest, t ≠ '\\' :: 'u' :: rest) : lowSurrogate high t = .error .malformed := by
  rw [lowSurrogate]
  · exact some
  · exact alone
  · exact other

theorem Quotable.lowHalf_or_error {s : Text} (quotable : Quotable s) (high : Nat) :
    (∃ es low more, HexCode es low ∧ IsLowHalf low ∧ s = '\\' :: 'u' :: (es ++ more)) ∨
      ∀ rest, lowSurrogate high (s ++ '"' :: rest) = .error .malformed := by
  cases quotable with
  | nil => exact .inr fun rest => rfl
  | @plain c s notQuote notBackslash _ _ =>
    exact .inr fun rest => lowSurrogate_other high (List.cons_ne_nil c _)
      (fun same => notBackslash (List.cons.inj same).1)
      fun _ same => notBackslash (List.cons.inj same).1
  | @letter e c s escape _ =>
    exact .inr fun rest => lowSurrogate_other high (List.cons_ne_nil _ _)
      (fun same => List.cons_ne_nil _ _ (List.cons.inj same).2) fun _ same =>
        ne_of_mem_letterEscapes escape (List.cons.inj (List.cons.inj same).2).1
  | @code es more low digits _ =>
    by_cases half : IsLowHalf low
    · exact .inl ⟨es, low, more, digits, half, rfl⟩
    · refine .inr fun rest => ?_
      rw [List.cons_append, List.cons_append, List.append_assoc, lowSurrogate,
        fourHex_append digits]
      exact if_neg half

def SpellsOrFails (s : Text) : Prop :=
  (∃ t, Spells s t) ∨ ∃ fault, ∀ rest, unquote .use (s ++ '"' :: rest) = .error fault

/-- One more character in front brings no fault and hides none. -/
theorem SpellsOrFails.step {c : Char} {s whole : Text} (known : SpellsOrFails s)
    (spells : ∀ {t}, Spells s t → Spells whole (c :: t))
    (read : ∀ rest, unquote .use (whole ++ rest) =
      (unquote .use (s ++ rest)).map fun (more, rest) => (c :: more, rest)) :
    SpellsOrFails whole := by
  rcases known with ⟨t, spelled⟩ | ⟨fault, fails⟩
  · exact .inl ⟨c :: t, spells spelled⟩
  · refine .inr ⟨fault, fun rest => ?_⟩
    rw [read, fails]
    rfl

/-- A code stands for a character, opens a pair or cannot stand where it does. -/
theorem SpellsOrFails.code {ds s : Text} {n : Nat} (digits : HexCode ds n) (quotable : Quotable s)
    (known : SpellsOrFails s)
    (behind : ∀ {es more m}, HexCode es m → s = '\\' :: 'u' :: (es ++ more) → SpellsOrFails more) :
    SpellsOrFails ('\\' :: 'u' :: (ds ++ s)) := by
  by_cases isHigh : IsHighHalf n
  · rcases quotable.lowHalf_or_error n with ⟨es, low, more, second, isLow, rfl⟩ | alone
    · refine (behind second rfl).step (.pair digits isHigh second isLow) fun rest => ?_
      simpa only [List.cons_append, List.append_assoc] using
        unquote_pair digits isHigh second isLow (more ++ rest)
    · refine .inr ⟨.malformed, fun rest => ?_⟩
      rw [List.cons_append, List.cons_append, List.append_assoc,
        unquote_escape_error ((unescape_high digits isHigh _).trans (alone rest))]
  by_cases isLow : IsLowHalf n
  · refine .inr ⟨.malformed, fun rest => ?_⟩
    have found := unescape_code digits .use (s ++ '"' :: rest)
    unfold IsLowHalf at isLow
    rw [if_neg (by decide), if_neg (by omega), if_neg (by omega)] at found
    rw [List.cons_append, List.cons_append, List.append_assoc, unquote_escape_error found]
  · refine known.step (.code digits isHigh isLow) fun rest => ?_
    unfold IsHighHalf at isHigh
    unfold IsLowHalf at isLow
    rw [List.cons_append, List.cons_append, List.append_assoc, unquote_code digits (by omega)]

/-- A string that stands for no text is found out by its surrogates. -/
theorem Quotable.spellsOrFails {s : Text} (quotable : Quotable s) : SpellsOrFails s := by
  -- A pair goes on behind its second code, two rules further on, hence the second fact.
  suffices both : SpellsOrFails s ∧ ∀ {es more : Text} {m : Nat}, HexCode es m →
      s = '\\' :: 'u' :: (es ++ more) → SpellsOrFails more from both.1
  induction quotable with
  | nil => exact ⟨.inl ⟨[], .nil⟩, by rintro _ _ _ _ ⟨⟩⟩
  | @plain c s notQuote notBackslash printable _ ih =>
    refine ⟨ih.1.step (.plain notQuote notBackslash printable) fun rest =>
      unquote_plain notQuote notBackslash printable (s ++ rest), ?_⟩
    rintro _ _ _ _ same
    exact absurd (List.cons.inj same).1 notBackslash
  | @letter e c s escape _ ih =>
    refine ⟨ih.1.step (.letter escape) fun rest => unquote_letter escape (s ++ rest), ?_⟩
    rintro _ _ _ _ same
    exact absurd (List.cons.inj (List.cons.inj same).2).1 (ne_of_mem_letterEscapes escape)
  | @code ds s n digits quotable ih =>
    refine ⟨.code digits quotable ih.1 ih.2, ?_⟩
    intro es more m code same
    have lengths : ds.length = es.length := by
      obtain ⟨⟩ := digits
      obtain ⟨⟩ := code
      rfl
    obtain ⟨_, rfl⟩ := List.append_inj (List.cons.inj (List.cons.inj same).2).2 lengths
    exact ih.1

theorem escape_cases (c : Char) :
    (∃ e, (e, c) ∈ letterEscapes ∧ escape c = ['\\', e]) ∨
      c.toNat < 0x20 ∧
        escape c = ['\\', 'u', '0', '0', hexDigit (c.toNat / 16), hexDigit (c.toNat % 16)] ∨
      (c ≠ '"' ∧ c ≠ '\\' ∧ 0x20 ≤ c.toNat) ∧ escape c = [c] := by
  by_cases quote : c = '"'
  · exact .inl ⟨'"', by rw [quote]; decide, by rw [quote]; rfl⟩
  by_cases backslash : c = '\\'
  · exact .inl ⟨'\\', by rw [backslash]; decide, by rw [backslash]; rfl⟩
  by_cases back : c = '\x08'
  · exact .inl ⟨'b', by rw [back]; decide, by rw [back]; rfl⟩
  by_cases tab : c = '\t'
  · exact .inl ⟨'t', by rw [tab]; decide, by rw [tab]; rfl⟩
  by_cases feed : c = '\n'
  · exact .inl ⟨'n', by rw [feed]; decide, by rw [feed]; rfl⟩
  by_cases page : c = '\x0c'
  · exact .inl ⟨'f', by rw [page]; decide, by rw [page]; rfl⟩
  by_cases carriage : c = '\r'
  · exact .inl ⟨'r', by rw [carriage]; decide, by rw [carriage]; rfl⟩
  rw [escape, if_neg quote, if_neg backslash, if_neg back, if_neg tab, if_neg feed, if_neg page,
    if_neg carriage]
  by_cases control : c.toNat < 0x20
  · exact .inr (.inl ⟨control, if_pos control⟩)
  · exact .inr (.inr ⟨⟨quote, backslash, Nat.not_lt.mp control⟩, if_neg control⟩)

theorem spells_escape (t : Text) : Spells (t.flatMap escape) t := by
  induction t with
  | nil => exact .nil
  | cons c t ih =>
    rw [List.flatMap_cons]
    rcases escape_cases c with ⟨e, letter, same⟩ | ⟨control, same⟩ | ⟨⟨quote, slash, print⟩, same⟩
    · rw [same]
      exact .letter letter ih
    · have digit : ∀ k < 16, hexValue? (hexDigit k) = some k := by decide
      have zero : hexValue? '0' = some 0 := by decide
      have code := HexCode.mk zero zero (digit (c.toNat / 16) (by omega))
        (digit (c.toNat % 16) (by omega))
      have number : ((0 * 16 + 0) * 16 + c.toNat / 16) * 16 + c.toNat % 16 = c.toNat := by omega
      rw [number] at code
      have spelled := Spells.code code (by unfold IsHighHalf; omega) (by unfold IsLowHalf; omega) ih
      rw [Char.ofNat_toNat] at spelled
      rw [same]
      exact spelled
    · rw [same]
      exact .plain quote slash print ih

/-! ## Numbers -/

theorem takeWhile_digits {ds rest : Text} (digits : ∀ c ∈ ds, Decimal.isDigit c)
    (stops : ∀ c ∈ rest.head?, ¬ Decimal.isDigit c) :
    (ds ++ rest).takeWhile Decimal.isDigit = ds ∧
      (ds ++ rest).dropWhile Decimal.isDigit = rest := by
  rw [List.takeWhile_append_of_pos digits, List.dropWhile_append_of_pos digits]
  cases rest with
  | nil => simp
  | cons c rest =>
    have other := stops c rfl
    rw [List.takeWhile_cons_of_neg other, List.dropWhile_cons_of_neg other, List.append_nil]
    exact ⟨rfl, rfl⟩

theorem digitRun_append {ds rest : Text} (digits : IsDigits ds)
    (stops : ∀ c ∈ rest.head?, ¬ Decimal.isDigit c) :
    digitRun purpose (ds ++ rest) = .ok (ds, rest) := by
  obtain ⟨front, back⟩ := takeWhile_digits digits.2 stops
  rw [digitRun, front, back, if_neg digits.1]

theorem Ends.other {rest : Text} (ends : Ends rest) {c : Char} (first : c ∈ rest.head?) :
    ¬ Decimal.isDigit c ∧ c ≠ '.' ∧ ¬ isExponentMark c := by
  have known := ends c first
  simp only [isBlank, Bool.or_eq_true, decide_eq_true_eq, or_assoc] at known
  rcases known with rfl | rfl | rfl | rfl | rfl | rfl | rfl <;> decide

theorem fractionPart_append {fraction : Option Text} (digits : ∀ ds ∈ fraction, IsDigits ds)
    {rest : Text} (stops : ∀ c ∈ rest.head?, ¬ Decimal.isDigit c ∧ c ≠ '.') :
    fractionPart purpose (fractionText fraction ++ rest) = .ok (fraction, rest) := by
  cases fraction with
  | some ds =>
    rw [fractionText, List.cons_append, fractionPart,
      digitRun_append (digits ds rfl) fun c first => (stops c first).1]
    rfl
  | none =>
    cases rest with
    | nil => rfl
    | cons c rest =>
      rw [fractionText, List.nil_append, fractionPart]
      exact fun t same => (stops c rfl).2 (List.cons.inj same).1

theorem exponentSign_digits {ds : Text} (digits : IsDigits ds) (rest : Text) :
    exponentSign (ds ++ rest) = (false, ds ++ rest) := by
  obtain ⟨d, ds, rfl⟩ := List.exists_cons_of_ne_nil digits.1
  have digit := digits.2 d List.mem_cons_self
  rw [List.cons_append, exponentSign]
  · rintro t same
    obtain rfl := (List.cons.inj same).1
    exact absurd digit (by decide)
  · rintro t same
    obtain rfl := (List.cons.inj same).1
    exact absurd digit (by decide)

theorem exponentPart_append {written : Text} {exponent : Option (Bool × Text)}
    (exponentText : ExponentText written exponent) {rest : Text} (ends : Ends rest) :
    exponentPart purpose (written ++ rest) = .ok (exponent, rest) := by
  have stops : ∀ c ∈ rest.head?, ¬ Decimal.isDigit c := fun c first => (ends.other first).1
  cases exponentText with
  | absent =>
    cases rest with
    | nil => rfl
    | cons c rest => rw [List.nil_append, exponentPart, if_neg (ends.other rfl).2.2]
  | bare mark digits =>
    rw [List.cons_append, exponentPart, if_pos mark, exponentSign_digits digits,
      digitRun_append digits stops]
    rfl
  | plus mark digits =>
    rw [List.cons_append, List.cons_append, exponentPart, if_pos mark, exponentSign,
      digitRun_append digits stops]
    rfl
  | minus mark digits =>
    rw [List.cons_append, List.cons_append, exponentPart, if_pos mark, exponentSign,
      digitRun_append digits stops]
    rfl

theorem ExponentText.head? {written : Text} {exponent : Option (Bool × Text)}
    (exponentText : ExponentText written exponent) {rest : Text} (ends : Ends rest) :
    ∀ c ∈ (written ++ rest).head?, ¬ Decimal.isDigit c ∧ c ≠ '.' := by
  have marks {c : Char} (mark : isExponentMark c) : ¬ Decimal.isDigit c ∧ c ≠ '.' := by
    rw [isExponentMark, Bool.or_eq_true, decide_eq_true_eq, decide_eq_true_eq] at mark
    rcases mark with rfl | rfl <;> decide
  intro c first
  cases exponentText with
  | absent => exact ⟨(ends.other first).1, (ends.other first).2.1⟩
  | bare mark | plus mark | minus mark => exact Option.some.inj first ▸ marks mark

theorem literal_append {s : Text} {l : Literal} (number : NumberText s l) (purpose : Purpose)
    {rest : Text} (ends : Ends rest) : literal purpose (s ++ rest) = .ok (l, rest) := by
  obtain @⟨negative, whole, written, fraction, exponent, digits, noZero, fractionDigits,
    exponentText⟩ := number
  have behind := exponentText.head? ends
  have first : sign ((if negative then ['-'] else []) ++
      (whole ++ (fractionText fraction ++ (written ++ rest)))) =
      (negative, whole ++ (fractionText fraction ++ (written ++ rest))) := by
    cases negative with
    | true => rfl
    | false =>
      obtain ⟨d, ds, rfl⟩ := List.exists_cons_of_ne_nil digits.1
      rw [if_neg (by decide), List.nil_append, List.cons_append, sign]
      rintro t same
      obtain rfl := (List.cons.inj same).1
      exact absurd (digits.2 _ List.mem_cons_self) (by decide)
  have stops : ∀ c ∈ (fractionText fraction ++ (written ++ rest)).head?, ¬ Decimal.isDigit c := by
    cases fraction with
    | none => exact fun c found => (behind c found).1
    | some ds =>
      intro c found
      exact Option.some.inj found ▸ by decide
  simp only [literal, List.append_assoc, first, digitRun_append digits stops, bind, Except.bind,
    if_neg noZero, fractionPart_append fractionDigits behind, exponentPart_append exponentText ends]
  rfl

theorem number_append {s : Text} {l : Literal} (written : NumberText s l)
    (fits : purpose = .use → ¬ l.isTooLarge) {rest : Text} (ends : Ends rest) :
    number purpose (s ++ rest) = .ok ((l.integer?.map Item.integer).getD .decimal, rest) := by
  rw [number, literal_append written purpose ends]
  dsimp only
  rw [if_neg fun large => fits large.1 large.2]
  cases l.integer? <;> rfl

theorem NumberText.exists_cons {s : Text} {l : Literal} (written : NumberText s l) :
    ∃ c t, s = c :: t ∧ (c = '-' ∨ Decimal.isDigit c) := by
  obtain @⟨negative, whole, _, _, _, digits, _, _, _⟩ := written
  cases negative with
  | true => exact ⟨'-', _, rfl, .inl rfl⟩
  | false =>
    obtain ⟨d, ds, rfl⟩ := List.exists_cons_of_ne_nil digits.1
    exact ⟨d, _, rfl, .inr (digits.2 d List.mem_cons_self)⟩

/-! ## Scalars -/

theorem word_append (w rest : Text) : word w (w ++ rest) = .ok rest := by
  induction w with
  | nil => rfl
  | cons c w ih => rw [List.cons_append, word, if_pos rfl, ih]

theorem scalar_null (rest : Text) :
    scalar purpose ('n' :: 'u' :: 'l' :: 'l' :: rest) = .ok (.null, rest) := by
  rw [scalar, if_pos rfl]
  exact congrArg _ (word_append ['u', 'l', 'l'] rest)

theorem scalar_true (rest : Text) :
    scalar purpose ('t' :: 'r' :: 'u' :: 'e' :: rest) = .ok (.bool true, rest) := by
  rw [scalar, if_neg (by decide), if_pos rfl]
  exact congrArg _ (word_append ['r', 'u', 'e'] rest)

theorem scalar_false (rest : Text) :
    scalar purpose ('f' :: 'a' :: 'l' :: 's' :: 'e' :: rest) = .ok (.bool false, rest) := by
  rw [scalar, if_neg (by decide), if_neg (by decide), if_pos rfl]
  exact congrArg _ (word_append ['a', 'l', 's', 'e'] rest)

theorem scalar_quote (t : Text) : scalar purpose ('"' :: t) =
    (unquote purpose t).map fun (text, rest) => (.text text, rest) := by
  rw [scalar, if_neg (by decide), if_neg (by decide), if_neg (by decide), if_pos rfl]

theorem scalar_number {c : Char} (start : c = '-' ∨ Decimal.isDigit c) (t : Text) :
    scalar purpose (c :: t) = number purpose (c :: t) := by
  have other {d : Char} (noSign : d ≠ '-') (noDigit : ¬ Decimal.isDigit d) : c ≠ d := by
    rintro rfl
    exact start.elim noSign noDigit
  rw [scalar, if_neg (other (by decide) (by decide)), if_neg (other (by decide) (by decide)),
    if_neg (other (by decide) (by decide)), if_neg (other (by decide) (by decide)), if_pos start]

theorem scalar_number_append {s : Text} {l : Literal} (written : NumberText s l)
    (fits : purpose = .use → ¬ l.isTooLarge) {rest : Text} (ends : Ends rest) :
    scalar purpose (s ++ rest) = .ok ((l.integer?.map Item.integer).getD .decimal, rest) := by
  have whole := number_append written fits ends
  obtain ⟨c, t, rfl, start⟩ := written.exists_cons
  rw [List.cons_append] at whole ⊢
  rw [scalar_number start, whole]

theorem scalar_of_scalarText {s : Text} {i : Item} (written : ScalarText s i) {rest : Text}
    (ends : Ends rest) : scalar .use (s ++ rest) = .ok (i, rest) := by
  cases written with
  | null => exact scalar_null rest
  | true => exact scalar_true rest
  | false => exact scalar_false rest
  | text spells =>
    rw [List.cons_append, List.append_assoc, scalar_quote]
    exact congrArg _ (unquote_of_spells spells rest)
  | integer number fits whole => rw [scalar_number_append number (fun _ => fits) ends, whole]; rfl
  | decimal number fits whole => rw [scalar_number_append number (fun _ => fits) ends, whole]; rfl

/-- A scalar that is only well-formed may be nothing that can be used. That shows before its end. -/
theorem IsScalar.scalarText_or_error {kind : Purpose} {s : Text} (written : IsScalar kind s) :
    (∃ i, ScalarText s i) ∨
      kind = .pass ∧ ∃ fault, ∀ rest, Ends rest → scalar .use (s ++ rest) = .error fault := by
  cases written with
  | @usable s i usable => exact .inl ⟨i, usable⟩
  | @string s pass quotable =>
    rcases quotable.spellsOrFails with ⟨t, spells⟩ | ⟨fault, read⟩
    · exact .inl ⟨_, .text spells⟩
    · refine .inr ⟨pass, fault, fun rest _ => ?_⟩
      rw [List.cons_append, List.append_assoc, scalar_quote]
      exact congrArg _ (read rest)
  | @number s l pass number =>
    by_cases large : l.isTooLarge
    · refine .inr ⟨pass, .malformed, fun rest ends => ?_⟩
      have read := literal_append number .use ends
      obtain ⟨c, t, rfl, start⟩ := number.exists_cons
      rw [List.cons_append] at read ⊢
      rw [scalar_number start, Json.number, read]
      exact if_pos ⟨rfl, large⟩
    · cases whole : l.integer? with
      | some n => exact .inl ⟨_, .integer number large whole⟩
      | none => exact .inl ⟨_, .decimal number large whole⟩

theorem scalar_pass {kind : Purpose} {s : Text} (written : IsScalar kind s) :
    ∃ i, ∀ rest, Ends rest → scalar .pass (s ++ rest) = .ok (i, rest) := by
  have string {s : Text} (quotable : Quotable s) :
      ∃ i, ∀ rest, Ends rest → scalar .pass ('"' :: (s ++ ['"']) ++ rest) = .ok (i, rest) := by
    obtain ⟨t, read⟩ := unquote_of_quotable quotable
    refine ⟨.text t, fun rest _ => ?_⟩
    rw [List.cons_append, List.append_assoc, scalar_quote]
    exact congrArg _ (read rest)
  have number {s : Text} {l : Literal} (written : NumberText s l) :
      ∃ i, ∀ rest, Ends rest → scalar .pass (s ++ rest) = .ok (i, rest) :=
    ⟨_, fun _ ends => scalar_number_append written (by simp) ends⟩
  cases written with
  | string _ quotable => exact string quotable
  | number _ written => exact number written
  | usable usable =>
    cases usable with
    | null => exact ⟨_, fun rest _ => scalar_null rest⟩
    | true => exact ⟨_, fun rest _ => scalar_true rest⟩
    | false => exact ⟨_, fun rest _ => scalar_false rest⟩
    | text spells => exact string spells.quotable
    | integer written | decimal written => exact number written

/-- Whatever a scalar is read for, the reader comes to its end or finds a fault in it. -/
theorem scalar_of_isScalar (purpose : Purpose) {kind : Purpose} {s : Text}
    (written : IsScalar kind s) :
    ∃ o : Except Fault Item, ((purpose = .use → kind = .use) → ∃ i, o = .ok i) ∧
      ∀ rest, Ends rest → scalar purpose (s ++ rest) = o.map (·, rest) := by
  cases purpose with
  | pass =>
    obtain ⟨i, read⟩ := scalar_pass written
    exact ⟨.ok i, fun _ => ⟨i, rfl⟩, read⟩
  | use =>
    rcases written.scalarText_or_error with ⟨i, usable⟩ | ⟨pass, fault, read⟩
    · exact ⟨.ok i, fun _ => ⟨i, rfl⟩, fun rest ends => scalar_of_scalarText usable ends⟩
    · refine ⟨.error fault, fun strict => ?_, read⟩
      rw [strict rfl] at pass
      cases pass

end Textmode.Json
