import Textmode.Proofs.Json.Scalars

/-! Values of JSON, brackets and all, in front of any text: what is well-formed is read to its end
and no further.
-/

set_option autoImplicit false

namespace Textmode.Json

theorem AllBlank.append {gap other : Text} (first : AllBlank gap) (second : AllBlank other) :
    AllBlank (gap ++ other) := List.forall_mem_append.mpr ⟨first, second⟩

theorem Spaced.allBlank_before (v : Spaced) : AllBlank v.before :=
  (List.forall_mem_append.mp v.blank).1

theorem Spaced.allBlank_after (v : Spaced) : AllBlank v.after :=
  (List.forall_mem_append.mp v.blank).2

theorem Member.allBlank_before (m : Member) : AllBlank m.before :=
  (List.forall_mem_append.mp m.blank).1

theorem Member.allBlank_between (m : Member) : AllBlank m.between :=
  (List.forall_mem_append.mp m.blank).2

theorem Ends.append {gap rest : Text} (blank : AllBlank gap) (ends : Ends rest) :
    Ends (gap ++ rest) := by
  cases gap with
  | nil => exact ends
  | cons c gap =>
    intro d first
    obtain rfl := Option.some.inj first
    exact .inl (blank _ List.mem_cons_self)

theorem dropBlank_append {gap : Text} (blank : AllBlank gap) {c : Char} (dark : ¬ isBlank c)
    (rest : Text) : dropBlank (gap ++ c :: rest) = c :: rest := by
  rw [dropBlank, List.dropWhile_append_of_pos blank, List.dropWhile_cons_of_neg dark]

theorem dropBlank_cons {c : Char} (dark : ¬ isBlank c) (rest : Text) :
    dropBlank (c :: rest) = c :: rest := List.dropWhile_cons_of_neg dark

theorem nextChar_append {gap : Text} (blank : AllBlank gap) {c : Char} (dark : ¬ isBlank c)
    (rest : Text) : nextChar (gap ++ c :: rest) = .ok (c, rest) := by
  rw [nextChar, dropBlank_append blank dark]

theorem nextChar_cons {c : Char} (dark : ¬ isBlank c) (rest : Text) :
    nextChar (c :: rest) = .ok (c, rest) := by
  rw [nextChar, dropBlank_cons dark]

theorem dropBlank_blank {gap : Text} (blank : AllBlank gap) (t : Text) :
    dropBlank (gap ++ t) = dropBlank t := by
  rw [dropBlank, dropBlank, List.dropWhile_append_of_pos blank]

theorem nextChar_blank {gap : Text} (blank : AllBlank gap) (t : Text) :
    nextChar (gap ++ t) = nextChar t := by
  rw [nextChar, nextChar, dropBlank_blank blank]

theorem separated_cons (piece : Text) (pieces : List Text) :
    separated (piece :: pieces) = piece ++ pieces.flatMap (',' :: ·) := by
  induction pieces generalizing piece with
  | nil => rw [separated, List.intercalate_singleton, List.flatMap_nil, List.append_nil]
  | cons next pieces ih =>
    rw [separated, List.intercalate_cons_cons, ← separated, ih, List.flatMap_cons,
      List.append_assoc, List.singleton_append, List.cons_append]

/-! ## The reader of values

What it does in each state, the next character being all that it looks at. -/

section Reader

variable {purpose : Purpose} {room : Nat} {stack : List Bracket} {bracket : Bracket} {c : Char}
  {t rest : Text}

theorem afterValue_nil (t : Text) : afterValue purpose room [] .next t = .ok t := by
  rw [afterValue]

theorem afterValue_next (t : Text) : afterValue purpose room (bracket :: stack) .next t =
    (nextChar t).bind fun (c, rest) =>
      if c = ',' then afterValue purpose room (bracket :: stack) bracket.afterComma rest
      else if c = bracket.close then afterValue purpose room stack .next rest
      else .error .malformed := by
  conv_lhs => rw [afterValue]
  split <;> next found => rw [found]; rfl

theorem afterValue_value (t : Text) : afterValue purpose room stack .value t =
    (nextChar t).bind fun (c, rest) =>
      match Bracket.ofChar? c with
      | some bracket =>
        if purpose = .use ∧ room ≤ stack.length then .error .malformed
        else afterValue purpose room (bracket :: stack) bracket.first rest
      | none => (scalar purpose (dropBlank t)).bind fun (_, rest) =>
        afterValue purpose room stack .next rest := by
  conv_lhs => rw [afterValue]
  split
  · next fault => rw [fault]; rfl
  · next c rest found =>
    rw [found, Except.bind]
    dsimp only
    cases Bracket.ofChar? c with
    | some bracket => rfl
    | none =>
      dsimp only
      split <;> next scanned => rw [scanned]; rfl

theorem afterValue_firstElement (t : Text) : afterValue purpose room stack .firstElement t =
    (nextChar t).bind fun (c, rest) =>
      if c = ']' then afterValue purpose room stack.tail .next rest
      else afterValue purpose room stack .value t := by
  conv_lhs => rw [afterValue]
  split <;> next found => rw [found]; rfl

theorem afterValue_key (t : Text) : afterValue purpose room stack .key t =
    (nextChar t).bind fun (c, rest) =>
      if c = '"' then (afterKey purpose rest).bind (afterValue purpose room stack .value)
      else .error .malformed := by
  conv_lhs => rw [afterValue]
  split
  · next fault => rw [fault]; rfl
  · next found =>
    rw [found, Except.bind]
    dsimp only
    congr 1
    split <;> next scanned => rw [scanned]; rfl

theorem afterValue_firstKey (t : Text) : afterValue purpose room stack .firstKey t =
    (nextChar t).bind fun (c, rest) =>
      if c = '\x7d' then afterValue purpose room stack.tail .next rest
      else afterValue purpose room stack .key t := by
  rw [afterValue_key]
  conv_lhs => rw [afterValue]
  split
  · next fault => rw [fault]; rfl
  · next found =>
    rw [found]
    simp only [Except.bind]
    congr 2
    split <;> next scanned => rw [scanned]

end Reader

/-! ## Values in front of any text -/

theorem Bracket.ofChar?_eq_some {c : Char} {bracket : Bracket} (opens : ofChar? c = some bracket) :
    ¬ isBlank c ∧ c ≠ ']' := by
  unfold ofChar? at opens
  split at opens
  · next same => subst same; decide
  · split at opens
    · next same => subst same; decide
    · cases opens

theorem IsScalar.exists_cons {kind : Purpose} {s : Text} (written : IsScalar kind s) :
    ∃ c t, s = c :: t ∧ ¬ isBlank c ∧ c ≠ ']' ∧ Bracket.ofChar? c = none := by
  have number {s : Text} {l : Literal} (written : NumberText s l) :
      ∃ c t, s = c :: t ∧ ¬ isBlank c ∧ c ≠ ']' ∧ Bracket.ofChar? c = none := by
    obtain ⟨c, t, rfl, start⟩ := written.exists_cons
    have other {d : Char} (noSign : d ≠ '-') (noDigit : ¬ Decimal.isDigit d) : c ≠ d := by
      rintro rfl
      exact start.elim noSign noDigit
    refine ⟨c, t, rfl, ?_, other (by decide) (by decide), ?_⟩
    · simp only [isBlank, Bool.or_eq_true, decide_eq_true_eq]
      rintro (((same | same) | same) | same) <;> exact other (by decide) (by decide) same
    · rw [Bracket.ofChar?, if_neg (other (by decide) (by decide)),
        if_neg (other (by decide) (by decide))]
  cases written with
  | string => exact ⟨_, _, rfl, by decide, by decide, by decide⟩
  | number _ written => exact number written
  | usable usable =>
    cases usable with
    | null | true | false => exact ⟨_, _, rfl, by decide, by decide, by decide⟩
    | text => exact ⟨_, _, rfl, by decide, by decide, by decide⟩
    | integer written | decimal written => exact number written

theorem IsValue.exists_cons {kind : Purpose} {depth : Nat} {v : Text}
    (value : IsValue kind depth v) : ∃ c t, v = c :: t ∧ ¬ isBlank c ∧ c ≠ ']' := by
  cases value with
  | scalar written =>
    obtain ⟨c, t, same, dark, notClosing, _⟩ := written.exists_cons
    exact ⟨c, t, same, dark, notClosing⟩
  | array | object => exact ⟨_, _, rfl, by decide, by decide⟩

/-! ## Pieces between brackets

Elements and members are read alike. A piece starts with something that does not close the bracket,
and behind it the reader looks for what comes next. What is used may turn out to be nothing that
can be used; the fault is then in the piece, whatever comes behind it.
-/

/-- The reader comes to the end of `s`, or finds a fault in it; if it is `strict`, to its end. -/
def Reads (purpose : Purpose) (room : Nat) (stack : List Bracket) (expect : Expect)
    (strict : Prop) (s : Text) : Prop :=
  ∃ o : Except Fault Unit, (strict → o = .ok ()) ∧ ∀ rest, Ends rest →
    afterValue purpose room stack expect (s ++ rest) =
      o.bind fun _ => afterValue purpose room stack .next rest

structure ReadsPiece (purpose : Purpose) (room : Nat) (stack : List Bracket) (bracket : Bracket)
    (strict : Prop) (piece : Text) : Prop where
  start : ∃ gap c t, piece = gap ++ c :: t ∧ AllBlank gap ∧ ¬ isBlank c ∧ c ≠ bracket.close
  read : Reads purpose room (bracket :: stack) bracket.afterComma strict piece

section Pieces

variable {purpose : Purpose} {room : Nat} {stack : List Bracket} {bracket : Bracket}
  {strict : Prop}

theorem afterValue_first {t rest : Text} {c : Char} (next : nextChar t = .ok (c, rest))
    (more : c ≠ bracket.close) :
    afterValue purpose room (bracket :: stack) bracket.first t =
      afterValue purpose room (bracket :: stack) bracket.afterComma t := by
  cases bracket with
  | array =>
    rw [Bracket.first, afterValue_firstElement, next]
    exact if_neg more
  | object =>
    rw [Bracket.first, afterValue_firstKey, next]
    exact if_neg more

theorem afterValue_first_close {t rest : Text} (next : nextChar t = .ok (bracket.close, rest)) :
    afterValue purpose room (bracket :: stack) bracket.first t =
      afterValue purpose room stack .next rest := by
  cases bracket with
  | array =>
    rw [Bracket.first, afterValue_firstElement, next, Except.bind]
    exact if_pos rfl
  | object =>
    rw [Bracket.first, afterValue_firstKey, next, Except.bind]
    exact if_pos rfl

theorem Bracket.not_isBlank_close (bracket : Bracket) : ¬ isBlank bracket.close := by
  cases bracket <;> decide

theorem ends_close (bracket : Bracket) (rest : Text) : Ends (bracket.close :: rest) := by
  intro c first
  obtain rfl := Option.some.inj first
  cases bracket with
  | array => exact .inr (.inr (.inl rfl))
  | object => exact .inr (.inr (.inr rfl))

theorem ends_pieces {gap : Text} (blank : AllBlank gap) (pieces : List Text) (bracket : Bracket)
    (rest : Text) : Ends (pieces.flatMap (',' :: ·) ++ (gap ++ bracket.close :: rest)) := by
  cases pieces with
  | nil =>
    rw [List.flatMap_nil, List.nil_append]
    exact Ends.append blank (ends_close bracket rest)
  | cons piece pieces =>
    intro c first
    obtain rfl := Option.some.inj first
    exact .inr (.inl rfl)

theorem afterValue_pieces {pieces : List Text}
    (reads : ∀ piece ∈ pieces, ReadsPiece purpose room stack bracket strict piece) {gap : Text}
    (blank : AllBlank gap) :
    ∃ o : Except Fault Unit, (strict → o = .ok ()) ∧ ∀ rest,
      afterValue purpose room (bracket :: stack) .next
          (pieces.flatMap (',' :: ·) ++ (gap ++ bracket.close :: rest)) =
        o.bind fun _ => afterValue purpose room stack .next rest := by
  induction pieces with
  | nil =>
    refine ⟨.ok (), fun _ => rfl, fun rest => ?_⟩
    have close := nextChar_append blank bracket.not_isBlank_close rest
    rw [List.flatMap_nil, List.nil_append, afterValue_next, close, Except.bind]
    dsimp only
    rw [if_neg (by cases bracket <;> decide), if_pos rfl]
    rfl
  | cons piece pieces ih =>
    obtain ⟨first, firstStrict, firstRead⟩ := (reads piece List.mem_cons_self).read
    obtain ⟨others, othersStrict, othersRead⟩ :=
      ih fun other member => reads other (List.mem_cons_of_mem piece member)
    refine ⟨first.bind fun _ => others, fun use => ?_, fun rest => ?_⟩
    · rw [firstStrict use, othersStrict use]
      rfl
    · rw [List.flatMap_cons, List.append_assoc, List.cons_append, afterValue_next,
        nextChar_cons (by decide), Except.bind]
      dsimp only
      rw [if_pos rfl, firstRead _ (ends_pieces blank pieces bracket rest), othersRead]
      exact (bind_assoc first _ _).symm

theorem afterValue_separated {pieces : List Text}
    (reads : ∀ piece ∈ pieces, ReadsPiece purpose room stack bracket strict piece) {gap : Text}
    (blank : AllBlank gap) :
    ∃ o : Except Fault Unit, (strict → o = .ok ()) ∧ ∀ rest,
      afterValue purpose room (bracket :: stack) bracket.first
          (separated pieces ++ (gap ++ bracket.close :: rest)) =
        o.bind fun _ => afterValue purpose room stack .next rest := by
  cases pieces with
  | nil =>
    refine ⟨.ok (), fun _ => rfl, fun rest => ?_⟩
    exact afterValue_first_close (nextChar_append blank bracket.not_isBlank_close rest)
  | cons piece pieces =>
    obtain ⟨before, c, t, same, blankBefore, dark, more⟩ := (reads piece List.mem_cons_self).start
    obtain ⟨first, firstStrict, firstRead⟩ := (reads piece List.mem_cons_self).read
    obtain ⟨others, othersStrict, othersRead⟩ := afterValue_pieces
      (fun other member => reads other (List.mem_cons_of_mem piece member)) blank
    refine ⟨first.bind fun _ => others, fun use => ?_, fun rest => ?_⟩
    · rw [firstStrict use, othersStrict use]
      rfl
    · have next := nextChar_append blankBefore dark
        (t ++ (pieces.flatMap (',' :: ·) ++ (gap ++ bracket.close :: rest)))
      rw [← List.cons_append, ← List.append_assoc, ← same] at next
      rw [separated_cons, List.append_assoc, afterValue_first next more,
        firstRead _ (ends_pieces blank pieces bracket rest), othersRead]
      exact (bind_assoc first _ _).symm

theorem reads_brackets (bracket : Bracket) {start : Char}
    (opens : Bracket.ofChar? start = some bracket)
    (shallow : strict → ¬ (purpose = .use ∧ room ≤ stack.length)) {pieces : List Text}
    (reads : ∀ piece ∈ pieces, ReadsPiece purpose room stack bracket strict piece) {gap : Text}
    (blank : AllBlank gap) :
    Reads purpose room stack .value strict
      (start :: (separated pieces ++ (gap ++ [bracket.close]))) := by
  have opened rest : afterValue purpose room stack .value
      (start :: (separated pieces ++ (gap ++ [bracket.close])) ++ rest) =
      if purpose = .use ∧ room ≤ stack.length then .error .malformed
      else afterValue purpose room (bracket :: stack) bracket.first
        (separated pieces ++ (gap ++ bracket.close :: rest)) := by
    rw [List.cons_append, List.append_assoc, List.append_assoc, List.singleton_append,
      afterValue_value, nextChar_cons (Bracket.ofChar?_eq_some opens).1, Except.bind]
    dsimp only
    rw [opens]
  -- Brackets that are too deep are refused in front of what they hold.
  by_cases deep : purpose = .use ∧ room ≤ stack.length
  · refine ⟨.error .malformed, fun use => absurd deep (shallow use), fun rest _ => ?_⟩
    rw [opened, if_pos deep]
    rfl
  · obtain ⟨o, strictRead, read⟩ := afterValue_separated reads blank
    refine ⟨o, strictRead, fun rest _ => ?_⟩
    rw [opened, if_neg deep, read]

end Pieces

/-! ## Values in front of any text -/

section Values

variable {purpose kind : Purpose} {room depth : Nat} {stack : List Bracket} {bracket : Bracket}
  {strict : Prop}

theorem colon_append {gap : Text} (blank : AllBlank gap) (rest : Text) :
    colon (gap ++ ':' :: rest) = .ok rest := by
  rw [colon, nextChar_append blank (by decide)]
  rfl

theorem Member.HasKey.quotable {kind : Purpose} {m : Member} (key : m.HasKey kind) :
    Quotable m.spelled := by
  cases kind with
  | use => exact Spells.quotable key
  | pass => exact key

theorem afterKey_append (purpose : Purpose) {m : Member} (key : m.HasKey kind) :
    ∃ o : Except Fault Unit, ((purpose = .use → kind = .use) → o = .ok ()) ∧ ∀ rest,
      afterKey purpose (m.spelled ++ '"' :: (m.between ++ ':' :: rest)) = o.map fun _ => rest := by
  have found {t : Text} {rest : Text}
      (read : unquote purpose (m.spelled ++ '"' :: (m.between ++ ':' :: rest)) =
        .ok (t, m.between ++ ':' :: rest)) :
      afterKey purpose (m.spelled ++ '"' :: (m.between ++ ':' :: rest)) = .ok rest := by
    rw [afterKey, read]
    exact colon_append m.allBlank_between rest
  cases purpose with
  | pass =>
    obtain ⟨t, read⟩ := unquote_of_quotable key.quotable
    exact ⟨.ok (), fun _ => rfl, fun rest => found (read _)⟩
  | use =>
    rcases key.quotable.spellsOrFails with ⟨t, spells⟩ | ⟨fault, read⟩
    · exact ⟨.ok (), fun _ => rfl, fun rest => found (unquote_of_spells spells _)⟩
    · refine ⟨.error fault, fun use => ?_, fun rest => ?_⟩
      · rw [use rfl] at key
        have both := (unquote_of_spells key []).symm.trans (read [])
        cases both
      · rw [afterKey, read]
        rfl

theorem afterValue_next_blank {gap : Text} (blank : AllBlank gap) (t : Text) :
    afterValue purpose room (bracket :: stack) .next (gap ++ t) =
      afterValue purpose room (bracket :: stack) .next t := by
  rw [afterValue_next, afterValue_next, nextChar_blank blank]

theorem afterValue_value_blank {gap : Text} (blank : AllBlank gap) (t : Text) :
    afterValue purpose room stack .value (gap ++ t) = afterValue purpose room stack .value t := by
  rw [afterValue_value, afterValue_value, nextChar_blank blank, dropBlank_blank blank]

/-- Blanks around a value make no difference inside brackets. -/
theorem Reads.spaced {v : Spaced}
    (read : Reads purpose room (bracket :: stack) .value strict v.core) :
    Reads purpose room (bracket :: stack) .value strict v.text := by
  obtain ⟨o, strictRead, read⟩ := read
  refine ⟨o, strictRead, fun rest ends => ?_⟩
  rw [Spaced.text, List.append_assoc, List.append_assoc,
    afterValue_value_blank v.allBlank_before, read _ (ends.append v.allBlank_after),
    afterValue_next_blank v.allBlank_after]

theorem readsPiece_element {e : Spaced} (value : IsValue kind depth e.core)
    (read : Reads purpose room (.array :: stack) .value strict e.core) :
    ReadsPiece purpose room stack .array strict e.text where
  start := by
    obtain ⟨c, t, same, dark, more⟩ := value.exists_cons
    exact ⟨e.before, c, t ++ e.after, by rw [Spaced.text, same]; rfl, e.allBlank_before, dark, more⟩
  read := read.spaced

theorem readsPiece_member {m : Member} (key : m.HasKey kind)
    (strictKey : strict → purpose = .use → kind = .use)
    (read : Reads purpose room (.object :: stack) .value strict m.value.core) :
    ReadsPiece purpose room stack .object strict m.text where
  start := ⟨m.before, '"', _, rfl, m.allBlank_before, by decide, by decide⟩
  read := by
    obtain ⟨name, strictName, passed⟩ := afterKey_append purpose key
    obtain ⟨o, strictRead, read⟩ := read.spaced
    refine ⟨name.bind fun _ => o, fun use => ?_, fun rest ends => ?_⟩
    · rw [strictName (strictKey use), strictRead use]
      rfl
    · simp only [Member.text, List.append_assoc, List.cons_append]
      rw [Bracket.afterComma, afterValue_key, nextChar_append m.allBlank_before (by decide),
        Except.bind]
      dsimp only
      rw [if_pos rfl, passed]
      cases name with
      | error fault => rfl
      | ok _ => exact read rest ends

/-- Whatever is open around a value, the reader comes to its end or finds a fault in it. It finds
none in what is only passed over. -/
theorem reads_of_isValue (purpose : Purpose) (room : Nat) {v : Text} (value : IsValue kind depth v)
    (stack : List Bracket) :
    Reads purpose room stack .value
      (purpose = .use → kind = .use ∧ stack.length + depth ≤ room) v := by
  -- Inside brackets one more of them is open, hence the induction for every stack.
  induction value generalizing stack with
  | @scalar depth s written =>
    obtain ⟨o, strictRead, read⟩ := scalar_of_isScalar purpose written
    obtain ⟨c, t, rfl, dark, _, plain⟩ := written.exists_cons
    refine ⟨o.map fun _ => (), fun strict => ?_, fun rest ends => ?_⟩
    · obtain ⟨i, found⟩ := strictRead fun use => (strict use).1
      rw [found]
      rfl
    · have scanned := read rest ends
      rw [List.cons_append] at scanned ⊢
      rw [afterValue_value, nextChar_cons dark, Except.bind]
      dsimp only
      rw [plain, dropBlank_cons dark, scanned]
      cases o <;> rfl
  | @array depth gap elements blank values ih =>
    refine reads_brackets .array rfl (fun strict deep => ?_) (fun piece member => ?_)
      blank
    · have := (strict deep.1).2
      omega
    · obtain ⟨e, here, rfl⟩ := List.mem_map.mp member
      have read := ih e here (.array :: stack)
      rw [List.length_cons, Nat.add_right_comm, Nat.add_assoc] at read
      exact readsPiece_element (values e here) read
  | @object depth gap members blank keys values ih =>
    refine reads_brackets .object rfl (fun strict deep => ?_) (fun piece member => ?_)
      blank
    · have := (strict deep.1).2
      omega
    · obtain ⟨m, here, rfl⟩ := List.mem_map.mp member
      have read := ih m here (.object :: stack)
      rw [List.length_cons, Nat.add_right_comm, Nat.add_assoc] at read
      exact readsPiece_member (keys m here) (fun strict use => (strict use).1) read

theorem skip_of_isValue {v : Text} (value : IsValue kind depth v) {gap rest : Text}
    (blank : AllBlank gap) (ends : Ends rest) : skip (gap ++ (v ++ rest)) = .ok rest := by
  obtain ⟨o, strict, read⟩ := reads_of_isValue .pass 0 value []
  rw [skip, afterValue_value_blank blank, read rest ends, strict (by simp)]
  exact afterValue_nil rest

end Values

/-! ## What readers make of a value -/

/-- Wherever `v` stands, `read` comes to its end with the outcome `o`. -/
def Takes {α : Type} (read : Text → Except Fault (α × Text)) (v : Text) (o : Except Fault α) :
    Prop :=
  ∀ gap rest, AllBlank gap → Ends rest → read (gap ++ (v ++ rest)) = o.map (·, rest)

section Takes

variable {α β : Type} {read : Text → Except Fault (α × Text)} {v : Text} {o : Except Fault α}
  {kind : Purpose} {depth : Nat}

theorem Takes.map_fst (takes : Takes read v o) : (read v).map Prod.fst = o := by
  have alone := takes [] [] (by simp [AllBlank]) (by simp [Ends])
  rw [List.nil_append, List.append_nil] at alone
  rw [alone]
  cases o <;> rfl

theorem Takes.map (takes : Takes read v o) (f : α → β) :
    Takes (fun t => (read t).map fun (a, rest) => (f a, rest)) v (o.map f) := by
  intro gap rest blank ends
  simp only [takes gap rest blank ends]
  cases o <;> rfl

theorem item_scalar {s : Text} (written : IsScalar kind s) (room : Nat) {gap : Text}
    (blank : AllBlank gap) (rest : Text) :
    item room (gap ++ (s ++ rest)) = scalar .use (s ++ rest) := by
  obtain ⟨c, t, rfl, dark, _, plain⟩ := written.exists_cons
  rw [List.cons_append, item, nextChar_append blank dark]
  dsimp only
  rw [plain, dropBlank_append blank dark]

theorem takes_item_scalar {s : Text} {i : Item} (written : ScalarText s i) (room : Nat) :
    Takes (item room) s (.ok i) := by
  intro gap rest blank ends
  have plain : IsScalar .use s := .usable written
  rw [item_scalar plain room blank, scalar_of_scalarText written ends]
  rfl

theorem item_brackets {c : Char} {bracket : Bracket} (opens : Bracket.ofChar? c = some bracket)
    (room : Nat) {gap : Text} (blank : AllBlank gap) (t : Text) :
    item room (gap ++ c :: t) = (afterValue .use room [] .value (c :: t)).map (.compound, ·) := by
  rw [item, nextChar_append blank (Bracket.ofChar?_eq_some opens).1]
  dsimp only
  rw [opens, afterValue_value_blank blank]

theorem takes_item_brackets {c : Char} {bracket : Bracket}
    (opens : Bracket.ofChar? c = some bracket) {t : Text} (value : IsValue kind depth (c :: t))
    (room : Nat) :
    ∃ o, Takes (item room) (c :: t) o ∧ (kind = .use ∧ depth ≤ room → o = .ok .compound) := by
  obtain ⟨o, strict, read⟩ := reads_of_isValue .use room value []
  refine ⟨o.map fun _ => .compound, fun gap rest blank ends => ?_, fun usable => ?_⟩
  · rw [List.cons_append, item_brackets opens room blank, ← List.cons_append, read rest ends]
    cases o with
    | error fault => rfl
    | ok _ => exact congrArg _ (afterValue_nil rest)
  · rw [strict fun _ => ⟨usable.1, by simpa using usable.2⟩]
    rfl

theorem takes_item (value : IsValue kind depth v) (room : Nat) :
    ∃ o, Takes (item room) v o ∧
      (kind = .use ∧ depth ≤ room → ∃ i, o = .ok i ∧ (ScalarText v i ∨ i = .compound)) := by
  have brackets {c : Char} {bracket : Bracket} {t : Text}
      (opens : Bracket.ofChar? c = some bracket) (value : IsValue kind depth (c :: t)) :
      ∃ o, Takes (item room) (c :: t) o ∧ (kind = .use ∧ depth ≤ room →
        ∃ i, o = .ok i ∧ (ScalarText (c :: t) i ∨ i = .compound)) := by
    obtain ⟨o, takes, strict⟩ := takes_item_brackets opens value room
    exact ⟨o, takes, fun usable => ⟨_, strict usable, .inr rfl⟩⟩
  cases value with
  | scalar written =>
    rcases written.scalarText_or_error with ⟨i, usable⟩ | ⟨pass, fault, read⟩
    · exact ⟨_, takes_item_scalar usable room, fun _ => ⟨i, rfl, .inl usable⟩⟩
    · refine ⟨.error fault, fun gap rest blank ends => ?_, fun usable => ?_⟩
      · rw [item_scalar written room blank, read rest ends]
        rfl
      · rw [pass] at usable
        cases usable.1
  | array blank values => exact brackets rfl (.array blank values)
  | object blank keys values => exact brackets rfl (.object blank keys values)

end Takes

end Textmode.Json
