import Textmode.Proofs.Listing.Printer

/-! Listings as maps of their known keys. Order, blanks and unknown keys make no difference, a
number field takes anything that it has no use for as nothing at all, and a known key that comes
twice is refused.
-/

set_option autoImplicit false

namespace Textmode

/-! ## Objects as documents -/

namespace Json

structure Document where
  before : Text := []
  gap : Text := []
  members : List Member
  after : Text := []
  blank : AllBlank (before ++ (gap ++ after)) := by simp [AllBlank]

def Document.text (d : Document) : Text := d.before ++ (objectText d.gap d.members ++ d.after)

def AreWritten (kind : Purpose) (depth : Nat) (ms : List Member) : Prop :=
  ∀ m ∈ ms, m.HasKey kind ∧ IsValue kind depth m.value.core

theorem AreWritten.spells {depth : Nat} {ms : List Member} (written : AreWritten .use depth ms) :
    ∀ m ∈ ms, Spells m.spelled m.key := fun m member => (written m member).1

theorem AreWritten.without {kind : Purpose} {depth : Nat} {ms : List Member}
    (written : AreWritten kind depth ms) (key : Text) :
    AreWritten kind depth (Json.without key ms) :=
  fun m member => written m (List.mem_filter.mp member).1

variable {φ υ : Type} [DecidableEq φ] {schema : Schema φ υ} {kind : Purpose} {depth : Nat}

theorem takes_record_members (settled : schema.Settled) {ms : List Member}
    (written : AreWritten kind depth ms) {gap : Text} (blank : AllBlank gap) :
    Takes schema.record (objectText gap ms) (schema.collect [] ms) :=
  Schema.takes_record_object settled (fun m member => (written m member).1.quotable)
    (fun m member => (written m member).2) blank

theorem whole_text (settled : schema.Settled) {d : Document}
    (written : AreWritten kind depth d.members) :
    schema.whole d.text = schema.collect [] d.members := by
  obtain ⟨before, inside⟩ := List.forall_mem_append.mp d.blank
  obtain ⟨gap, after⟩ := List.forall_mem_append.mp inside
  exact Schema.whole_of_takes (takes_record_members settled written gap) before after

theorem lookup_perm {found other : List (φ × υ)} (perm : found.Perm other)
    (distinct : (found.map Prod.fst).Nodup) (field : φ) :
    found.lookup field = other.lookup field := by
  induction perm with
  | nil => rfl
  | cons entry _ ih =>
    rw [List.lookup_cons, List.lookup_cons, ih (List.nodup_cons.mp distinct).2]
  | swap first second rest =>
    obtain ⟨f, v⟩ := first
    obtain ⟨g, w⟩ := second
    have apart : g ≠ f := fun same => by simp [same] at distinct
    rw [List.lookup_cons, List.lookup_cons, List.lookup_cons, List.lookup_cons]
    by_cases here : field = f
    · rw [here, beq_self_eq_true, beq_eq_false_iff_ne.mpr apart.symm]
    · rw [beq_eq_false_iff_ne.mpr here]
  | trans first _ ih ih' =>
    exact (ih distinct).trans (ih' ((first.map Prod.fst).nodup_iff.mp distinct))

end Json

namespace Sauce.Listing

open Json

/-! ## What a listing takes of its entries -/

theorem ofEntries_congr {found other : List (Field × Entry)}
    (items : ∀ field, field.bound? = none → field ≠ .splitFlags →
      ofEntries.item found field = ofEntries.item other field)
    (numbers : ∀ field, ofEntries.number found field = ofEntries.number other field)
    (parts : ((found.lookup .splitFlags).bind Entry.parts?).map splitFlagsOf =
      ((other.lookup .splitFlags).bind Entry.parts?).map splitFlagsOf) :
    ofEntries found = ofEntries other := by
  simp only [ofEntries, numbers, parts, items .title rfl (by decide), items .author rfl (by decide),
    items .group rfl (by decide), items .date rfl (by decide), items .fontName rfl (by decide),
    items .comments rfl (by decide)]

theorem splitFlagsOf_congr {found other : List (FlagField × Item)}
    (iceColors : found.lookup .iceColors = other.lookup .iceColors)
    (numbers : ∀ field, splitFlagsOf.number found field = splitFlagsOf.number other field) :
    splitFlagsOf found = splitFlagsOf other := by
  simp only [splitFlagsOf, iceColors, numbers]

theorem ofEntries_of_lookup {found other : List (Field × Entry)}
    (same : ∀ field, found.lookup field = other.lookup field) :
    ofEntries found = ofEntries other := by
  refine ofEntries_congr (fun field _ _ => ?_) (fun field => ?_) ?_
  · rw [ofEntries.item, ofEntries.item, same]
  · rw [ofEntries.number, ofEntries.number, ofEntries.item, ofEntries.item, same]
  · rw [same]

/-! ## What is read of a document -/

def listing? (t : Text) : Option Listing := (read t).toOption.map Reading.listing

theorem toOption_map_eq {ε α β : Type} {x y : Except ε α} {f : α → β}
    (forth : ∀ a, x = .ok a → ∃ b, y = .ok b ∧ f a = f b)
    (back : ∀ b, y = .ok b → ∃ a, x = .ok a) : x.toOption.map f = y.toOption.map f := by
  cases x with
  | ok a =>
    obtain ⟨b, rfl, same⟩ := forth a rfl
    exact congrArg some same
  | error fault =>
    cases y with
    | error _ => rfl
    | ok b =>
      obtain ⟨_, ⟨⟩⟩ := back b rfl

theorem listing?_text {kind : Purpose} {depth : Nat} {d : Document}
    (written : AreWritten kind depth d.members) :
    listing? d.text = (schema.collect [] d.members).toOption.map ofEntries := by
  rw [listing?, read, whole_text settled written]
  cases schema.collect [] d.members <;> rfl

/-- Neither order, blanks and escapes nor unknown keys make a difference. -/
theorem listing?_of_known {depth : Nat} {d d' : Document}
    (written : AreWritten .use depth d.members) (written' : AreWritten .use depth d'.members)
    (same : (schema.known d.members).Perm (schema.known d'.members)) :
    listing? d.text = listing? d'.text := by
  have keys := written.spells
  have keys' := written'.spells
  rw [listing?_text written, listing?_text written']
  refine toOption_map_eq (fun found collected => ?_) fun found collected => ?_
  · obtain ⟨other, others, perm, distinct⟩ := schema.collect_perm keys keys' same collected
    exact ⟨other, others, ofEntries_of_lookup (lookup_perm perm distinct)⟩
  · obtain ⟨other, others, -⟩ := schema.collect_perm keys' keys same.symm collected
    exact ⟨other, others⟩

/-! ## Number fields -/

theorem takes_item_odd {depth room : Nat} {v : Text} (value : IsValue .use depth v)
    (fits : depth ≤ room) {bound : Nat} (odd : ∀ n < bound, v ≠ Decimal.digits n) :
    ∃ i, Takes (Json.item room) v (.ok i) ∧ numberOf (some bound) i = none := by
  obtain ⟨o, takes, usable⟩ := takes_item value room
  obtain ⟨i, rfl, written⟩ := usable ⟨rfl, fits⟩
  refine ⟨i, takes, ?_⟩
  cases i with
  | integer n =>
    refine if_neg fun inside => ?_
    obtain ⟨k, rfl⟩ := Int.eq_ofNat_of_zero_le inside.1
    exact odd k (Int.ofNat_lt.mp inside.2) (written.resolve_right (by simp)).eq_digits
  | _ => rfl

theorem lookup_cons_other {φ υ : Type} [DecidableEq φ] {field other : φ} (apart : other ≠ field)
    (v : υ) (rest : List (φ × υ)) : ((field, v) :: rest).lookup other = rest.lookup other := by
  rw [List.lookup_cons, beq_eq_false_iff_ne.mpr apart]

theorem lookup_fresh {φ υ : Type} [DecidableEq φ] {field : φ} {rest : List (φ × υ)}
    (fresh : field ∉ rest.map Prod.fst) : rest.lookup field = none := by
  refine List.lookup_eq_none_iff.mpr fun entry member => ?_
  exact bne_iff_ne.mpr fun same => fresh (same ▸ List.mem_map_of_mem member)

theorem ofEntries_cons_odd {field : Field} {bound : Nat} (number : field.bound? = some bound)
    {i : Item} (odd : numberOf (some bound) i = none) {rest : List (Field × Entry)}
    (fresh : field ∉ rest.map Prod.fst) :
    ofEntries ((field, .item i) :: rest) = ofEntries rest := by
  have other {g : Field} (free : g.bound? = none) : g ≠ field := fun same => by
    rw [same, number] at free
    cases free
  refine ofEntries_congr (fun g free _ => ?_) (fun g => ?_) ?_
  · rw [ofEntries.item, ofEntries.item, lookup_cons_other (other free)]
  · rw [ofEntries.number, ofEntries.number, ofEntries.item, ofEntries.item]
    by_cases same : g = field
    · rw [same, List.lookup_cons, beq_self_eq_true, lookup_fresh fresh, number]
      exact odd
    · rw [lookup_cons_other same]
  · rw [lookup_cons_other (other rfl)]

theorem splitFlagsOf_cons_odd {field : FlagField} {bound : Nat} (number : field.bound? = some bound)
    {i : Item} (odd : numberOf (some bound) i = none) {rest : List (FlagField × Item)}
    (fresh : field ∉ rest.map Prod.fst) :
    splitFlagsOf ((field, i) :: rest) = splitFlagsOf rest := by
  have other : FlagField.iceColors ≠ field := fun same => by
    rw [← same] at number
    cases number
  refine splitFlagsOf_congr (lookup_cons_other other i rest) fun g => ?_
  rw [splitFlagsOf.number, splitFlagsOf.number]
  by_cases same : g = field
  · rw [same, List.lookup_cons, beq_self_eq_true, lookup_fresh fresh, number]
    exact odd
  · rw [lookup_cons_other same]

theorem fresh_of_perm {φ υ : Type} {all rest : List (φ × υ)} {field : φ} {v : υ}
    (perm : all.Perm ((field, v) :: rest)) (distinct : (all.map Prod.fst).Nodup) :
    field ∉ rest.map Prod.fst :=
  (List.nodup_cons.mp ((perm.map Prod.fst).nodup_iff.mp distinct)).1

theorem field?_key (field : Field) : schema.field? field.key = some field := by
  cases field <;> decide

theorem flagField?_key (field : FlagField) : flagSchema.field? field.key = some field := by
  cases field <;> decide

/-- What a number field has no use for is as good as missing. -/
theorem listing?_without {d : Document} (written : AreWritten .use (maxDepth - 1) d.members)
    {field : Field} {bound : Nat} (number : field.bound? = some bound) {m : Member}
    (only : d.members.filter (·.key = field.key) = [m])
    (odd : ∀ n < bound, m.value.core ≠ Decimal.digits n) :
    listing? d.text = listing? { d with members := without field.key d.members }.text := by
  have here := (mem_of_filter_eq only).1
  obtain ⟨i, takes, unused⟩ := takes_item_odd (written m here).2 (Nat.le_refl _) odd
  have value : schema.result field m.value.core = .ok (.item i) := by
    refine Takes.map_fst ?_
    change Takes (Listing.value field) _ _
    rw [value_number number]
    exact takes.map Entry.item
  -- The value is taken, so the field has an entry, but one that no number is found in.
  obtain ⟨forth, back⟩ := schema.collect_without written.spells (field?_key field) only value
  rw [listing?_text written, listing?_text (written.without field.key)]
  refine toOption_map_eq (fun all collected => ?_) back
  obtain ⟨rest, collectedRest, perm, distinct⟩ := forth all collected
  refine ⟨rest, collectedRest, (ofEntries_of_lookup (lookup_perm perm distinct)).trans ?_⟩
  exact ofEntries_cons_odd number unused (fresh_of_perm perm distinct)

/-! ## Flags in their parts -/

theorem result_splitFlags {kind : Purpose} {depth : Nat} {ms : List Member}
    (written : AreWritten kind depth ms) {gap : Text} (blank : AllBlank gap) :
    schema.result .splitFlags (objectText gap ms) = (flagSchema.collect [] ms).map .parts :=
  Takes.map_fst (partsValue_record (by decide) (by decide)
    (takes_record_members settled_flags written blank))

theorem ofEntries_exchange {old new : List (FlagField × Item)}
    (same : splitFlagsOf old = splitFlagsOf new) (front back : List (Field × Entry)) :
    ofEntries (front ++ (.splitFlags, .parts old) :: back) =
      ofEntries (front ++ (.splitFlags, .parts new) :: back) := by
  have other {g : Field} (apart : g ≠ .splitFlags) :
      (front ++ (.splitFlags, .parts old) :: back).lookup g =
        (front ++ (.splitFlags, .parts new) :: back).lookup g := by
    rw [List.lookup_append, List.lookup_append, lookup_cons_other apart, lookup_cons_other apart]
  refine ofEntries_congr (fun g _ apart => ?_) (fun g => ?_) ?_
  · rw [ofEntries.item, ofEntries.item, other apart]
  · rw [ofEntries.number, ofEntries.number]
    -- The flags in their parts are no number field, so their own entry plays no role here.
    by_cases flags : g = .splitFlags
    · subst flags
      have nothing i : numberOf (Field.bound? .splitFlags) i = none := rfl
      rw [funext nothing, Option.bind_fun_none, Option.bind_fun_none]
    · rw [ofEntries.item, ofEntries.item, other flags]
  · rw [List.lookup_append, List.lookup_append, List.lookup_cons, List.lookup_cons]
    cases front.lookup .splitFlags with
    | some e => rfl
    | none => exact congrArg some same

theorem given_splitFlags {kind : Purpose} {depth : Nat} {ms : List Member}
    (written : AreWritten kind depth ms) {gap : Text} (blank : AllBlank gap) {m : Member}
    (key : Spells m.spelled Field.splitFlags.key) (object : m.value.core = objectText gap ms) :
    schema.given [] m =
      (flagSchema.collect [] ms).map fun found => some (.splitFlags, .parts found) := by
  rw [schema.given_of_field? key (field?_key .splitFlags), object, result_splitFlags written blank]
  cases flagSchema.collect [] ms <;> rfl

theorem collect_splitFlags_congr {before after : List Member} {m n : Member}
    {x y : Except Fault (List (FlagField × Item))}
    (old : schema.given [] m = x.map fun found => some (.splitFlags, .parts found))
    (new : schema.given [] n = y.map fun found => some (.splitFlags, .parts found))
    (forth : ∀ found, x = .ok found →
      ∃ other, y = .ok other ∧ splitFlagsOf found = splitFlagsOf other)
    (back : ∀ other, y = .ok other → ∃ found, x = .ok found) :
    (schema.collect [] (before ++ m :: after)).toOption.map ofEntries =
      (schema.collect [] (before ++ n :: after)).toOption.map ofEntries := by
  -- Where all members are collected, the one in question was read.
  have parts {m : Member} {x : Except Fault (List (FlagField × Item))} {all : List (Field × Entry)}
      (given : schema.given [] m = x.map fun found => some (.splitFlags, .parts found))
      (collected : schema.collect [] (before ++ m :: after) = .ok all) :
      ∃ found, x = .ok found := by
    obtain ⟨_, gives⟩ := ((schema.collect_eq_ok_iff (by simp)).mp collected).1 m (by simp)
    obtain ⟨found, read, -⟩ := map_eq_ok (given.symm.trans gives)
    exact ⟨found, read⟩
  refine toOption_map_eq (fun all collected => ?_) fun all collected => ?_
  · obtain ⟨found, rfl⟩ := parts old collected
    obtain ⟨other, rfl, same⟩ := forth found rfl
    obtain ⟨front, rest, rfl, exchanged⟩ := schema.collect_exchange old new collected
    exact ⟨_, exchanged, ofEntries_exchange same front rest⟩
  · obtain ⟨other, rfl⟩ := parts new collected
    obtain ⟨found, rfl⟩ := back other rfl
    obtain ⟨_, _, -, exchanged⟩ := schema.collect_exchange new old collected
    exact ⟨_, exchanged⟩

def withObject (m : Member) (gap : Text) (ms : List Member) : Member :=
  { m with value := { m.value with core := objectText gap ms } }

theorem areWritten_withObject {depth : Nat} {before after ms : List Member} {m : Member}
    (written : AreWritten .use (depth + 1) (before ++ m :: after))
    (inner : AreWritten .use depth ms) {gap : Text} (blank : AllBlank gap) :
    AreWritten .use (depth + 1) (before ++ withObject m gap ms :: after) := by
  intro n member
  rcases List.mem_append.mp member with front | rest
  · exact written n (List.mem_append_left _ front)
  rcases List.mem_cons.mp rest with rfl | rest
  · exact ⟨(written m (by simp)).1,
      .object blank (fun n here => (inner n here).1) fun n here => (inner n here).2⟩
  · exact written n (List.mem_append_right _ (List.mem_cons_of_mem m rest))

theorem listing?_withObject {d : Document} (written : AreWritten .use (maxDepth - 1) d.members)
    {before after inner : List Member} {flags : Member} {gap : Text}
    (place : d.members = before ++ flags :: after) (key : flags.key = Field.splitFlags.key)
    (object : flags.value.core = objectText gap inner) (blank : AllBlank gap)
    (innerWritten : AreWritten .use (maxDepth - 2) inner) {field : FlagField} {bound : Nat}
    (number : field.bound? = some bound) {m : Member}
    (only : inner.filter (·.key = field.key) = [m])
    (odd : ∀ n < bound, m.value.core ≠ Decimal.digits n) :
    listing? d.text = listing? { d with
      members := before ++ withObject flags gap (without field.key inner) :: after }.text := by
  have here := (mem_of_filter_eq only).1
  have others := innerWritten.without field.key
  obtain ⟨i, takes, unused⟩ := takes_item_odd (innerWritten m here).2 (Nat.le_refl _) odd
  have value : flagSchema.result field m.value.core = .ok i := by
    refine Takes.map_fst ?_
    change Takes (flagValue field) _ _
    rw [flagValue_number number]
    exact takes
  obtain ⟨forth, back⟩ :=
    flagSchema.collect_without innerWritten.spells (flagField?_key field) only value
  -- On both sides the parts are read of an object of their own, so they are compared there first.
  rw [place] at written
  have spelled : Spells flags.spelled Field.splitFlags.key := key ▸ (written flags (by simp)).1
  rw [listing?_text (d := d) (place ▸ written), place,
    listing?_text (areWritten_withObject written others blank)]
  refine collect_splitFlags_congr (given_splitFlags innerWritten blank spelled object)
    (given_splitFlags others blank spelled rfl) (fun all collected => ?_) back
  obtain ⟨rest, collectedRest, perm, distinct⟩ := forth all collected
  have same : splitFlagsOf all = splitFlagsOf ((field, i) :: rest) :=
    splitFlagsOf_congr (lookup_perm perm distinct _) fun g => by
      rw [splitFlagsOf.number, splitFlagsOf.number, lookup_perm perm distinct]
  exact ⟨rest, collectedRest,
    same.trans (splitFlagsOf_cons_odd number unused (fresh_of_perm perm distinct))⟩

/-! ## Keys that come twice -/

theorem read_twice {kind : Purpose} {depth : Nat} {d : Document}
    (written : AreWritten kind depth d.members) {m n : Member} (both : [m, n].Sublist d.members)
    {field : Field} (first : Spells m.spelled field.key) (second : Spells n.spelled field.key) :
    ∃ fault, read d.text = .error fault := by
  rw [read, whole_text settled written]
  cases collected : schema.collect [] d.members with
  | error fault => exact ⟨fault, rfl⟩
  | ok all => exact absurd collected (schema.collect_ne_ok both first second (field?_key field) all)

theorem read_twice_splitFlags {kind : Purpose} {depth innerDepth : Nat} {d : Document}
    (written : AreWritten kind depth d.members) {flags : Member} (place : flags ∈ d.members)
    (key : Spells flags.spelled Field.splitFlags.key) {gap : Text} (blank : AllBlank gap)
    {inner : List Member} (object : flags.value.core = objectText gap inner)
    (innerWritten : AreWritten kind innerDepth inner) {m n : Member}
    (both : [m, n].Sublist inner) {field : FlagField} (first : Spells m.spelled field.key)
    (second : Spells n.spelled field.key) : ∃ fault, read d.text = .error fault := by
  rw [read, whole_text settled written]
  cases collected : schema.collect [] d.members with
  | error fault => exact ⟨fault, rfl⟩
  | ok all =>
    obtain ⟨_, gives⟩ := ((schema.collect_eq_ok_iff (by simp)).mp collected).1 flags place
    rw [given_splitFlags innerWritten blank key object] at gives
    obtain ⟨found, inside, -⟩ := map_eq_ok gives
    exact absurd inside
      (flagSchema.collect_ne_ok both first second (flagField?_key field) found)

/-! ## Listings as maps -/

/-- Of the members of an object, a listing has the values under its keys and nothing else, and from
its number fields and those of its flags it takes integers in their bounds only. A key of its own
that comes twice spoils it, whatever else there is. -/
theorem reads_as_map :
    (∀ d d' : Document, AreWritten .use (maxDepth - 1) d.members →
      AreWritten .use (maxDepth - 1) d'.members →
      (schema.known d.members).Perm (schema.known d'.members) →
      listing? d.text = listing? d'.text) ∧
    (∀ (d : Document) (field : Field) (bound : Nat) (m : Member),
      AreWritten .use (maxDepth - 1) d.members → field.bound? = some bound →
      d.members.filter (·.key = field.key) = [m] →
      (∀ n < bound, m.value.core ≠ Decimal.digits n) →
      listing? d.text = listing? { d with members := without field.key d.members }.text) ∧
    (∀ (d : Document) (before after : List Member) (flags : Member) (gap : Text)
      (inner : List Member) (field : FlagField) (bound : Nat) (m : Member),
      AreWritten .use (maxDepth - 1) d.members → d.members = before ++ flags :: after →
      flags.key = Field.splitFlags.key → flags.value.core = objectText gap inner → AllBlank gap →
      AreWritten .use (maxDepth - 2) inner → field.bound? = some bound →
      inner.filter (·.key = field.key) = [m] →
      (∀ n < bound, m.value.core ≠ Decimal.digits n) →
      listing? d.text = listing? { d with
        members := before ++ withObject flags gap (without field.key inner) :: after }.text) ∧
    (∀ (kind : Purpose) (depth : Nat) (d : Document) (m n : Member) (field : Field),
      AreWritten kind depth d.members → [m, n].Sublist d.members →
      Spells m.spelled field.key → Spells n.spelled field.key →
      ∃ fault, read d.text = .error fault) ∧
    (∀ (kind : Purpose) (depth innerDepth : Nat) (d : Document) (flags : Member) (gap : Text)
      (inner : List Member) (m n : Member) (field : FlagField),
      AreWritten kind depth d.members → flags ∈ d.members →
      Spells flags.spelled Field.splitFlags.key → flags.value.core = objectText gap inner →
      AllBlank gap → AreWritten kind innerDepth inner → [m, n].Sublist inner →
      Spells m.spelled field.key → Spells n.spelled field.key →
      ∃ fault, read d.text = .error fault) := by
  refine ⟨?order, ?number, ?flags, ?twice, ?twiceInFlags⟩
  case order => exact fun d d' written written' same => listing?_of_known written written' same
  case number => exact fun d field bound m written number only odd =>
    listing?_without written number only odd
  case flags =>
    intro d before after flags gap inner field bound m written place key object blank innerWritten
      number only odd
    exact listing?_withObject written place key object blank innerWritten number only odd
  case twice =>
    intro kind depth d m n field written both spells again
    exact read_twice written both spells again
  case twiceInFlags =>
    intro kind depth innerDepth d flags gap inner m n field written place key object blank
      innerWritten both spells again
    exact read_twice_splitFlags written place key blank object innerWritten both spells again

/-- A zero with a sign, which is no integer. -/
def negativeZero (key : Text) : Member := printedMember key ['-', '0']

def negativeZeros (keys : List Text) : Document := { members := keys.map negativeZero }

def negativeZerosInFlags (keys : List Text) : Document where
  members := [printedMember Field.splitFlags.key (objectText [] (keys.map negativeZero))]

theorem areWritten_negativeZero (depth : Nat) (keys : List Text) :
    AreWritten .use depth (keys.map negativeZero) := by
  intro m member
  obtain ⟨key, _, rfl⟩ := List.mem_map.mp member
  have digits : IsDigits ['0'] :=
    ⟨List.cons_ne_nil '0' [], List.forall_mem_singleton.mpr (by decide)⟩
  have number : NumberText ['-', '0'] ⟨true, ['0'], none, none⟩ :=
    @NumberText.mk true ['0'] [] none none digits (by decide) (by simp) .absent
  exact ⟨spells_escape key, .scalar (.usable (.decimal number (by decide) (by decide)))⟩

theorem areWritten_negativeZerosInFlags (depth : Nat) (keys : List Text) :
    AreWritten .use (depth + 1) (negativeZerosInFlags keys).members := by
  intro m member
  obtain rfl := List.mem_singleton.mp member
  have inner := areWritten_negativeZero depth keys
  exact ⟨spells_escape _, .object (by simp [AllBlank]) (fun n here => (inner n here).1)
    fun n here => (inner n here).2⟩

/-- Each part of the result at negative zeros, among unknown members, alone and twice. -/
theorem reads_as_map_negativeZero :
    listing? (negativeZeros [['x'], Field.tinfo1.key]).text =
      listing? (negativeZeros [Field.tinfo1.key, ['y'], ['y']]).text ∧
    listing? (negativeZeros [Field.tinfo1.key]).text = listing? (negativeZeros []).text ∧
    listing? (negativeZerosInFlags [FlagField.aspectRatio.key]).text =
      listing? (negativeZerosInFlags []).text ∧
    (∃ fault, read (negativeZeros [Field.tinfo1.key, ['x'], Field.tinfo1.key]).text =
      .error fault) ∧
    ∃ fault, read (negativeZerosInFlags [FlagField.aspectRatio.key, FlagField.aspectRatio.key]).text
      = .error fault := by
  obtain ⟨order, number, flags, twice, twiceInFlags⟩ := reads_as_map
  have odd (n : Nat) : ['-', '0'] ≠ Decimal.digits n := fun same => by
    have digit := (isDigits_digits n).2 '-' (same ▸ List.mem_cons_self)
    exact absurd digit (by decide)
  have blank : AllBlank [] := by simp [AllBlank]
  refine ⟨?_, ?_, ?_, ?_, ?_⟩
  · exact order _ _ (areWritten_negativeZero _ _) (areWritten_negativeZero _ _) (by decide)
  · exact number _ .tinfo1 _ _ (areWritten_negativeZero _ _) rfl rfl fun n _ => odd n
  · have exchanged := flags (negativeZerosInFlags [FlagField.aspectRatio.key]) [] []
      (printedMember Field.splitFlags.key
        (objectText [] ([FlagField.aspectRatio.key].map negativeZero))) []
      ([FlagField.aspectRatio.key].map negativeZero) .aspectRatio UInt8.size
      (negativeZero FlagField.aspectRatio.key) (areWritten_negativeZerosInFlags _ _) rfl rfl rfl
      blank (areWritten_negativeZero _ _) rfl rfl fun n _ => odd n
    have gone : without FlagField.aspectRatio.key
        ([FlagField.aspectRatio.key].map negativeZero) = [] := rfl
    rw [gone] at exchanged
    exact exchanged
  · exact twice .use 0 _ _ _ .tinfo1 (areWritten_negativeZero _ _)
      (.cons_cons _ (.cons _ (.cons_cons _ .slnil))) (spells_escape _) (spells_escape _)
  · exact twiceInFlags .use 1 0 _ _ [] _ _ _ .aspectRatio (areWritten_negativeZerosInFlags _ _)
      (List.mem_singleton_self _) (spells_escape _) rfl blank (areWritten_negativeZero _ [_, _])
      (.refl _) (spells_escape _) (spells_escape _)

/-- It takes more than being no larger than the largest double not to be too large: this number
overflows where its digits and its power of ten are multiplied as doubles. -/
theorem read_overflow :
    1797693134862315708 * 10 ^ 290 ≤ (2 ^ 53 - 1) * 2 ^ 971 ∧
      read "\x7b\"Tinfo1\":1797693134862315708e290\x7d".toList = .error .malformed ∧
      read "\x7b\x7d".toList = .ok ⟨{}, []⟩ := by
  decide +kernel

end Sauce.Listing

end Textmode
