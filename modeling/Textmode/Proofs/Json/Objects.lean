import Textmode.Json.Schema
import Textmode.Proofs.Json.Values

/-! Records in JSON, taken apart. An object is read as what its members give, one after the other.
What one of them gives depends neither on the blanks nor on the members around it, but for a field
that has a value already.
-/

set_option autoImplicit false

namespace Textmode.Json

def keyOf (spelled : Text) : Except Fault Text := (unquote .use (spelled ++ ['"'])).map Prod.fst

theorem keyOf_of_spells {s t : Text} (spells : Spells s t) : keyOf s = .ok t := by
  rw [keyOf, unquote_of_spells spells []]
  rfl

theorem unquote_key {s : Text} (quotable : Quotable s) (rest : Text) :
    unquote .use (s ++ '"' :: rest) = (keyOf s).map (·, rest) := by
  rcases quotable.spellsOrFails with ⟨t, spells⟩ | ⟨fault, read⟩
  · rw [unquote_of_spells spells, keyOf_of_spells spells]
    rfl
  · rw [read, keyOf, read]
    rfl

theorem nextKey_close {gap : Text} (blank : AllBlank gap) (first : Bool) (rest : Text) :
    nextKey first (gap ++ '\x7d' :: rest) = .ok (.finished rest) := by
  rw [nextKey, nextChar_append blank (by decide)]
  rfl

theorem nextKey_blank {gap : Text} (blank : AllBlank gap) (first : Bool) (t : Text) :
    nextKey first (gap ++ t) = nextKey first t := by
  rw [nextKey, nextKey, nextChar_blank blank]

theorem nextKey_first (m : Member) (t : Text) : nextKey true (m.text ++ t) =
    .ok (.more (m.spelled ++ '"' :: (m.between ++ ':' :: (m.value.text ++ t)))) := by
  simp only [Member.text, List.append_assoc, List.cons_append]
  rw [nextKey, nextChar_append m.allBlank_before (by decide)]
  rfl

theorem nextKey_next (m : Member) (t : Text) : nextKey false (',' :: (m.text ++ t)) =
    .ok (.more (m.spelled ++ '"' :: (m.between ++ ':' :: (m.value.text ++ t)))) := by
  have comma := nextChar_cons (c := ',') (by decide) (m.text ++ t)
  have quote := nextChar_append m.allBlank_before (c := '"') (by decide)
    (m.spelled ++ '"' :: (m.between ++ ':' :: (m.value.text ++ t)))
  simp only [Member.text, List.append_assoc, List.cons_append] at comma ⊢
  rw [nextKey, comma]
  simp only [bind, Except.bind, quote]
  rfl

def without (key : Text) (ms : List Member) : List Member := ms.filter (·.key ≠ key)

theorem mem_of_filter_eq {p : Member → Prop} [DecidablePred p] {ms : List Member} {m : Member}
    (only : ms.filter p = [m]) : m ∈ ms ∧ p m := by
  have member : m ∈ ms.filter p := only ▸ List.mem_singleton_self m
  exact ⟨(List.mem_filter.mp member).1, of_decide_eq_true (List.mem_filter.mp member).2⟩

namespace Schema

variable {φ υ : Type} (schema : Schema φ υ)

def field? (key : Text) : Option φ := schema.fields.find? (schema.key · = key)

def result (field : φ) (v : Text) : Except Fault υ := (schema.value field v).map Prod.fst

/-- What is read of a well-formed value does not depend on where it stands. -/
def Settled : Prop := ∀ (field : φ) {kind : Purpose} {depth : Nat} {v : Text},
  IsValue kind depth v → ∃ o, Takes (schema.value field) v o

variable {schema} in
theorem Settled.takes (settled : schema.Settled) {kind : Purpose} {depth : Nat} {v : Text}
    (value : IsValue kind depth v) (field : φ) :
    Takes (schema.value field) v (schema.result field v) := by
  obtain ⟨o, takes⟩ := settled field value
  rw [result, takes.map_fst]
  exact takes

/-! ## Objects -/

section Objects

variable [DecidableEq φ]

def given (found : List (φ × υ)) (m : Member) : Except Fault (Option (φ × υ)) :=
  (keyOf m.spelled).bind fun key =>
    match schema.field? key with
    | none => .ok none
    | some field =>
      if field ∈ found.map Prod.fst then .error .wrongShape
      else (schema.result field m.value.core).map fun v => some (field, v)

def collect (found : List (φ × υ)) : List Member → Except Fault (List (φ × υ))
  | [] => .ok found
  | m :: ms => (schema.given found m).bind fun entry => collect (found ++ entry.toList) ms

theorem members_eq (found : List (φ × υ)) (first : Bool) (t : Text) :
    schema.members found first t = (nextKey first t).bind fun
      | .finished rest => .ok (found, rest)
      | .more t => (schema.member found t).bind fun (entry, rest) =>
        schema.members (found ++ entry.toList) false rest := by
  conv_lhs => rw [members]
  split
  · next fault => rw [fault]; rfl
  · next finished => rw [finished]; rfl
  · next more =>
    rw [more]
    simp only [Except.bind]
    split <;> next read => rw [read]

theorem members_blank {gap : Text} (blank : AllBlank gap) (found : List (φ × υ)) (first : Bool)
    (t : Text) : schema.members found first (gap ++ t) = schema.members found first t := by
  rw [members_eq, members_eq, nextKey_blank blank]

variable {schema} in
theorem member_append (settled : schema.Settled) {kind : Purpose} {depth : Nat} {m : Member}
    (key : Quotable m.spelled) (value : IsValue kind depth m.value.core) (found : List (φ × υ))
    {rest : Text} (ends : Ends rest) :
    schema.member found (m.spelled ++ '"' :: (m.between ++ ':' :: (m.value.text ++ rest))) =
      (schema.given found m).map (·, m.value.after ++ rest) := by
  have ends := ends.append m.value.allBlank_after
  have behind := colon_append m.allBlank_between (m.value.text ++ rest)
  have text : m.value.text ++ rest =
      m.value.before ++ (m.value.core ++ (m.value.after ++ rest)) := by
    simp only [Spaced.text, List.append_assoc]
  rw [text] at behind ⊢
  rw [member, given, unquote_key key]
  cases keyOf m.spelled with
  | error fault => rfl
  | ok name =>
    simp only [Except.map, Except.bind, bind, field?]
    cases schema.fields.find? (schema.key · = name) with
    | none =>
      simp only [behind, skip_of_isValue value m.value.allBlank_before ends]
      rfl
    | some field =>
      dsimp only
      -- A field that has a value is refused before another one is read.
      split
      · rfl
      · simp only [behind, settled.takes value field _ _ m.value.allBlank_before ends]
        cases schema.result field m.value.core <;> rfl

variable {schema} in
theorem members_more (settled : schema.Settled) {kind : Purpose} {depth : Nat} {m : Member}
    (key : Quotable m.spelled) (value : IsValue kind depth m.value.core) (found : List (φ × υ))
    {first : Bool} {t rest : Text} (ends : Ends rest) (next : nextKey first t =
      .ok (.more (m.spelled ++ '"' :: (m.between ++ ':' :: (m.value.text ++ rest))))) :
    schema.members found first t = (schema.given found m).bind fun entry =>
      schema.members (found ++ entry.toList) false rest := by
  rw [members_eq, next, Except.bind]
  dsimp only
  rw [member_append settled key value found ends]
  cases schema.given found m with
  | error fault => rfl
  | ok entry => exact schema.members_blank m.value.allBlank_after _ false rest

variable {schema} in
theorem members_append (settled : schema.Settled) {kind : Purpose} {depth : Nat}
    {ms : List Member} (keys : ∀ m ∈ ms, Quotable m.spelled)
    (values : ∀ m ∈ ms, IsValue kind depth m.value.core) {gap : Text} (blank : AllBlank gap)
    (found : List (φ × υ)) (rest : Text) :
    schema.members found false
        ((ms.map Member.text).flatMap (',' :: ·) ++ (gap ++ '\x7d' :: rest)) =
      (schema.collect found ms).map (·, rest) := by
  induction ms generalizing found with
  | nil =>
    rw [List.map_nil, List.flatMap_nil, List.nil_append, members_eq, nextKey_close blank]
    rfl
  | cons m ms ih =>
    have others := ih (fun n member => keys n (List.mem_cons_of_mem m member))
      fun n member => values n (List.mem_cons_of_mem m member)
    have ends : Ends ((ms.map Member.text).flatMap (',' :: ·) ++ (gap ++ '\x7d' :: rest)) :=
      ends_pieces blank _ .object rest
    rw [List.map_cons, List.flatMap_cons, List.append_assoc, List.cons_append,
      members_more settled (keys m List.mem_cons_self) (values m List.mem_cons_self) found ends
        (nextKey_next m _), collect]
    cases schema.given found m with
    | error fault => rfl
    | ok entry => exact others _

variable {schema} in
theorem takes_record_object (settled : schema.Settled) {kind : Purpose} {depth : Nat}
    {ms : List Member} (keys : ∀ m ∈ ms, Quotable m.spelled)
    (values : ∀ m ∈ ms, IsValue kind depth m.value.core) {gap : Text} (blank : AllBlank gap) :
    Takes schema.record (objectText gap ms) (schema.collect [] ms) := by
  intro lead rest blankLead _
  rw [objectText, List.cons_append, List.append_assoc, List.append_assoc, List.singleton_append,
    record, nextChar_append blankLead (by decide)]
  change schema.members [] true _ = _
  cases ms with
  | nil =>
    rw [List.map_nil, separated, List.intercalate_nil, List.nil_append, members_eq,
      nextKey_close blank]
    rfl
  | cons m ms =>
    have others := members_append settled (fun n member => keys n (List.mem_cons_of_mem m member))
      (fun n member => values n (List.mem_cons_of_mem m member)) blank
    have ends : Ends ((ms.map Member.text).flatMap (',' :: ·) ++ (gap ++ '\x7d' :: rest)) :=
      ends_pieces blank _ .object rest
    rw [List.map_cons, separated_cons, List.append_assoc,
      members_more settled (keys m List.mem_cons_self) (values m List.mem_cons_self) [] ends
        (nextKey_first m _), collect]
    cases schema.given [] m with
    | error fault => rfl
    | ok entry => exact others _ rest

theorem given_eq_ok_iff {found : List (φ × υ)} {m : Member} {entry : Option (φ × υ)} :
    schema.given found m = .ok entry ↔
      schema.given [] m = .ok entry ∧ ∀ e ∈ entry, e.1 ∉ found.map Prod.fst := by
  rw [given, given]
  cases keyOf m.spelled with
  | error fault => simp [Except.bind]
  | ok key =>
    simp only [Except.bind]
    cases schema.field? key with
    | none => simp +contextual [eq_comm]
    | some field =>
      dsimp only
      rw [if_neg (show field ∉ ([] : List (φ × υ)).map Prod.fst by simp)]
      -- A second value is refused for its key, but only a value that can be read gives an entry.
      cases schema.result field m.value.core with
      | error fault => split <;> simp [Except.map]
      | ok v =>
        have gives : (Except.ok v : Except Fault υ).map (fun v => some (field, v)) = .ok entry ↔
            some (field, v) = entry := by simp [Except.map]
        rw [gives]
        split
        · next again =>
          constructor
          · simp
          · rintro ⟨rfl, fresh⟩
            exact absurd again (fresh _ rfl)
        · next fresh =>
          rw [gives]
          constructor
          · rintro rfl
            exact ⟨rfl, by rintro _ ⟨⟩; exact fresh⟩
          · exact And.left

def knows (m : Member) : Bool := (schema.field? m.key).isSome

/-- The known members, without the ways they are written. -/
def known (ms : List Member) : List (Text × Text) :=
  (ms.filter schema.knows).map fun m => (m.key, m.value.core)

def gives (key v : Text) : Except Fault (Option (φ × υ)) :=
  match schema.field? key with
  | none => .ok none
  | some field => (schema.result field v).map fun v => some (field, v)

theorem given_of_spells {m : Member} {key : Text} (spells : Spells m.spelled key) :
    schema.given [] m = schema.gives key m.value.core := by
  rw [given, keyOf_of_spells spells]
  dsimp only [Except.bind]
  rw [gives]
  cases schema.field? key with
  | none => rfl
  | some field => exact if_neg (by simp)

omit [DecidableEq φ] in
theorem gives_of_not_knows {m : Member} (unknown : ¬ schema.knows m) :
    schema.gives m.key m.value.core = .ok none := by
  rw [gives, Option.not_isSome_iff_eq_none.mp unknown]

theorem given_of_field? {m : Member} {key : Text} {field : φ} (spells : Spells m.spelled key)
    (known : schema.field? key = some field) : schema.given [] m =
      (schema.result field m.value.core).map fun v => some (field, v) := by
  rw [given_of_spells schema spells, gives, known]

def given? (m : Member) : Option (φ × υ) := (schema.given [] m).toOption.join

theorem given?_of_given {m : Member} {entry : Option (φ × υ)}
    (gives : schema.given [] m = .ok entry) : schema.given? m = entry := by
  rw [given?, gives]
  rfl

theorem collect_cons_eq_ok_iff {m : Member} {ms : List Member} {found all : List (φ × υ)} :
    schema.collect found (m :: ms) = .ok all ↔
      ∃ entry, schema.given [] m = .ok entry ∧ (∀ e ∈ entry, e.1 ∉ found.map Prod.fst) ∧
        schema.collect (found ++ entry.toList) ms = .ok all := by
  simp only [collect, ← and_assoc, ← given_eq_ok_iff]
  cases schema.given found m with
  | error fault => simp [Except.bind]
  | ok entry => simp [Except.bind]

theorem collect_eq_ok_iff {ms : List Member} {found all : List (φ × υ)}
    (fresh : (found.map Prod.fst).Nodup) :
    schema.collect found ms = .ok all ↔
      (∀ m ∈ ms, ∃ entry, schema.given [] m = .ok entry) ∧
        all = found ++ ms.filterMap schema.given? ∧ (all.map Prod.fst).Nodup := by
  induction ms generalizing found with
  | nil =>
    simp only [collect, Except.ok.injEq, List.filterMap_nil, List.append_nil]
    constructor
    · rintro rfl
      exact ⟨by simp, rfl, fresh⟩
    · rintro ⟨-, rfl, -⟩
      rfl
  | cons m ms ih =>
    rw [List.forall_mem_cons, collect_cons_eq_ok_iff]
    -- Fields stay distinct as long as each member gives a new one.
    have more {entry : Option (φ × υ)} (apart : ∀ e ∈ entry, e.1 ∉ found.map Prod.fst) :
        ((found ++ entry.toList).map Prod.fst).Nodup := by
      cases entry with
      | none => simpa using fresh
      | some e =>
        rw [Option.toList, List.map_append, List.nodup_append]
        refine ⟨fresh, by simp, ?_⟩
        rintro a member b last rfl
        exact apart e rfl (List.mem_singleton.mp last ▸ member)
    have entries {entry : Option (φ × υ)} (gives : schema.given [] m = .ok entry) :
        found ++ (m :: ms).filterMap schema.given? =
          found ++ entry.toList ++ ms.filterMap schema.given? := by
      rw [List.filterMap_cons, schema.given?_of_given gives]
      cases entry <;> simp
    constructor
    · rintro ⟨entry, gives, apart, rest⟩
      obtain ⟨others, same, nodup⟩ := (ih (more apart)).mp rest
      exact ⟨⟨⟨entry, gives⟩, others⟩, same.trans (entries gives).symm, nodup⟩
    · rintro ⟨⟨⟨entry, gives⟩, others⟩, same, nodup⟩
      rw [entries gives] at same
      have apart : ∀ e ∈ entry, e.1 ∉ found.map Prod.fst := by
        intro e given twice
        obtain rfl := Option.mem_def.mp given
        rw [same, Option.toList, List.append_assoc, List.map_append, List.nodup_append] at nodup
        exact nodup.2.2 _ twice _ List.mem_cons_self rfl
      exact ⟨entry, gives, apart, (ih (more apart)).mpr ⟨others, same, nodup⟩⟩

theorem collect_ne_ok {m n : Member} {ms : List Member} (both : [m, n].Sublist ms) {key : Text}
    (first : Spells m.spelled key) (second : Spells n.spelled key) {field : φ}
    (known : schema.field? key = some field) (all : List (φ × υ)) :
    schema.collect [] ms ≠ .ok all := by
  intro collected
  obtain ⟨given, rfl, nodup⟩ := (schema.collect_eq_ok_iff (by simp)).mp collected
  have entry {m : Member} (spells : Spells m.spelled key) (member : m ∈ ms) :
      ∃ v, schema.given? m = some (field, v) := by
    obtain ⟨e, gives⟩ := given m member
    obtain ⟨v, _, rfl⟩ := map_eq_ok ((schema.given_of_field? spells known).symm.trans gives)
    exact ⟨v, schema.given?_of_given gives⟩
  obtain ⟨v, firstEntry⟩ := entry first (both.subset (by simp))
  obtain ⟨w, secondEntry⟩ := entry second (both.subset (by simp))
  have twice := (both.filterMap schema.given?).map Prod.fst
  simp only [List.filterMap_cons, firstEntry, secondEntry, List.filterMap_nil, List.map_cons,
    List.map_nil] at twice
  have apart := nodup.sublist twice
  simp at apart

theorem filterMap_given? {ms : List Member} (keys : ∀ m ∈ ms, Spells m.spelled m.key) :
    ms.filterMap schema.given? =
      (schema.known ms).filterMap fun (key, v) => (schema.gives key v).toOption.join := by
  rw [known, List.filterMap_map, List.filterMap_filter]
  refine List.filterMap_congr fun m member => ?_
  rw [given?, schema.given_of_spells (keys m member)]
  by_cases knows : schema.knows m
  · rw [if_pos knows]
    rfl
  · rw [if_neg knows, schema.gives_of_not_knows knows]
    rfl

/-- Neither the order of members nor unknown keys among them make a difference. -/
theorem collect_perm {ms ms' : List Member} (keys : ∀ m ∈ ms, Spells m.spelled m.key)
    (keys' : ∀ m ∈ ms', Spells m.spelled m.key) (known : (schema.known ms).Perm (schema.known ms'))
    {all : List (φ × υ)} (collected : schema.collect [] ms = .ok all) :
    ∃ all', schema.collect [] ms' = .ok all' ∧ all.Perm all' ∧ (all.map Prod.fst).Nodup := by
  -- Only the entries are permuted; that every member can be taken goes over by its key and value.
  obtain ⟨given, rfl, nodup⟩ := (schema.collect_eq_ok_iff (by simp)).mp collected
  have entries := known.filterMap fun (key, v) => (schema.gives key v).toOption.join
  rw [← schema.filterMap_given? keys, ← schema.filterMap_given? keys'] at entries
  refine ⟨_, (schema.collect_eq_ok_iff (by simp)).mpr ⟨fun m member => ?_, rfl, ?_⟩, entries, nodup⟩
  · rw [schema.given_of_spells (keys' m member)]
    by_cases knows : schema.knows m
    · have here : (m.key, m.value.core) ∈ schema.known ms' :=
        List.mem_map.mpr ⟨m, List.mem_filter.mpr ⟨member, knows⟩, rfl⟩
      obtain ⟨n, there, same⟩ := List.mem_map.mp (known.mem_iff.mpr here)
      obtain ⟨sameKey, sameValue⟩ := Prod.mk.inj same
      have there := (List.mem_filter.mp there).1
      rw [← sameKey, ← sameValue, ← schema.given_of_spells (keys n there)]
      exact given n there
    · exact ⟨none, schema.gives_of_not_knows knows⟩
  · exact (entries.map Prod.fst).nodup_iff.mp nodup

theorem field_of_mem_collect {ms : List Member} (keys : ∀ m ∈ ms, Spells m.spelled m.key)
    {all : List (φ × υ)} (collected : schema.collect [] ms = .ok all) {field : φ}
    (member : field ∈ all.map Prod.fst) : ∃ m ∈ ms, m.key = schema.key field := by
  obtain ⟨given, rfl, -⟩ := (schema.collect_eq_ok_iff (by simp)).mp collected
  obtain ⟨⟨_, v⟩, entry, rfl⟩ := List.mem_map.mp member
  obtain ⟨m, here, gives⟩ := List.mem_filterMap.mp entry
  obtain ⟨e, same⟩ := given m here
  obtain rfl := (schema.given?_of_given same).symm.trans gives
  rw [schema.given_of_spells (keys m here), Schema.gives] at same
  refine ⟨m, here, ?_⟩
  cases named : schema.field? m.key with
  | none =>
    rw [named] at same
    cases same
  | some other =>
    rw [named] at same
    obtain ⟨_, _, same⟩ := map_eq_ok same
    obtain ⟨rfl, -⟩ := Prod.mk.inj (Option.some.inj same)
    have key := List.find?_some named
    exact (of_decide_eq_true key).symm

theorem collect_without {ms : List Member} (keys : ∀ m ∈ ms, Spells m.spelled m.key) {field : φ}
    (named : schema.field? (schema.key field) = some field) {m : Member}
    (only : ms.filter (·.key = schema.key field) = [m]) {v : υ}
    (value : schema.result field m.value.core = .ok v) :
    (∀ all, schema.collect [] ms = .ok all →
      ∃ rest, schema.collect [] (without (schema.key field) ms) = .ok rest ∧
        all.Perm ((field, v) :: rest) ∧ (all.map Prod.fst).Nodup) ∧
    ∀ rest, schema.collect [] (without (schema.key field) ms) = .ok rest →
      ∃ all, schema.collect [] ms = .ok all := by
  -- With the member moved to the front, what the others give is collected behind it.
  have here := mem_of_filter_eq only
  have others : ∀ n ∈ without (schema.key field) ms, Spells n.spelled n.key :=
    fun n member => keys n (List.mem_filter.mp member).1
  have order : (m :: without (schema.key field) ms).Perm ms := by
    have perm := List.filter_append_perm (fun n => decide (n.key = schema.key field)) ms
    rw [only, List.singleton_append] at perm
    simpa only [without, ne_eq, decide_not] using perm
  have known := (order.filter schema.knows).map fun m => (m.key, m.value.core)
  have every : ∀ n ∈ m :: without (schema.key field) ms, Spells n.spelled n.key :=
    fun n member => keys n (order.mem_iff.mp member)
  have gives : schema.given [] m = .ok (some (field, v)) := by
    rw [schema.given_of_field? (keys m here.1) (here.2 ▸ named), value]
    rfl
  have first {rest : List (φ × υ)}
      (collected : schema.collect [] (without (schema.key field) ms) = .ok rest) :
      schema.collect [] (m :: without (schema.key field) ms) = .ok ((field, v) :: rest) := by
    have fresh : field ∉ rest.map Prod.fst := fun member => by
      obtain ⟨n, there, same⟩ := schema.field_of_mem_collect others collected member
      exact of_decide_eq_true (List.mem_filter.mp there).2 same
    obtain ⟨given, rfl, nodup⟩ := (schema.collect_eq_ok_iff (by simp)).mp collected
    refine (schema.collect_eq_ok_iff (by simp)).mpr ⟨?_, ?_, List.nodup_cons.mpr ⟨fresh, nodup⟩⟩
    · exact List.forall_mem_cons.mpr ⟨⟨_, gives⟩, given⟩
    · rw [List.filterMap_cons, schema.given?_of_given gives]
      rfl
  refine ⟨fun all collected => ?_, fun rest collected => ?_⟩
  · obtain ⟨_, front, perm, nodup⟩ := schema.collect_perm keys every known.symm collected
    obtain ⟨given, rfl, apart⟩ := (schema.collect_eq_ok_iff (by simp)).mp front
    rw [List.nil_append, List.filterMap_cons, schema.given?_of_given gives] at perm apart
    refine ⟨_, (schema.collect_eq_ok_iff (by simp)).mpr ⟨?_, rfl, ?_⟩, perm, nodup⟩
    · exact fun n member => given n (List.mem_cons_of_mem m member)
    · exact (List.nodup_cons.mp apart).2
  · obtain ⟨all, found, -⟩ := schema.collect_perm every keys known (first collected)
    exact ⟨all, found⟩

/-- A member can be exchanged for another one of its field. -/
theorem collect_exchange {before after : List Member} {m n : Member} {field : φ} {v w : υ}
    (old : schema.given [] m = .ok (some (field, v)))
    (new : schema.given [] n = .ok (some (field, w))) {all : List (φ × υ)}
    (collected : schema.collect [] (before ++ m :: after) = .ok all) :
    ∃ front back, all = front ++ (field, v) :: back ∧
      schema.collect [] (before ++ n :: after) = .ok (front ++ (field, w) :: back) := by
  obtain ⟨given, rfl, nodup⟩ := (schema.collect_eq_ok_iff (by simp)).mp collected
  have entries {m : Member} {v : υ} (gives : schema.given [] m = .ok (some (field, v))) :
      (before ++ m :: after).filterMap schema.given? =
        before.filterMap schema.given? ++ (field, v) :: after.filterMap schema.given? := by
    rw [List.filterMap_append, List.filterMap_cons, schema.given?_of_given gives]
  refine ⟨_, _, entries old, (schema.collect_eq_ok_iff (by simp)).mpr ⟨?_, (entries new).symm, ?_⟩⟩
  · intro other member
    rcases List.mem_append.mp member with front | back
    · exact given other (List.mem_append_left _ front)
    rcases List.mem_cons.mp back with rfl | back
    · exact ⟨_, new⟩
    · exact given other (List.mem_append_right _ (List.mem_cons_of_mem m back))
  · rw [List.nil_append, entries old] at nodup
    simpa using nodup

end Objects

/-! ## Arrays -/

section Arrays

theorem nextElement_close {gap : Text} (blank : AllBlank gap) (first : Bool) (rest : Text) :
    nextElement first (gap ++ ']' :: rest) = .ok (.finished rest) := by
  rw [nextElement, nextChar_append blank (by decide)]
  rfl

theorem nextElement_blank {gap : Text} (blank : AllBlank gap) (t : Text) :
    nextElement false (gap ++ t) = nextElement false t := by
  rw [nextElement, nextElement, nextChar_blank blank]
  rfl

theorem elements_blank {gap : Text} (blank : AllBlank gap) (fields : List φ) (t : Text) :
    schema.elements fields false (gap ++ t) = schema.elements fields false t := by
  cases fields with
  | nil => rw [elements, elements, nextChar_blank blank]
  | cons field fields => rw [elements, elements, nextElement_blank blank]

theorem nextChar_element {kind : Purpose} {depth : Nat} {e : Spaced}
    (value : IsValue kind depth e.core) (t : Text) :
    ∃ c rest, c ≠ ']' ∧ nextChar (e.text ++ t) = .ok (c, rest) := by
  obtain ⟨c, more, same, dark, notClosing⟩ := value.exists_cons
  refine ⟨c, more ++ (e.after ++ t), notClosing, ?_⟩
  rw [Spaced.text, same, List.append_assoc, List.append_assoc, List.cons_append]
  exact nextChar_append e.allBlank_before dark _

theorem nextElement_first {kind : Purpose} {depth : Nat} {e : Spaced}
    (value : IsValue kind depth e.core) (t : Text) :
    nextElement true (e.text ++ t) = .ok (.more (e.text ++ t)) := by
  obtain ⟨c, rest, more, next⟩ := nextChar_element value t
  simp only [nextElement, next, bind, Except.bind, if_neg more]
  rfl

theorem nextElement_next {kind : Purpose} {depth : Nat} {e : Spaced}
    (value : IsValue kind depth e.core) (t : Text) :
    nextElement false (',' :: (e.text ++ t)) = .ok (.more (e.text ++ t)) := by
  have comma := nextChar_cons (c := ',') (by decide) (e.text ++ t)
  obtain ⟨c, rest, more, next⟩ := nextChar_element value t
  simp only [nextElement, comma, next, bind, Except.bind, if_neg more]
  rfl

variable {schema}

theorem elements_more (settled : schema.Settled) {kind : Purpose} {depth : Nat} {e : Spaced}
    (value : IsValue kind depth e.core) {field : φ} {fields : List φ} {first : Bool} {t rest : Text}
    (ends : Ends rest) (next : nextElement first t = .ok (.more (e.text ++ rest))) :
    schema.elements (field :: fields) first t = (schema.result field e.core).bind fun v =>
      (schema.elements fields false rest).map fun (more, rest) => ((field, v) :: more, rest) := by
  have read := settled.takes value field _ _ e.allBlank_before (ends.append e.allBlank_after)
  rw [← List.append_assoc e.core, ← List.append_assoc, ← Spaced.text] at read
  rw [elements, next]
  simp only [bind, Except.bind, read]
  cases schema.result field e.core with
  | error fault => rfl
  | ok v =>
    simp only [Except.map, schema.elements_blank e.allBlank_after]
    cases schema.elements fields false rest <;> rfl

theorem elements_append (settled : schema.Settled) {kind : Purpose} {depth : Nat}
    {es : List Spaced} (values : ∀ e ∈ es, IsValue kind depth e.core) {gap : Text}
    (blank : AllBlank gap) (fields : List φ) :
    ∃ o : Except Fault (List (φ × υ)), ∀ rest, schema.elements fields false
        ((es.map Spaced.text).flatMap (',' :: ·) ++ (gap ++ ']' :: rest)) = o.map (·, rest) := by
  induction fields generalizing es with
  | nil =>
    cases es with
    | nil =>
      refine ⟨.ok [], fun rest => ?_⟩
      rw [List.map_nil, List.flatMap_nil, List.nil_append, elements,
        nextChar_append blank (by decide)]
      rfl
    | cons e es => exact ⟨.error .malformed, fun rest => rfl⟩
  | cons field fields ih =>
    cases es with
    | nil =>
      refine ⟨.ok [], fun rest => ?_⟩
      rw [List.map_nil, List.flatMap_nil, List.nil_append, elements, nextElement_close blank]
      rfl
    | cons e es =>
      obtain ⟨others, read⟩ := ih fun other member => values other (List.mem_cons_of_mem e member)
      refine ⟨(schema.result field e.core).bind fun v => others.map ((field, v) :: ·),
        fun rest => ?_⟩
      have value := values e List.mem_cons_self
      have ends : Ends ((es.map Spaced.text).flatMap (',' :: ·) ++ (gap ++ ']' :: rest)) :=
        ends_pieces blank _ .array rest
      rw [List.map_cons, List.flatMap_cons, List.append_assoc, List.cons_append,
        elements_more settled value ends (nextElement_next value _), read]
      cases schema.result field e.core <;> cases others <;> rfl

theorem elements_separated (settled : schema.Settled) {kind : Purpose} {depth : Nat}
    {es : List Spaced} (values : ∀ e ∈ es, IsValue kind depth e.core) {gap : Text}
    (blank : AllBlank gap) (fields : List φ) :
    ∃ o : Except Fault (List (φ × υ)), ∀ rest, schema.elements fields true
        (separated (es.map Spaced.text) ++ (gap ++ ']' :: rest)) = o.map (·, rest) := by
  cases es with
  | nil =>
    refine ⟨.ok [], fun rest => ?_⟩
    rw [List.map_nil, separated, List.intercalate_nil, List.nil_append]
    cases fields with
    | nil =>
      rw [elements, nextChar_append blank (by decide)]
      rfl
    | cons field fields =>
      rw [elements, nextElement_close blank]
      rfl
  | cons e es =>
    have value := values e List.mem_cons_self
    have first rest : separated ((e :: es).map Spaced.text) ++ (gap ++ ']' :: rest) =
        e.text ++ ((es.map Spaced.text).flatMap (',' :: ·) ++ (gap ++ ']' :: rest)) := by
      rw [List.map_cons, separated_cons, List.append_assoc]
    cases fields with
    | nil =>
      -- More values than fields are refused before the next one is read.
      refine ⟨.error .malformed, fun rest => ?_⟩
      obtain ⟨c, t, more, next⟩ := nextChar_element value
        ((es.map Spaced.text).flatMap (',' :: ·) ++ (gap ++ ']' :: rest))
      rw [first, elements, next]
      exact if_neg more
    | cons field fields =>
      obtain ⟨others, read⟩ := elements_append settled
        (fun other member => values other (List.mem_cons_of_mem e member)) blank fields
      refine ⟨(schema.result field e.core).bind fun v => others.map ((field, v) :: ·),
        fun rest => ?_⟩
      have ends : Ends ((es.map Spaced.text).flatMap (',' :: ·) ++ (gap ++ ']' :: rest)) :=
        ends_pieces blank _ .array rest
      rw [first, elements_more settled value ends (nextElement_first value _), read]
      cases schema.result field e.core <;> cases others <;> rfl

end Arrays

/-- Where a record is asked for, any value is read to its end or found wrong. -/
theorem takes_record [DecidableEq φ] {schema : Schema φ υ} (settled : schema.Settled)
    {kind : Purpose} {depth : Nat} {v : Text} (value : IsValue kind depth v) :
    ∃ o, Takes schema.record v o := by
  cases value with
  | scalar written =>
    obtain ⟨o, -, read⟩ := scalar_of_isScalar .use written
    obtain ⟨c, t, rfl, dark, _, plain⟩ := written.exists_cons
    refine ⟨o.bind fun _ => .error .wrongShape, fun gap rest blank ends => ?_⟩
    have scanned := read rest ends
    rw [List.cons_append] at scanned ⊢
    rw [record, nextChar_append blank dark]
    dsimp only
    rw [plain, dropBlank_append blank dark, scanned]
    cases o <;> rfl
  | @array depth gap es blank values =>
    obtain ⟨o, read⟩ := elements_separated settled values blank schema.fields
    refine ⟨o, fun lead rest blankLead _ => ?_⟩
    rw [arrayText, List.cons_append, List.append_assoc, List.append_assoc, List.singleton_append,
      record, nextChar_append blankLead (by decide)]
    exact read rest
  | object blank keys values =>
    exact ⟨_, takes_record_object settled (fun m member => (keys m member).quotable) values blank⟩

theorem whole_of_takes [DecidableEq φ] {schema : Schema φ υ} {v : Text}
    {o : Except Fault (List (φ × υ))} (takes : Takes schema.record v o) {before after : Text}
    (blankBefore : AllBlank before) (blankAfter : AllBlank after) :
    schema.whole (before ++ (v ++ after)) = o := by
  have ends : Ends after := List.append_nil after ▸ Ends.append blankAfter (by simp [Ends])
  have nothing : dropBlank after = [] := by
    rw [← List.append_nil after, dropBlank_blank blankAfter]
    rfl
  rw [whole, takes before after blankBefore ends]
  cases o with
  | error fault => rfl
  | ok found => exact if_pos nothing

end Schema

end Textmode.Json
