import Textmode.Sauce.Listing.Printer
import Textmode.Proofs.Json.Integers
import Textmode.Proofs.Listing.Reader

/-! Listings written as JSON and read back. Every field is printed as a value that stands for what
the listing has there, so the reader finds the listing again, without a notice; and a listing of
what a record says has the details of the record.
-/

set_option autoImplicit false

namespace Textmode.Sauce

open Json

/-! ## Printed values -/

namespace Listing

def textItem (t : Option Text) : Item := t.elim .null .text

def natItem (n : Option Nat) : Item := n.elim .null fun n => .integer n

def switchItem (on : Option Bool) : Item := on.elim .null .bool

def dateItem : Option ListedDate → Item
  | some (.number n) => .integer n.toNat
  | some (.text t) => .text t
  | none => .null

theorem scalarText_quote (t : Text) : ScalarText (Json.quote t) (.text t) := .text (spells_escape t)

theorem scalarText_printText (t : Option Text) : ScalarText (printText t) (textItem t) := by
  cases t with
  | none => exact .null
  | some t => exact scalarText_quote t

theorem scalarText_printNat {α : Type} {toNat : α → Nat} (fits : ∀ a, toNat a < UInt64.size)
    (n : Option α) : ScalarText (printNat (n.map toNat)) (natItem (n.map toNat)) := by
  cases n with
  | none => exact .null
  | some a => exact scalarText_digits (fits a)

theorem scalarText_printSwitch (on : Option Bool) :
    ScalarText (printSwitch on) (switchItem on) := by
  rcases on with _ | _ | _
  · exact .null
  · exact .false
  · exact .true

theorem scalarText_printDate (date : Option ListedDate) :
    ScalarText (printDate date) (dateItem date) := by
  rcases date with _ | n | t
  · exact .null
  · exact scalarText_digits n.toNat_lt
  · exact scalarText_quote t

/-! ## Printed objects -/

def printedMember (key value : Text) : Member :=
  { spelled := key.flatMap escape, key, value := { core := value } }

theorem text_printedMember (key value : Text) :
    (printedMember key value).text = Json.quote key ++ ':' :: value := by
  simp [printedMember, Member.text, Spaced.text, Json.quote]

theorem printObject_eq (members : List (Text × Text)) :
    printObject members =
      objectText [] (members.map fun (key, value) => printedMember key value) := by
  have pieces : (members.map fun (key, value) => Json.quote key ++ ':' :: value) =
      (members.map fun (key, value) => printedMember key value).map Member.text := by
    rw [List.map_map]
    refine List.map_congr_left fun member _ => ?_
    exact (text_printedMember member.1 member.2).symm
  rw [printObject, objectText, separated, ← pieces]
  rfl

end Listing

open Listing

/-- Where every printed field is read as its value, the object is read as all of them. -/
theorem takes_printObject {φ υ : Type} [DecidableEq φ] {schema : Schema φ υ}
    (settled : schema.Settled) (distinct : schema.fields.Nodup)
    (found : ∀ field ∈ schema.fields, schema.field? (schema.key field) = some field)
    {text : φ → Text} {value : φ → υ} (depth : Nat)
    (values : ∀ field ∈ schema.fields, IsValue .use depth (text field))
    (results : ∀ field ∈ schema.fields, schema.result field (text field) = .ok (value field)) :
    Takes schema.record
      (printObject (schema.fields.map fun field => (schema.key field, text field)))
      (.ok (schema.fields.map fun field => (field, value field))) := by
  have gives : ∀ field ∈ schema.fields, schema.given []
      (printedMember (schema.key field) (text field)) = .ok (some (field, value field)) := by
    intro field here
    rw [schema.given_of_field? (spells_escape _) (found field here)]
    exact congrArg _ (results field here)
  -- Each member gives its own field, and no two fields are the same, so all are collected.
  have collected : schema.collect []
      (schema.fields.map fun field => printedMember (schema.key field) (text field)) =
      .ok (schema.fields.map fun field => (field, value field)) := by
    refine (schema.collect_eq_ok_iff (by simp)).mpr ⟨?_, ?_, ?_⟩
    · intro m member
      obtain ⟨field, here, rfl⟩ := List.mem_map.mp member
      exact ⟨_, gives field here⟩
    · rw [List.filterMap_map, List.nil_append, ← List.filterMap_eq_map]
      exact List.filterMap_congr fun field here => (schema.given?_of_given (gives field here)).symm
    · simpa [List.map_map, Function.comp_def] using distinct
  have keys : ∀ m ∈ schema.fields.map fun field => printedMember (schema.key field) (text field),
      Quotable m.spelled := by
    intro m member
    obtain ⟨field, _, rfl⟩ := List.mem_map.mp member
    exact (spells_escape _).quotable
  have cores : ∀ m ∈ schema.fields.map fun field => printedMember (schema.key field) (text field),
      IsValue .use depth m.value.core := by
    intro m member
    obtain ⟨field, here, rfl⟩ := List.mem_map.mp member
    exact values field here
  rw [printObject_eq, List.map_map, ← collected]
  exact Schema.takes_record_object settled keys cores (by simp [AllBlank])

theorem isValue_printObject {depth : Nat} {members : List (Text × Text)}
    (values : ∀ member ∈ members, IsValue .use depth member.2) :
    IsValue .use (depth + 1) (printObject members) := by
  rw [printObject_eq]
  refine .object (by simp [AllBlank]) (fun m member => ?_) (fun m member => ?_)
  · obtain ⟨⟨key, value⟩, _, rfl⟩ := List.mem_map.mp member
    exact spells_escape key
  · obtain ⟨⟨key, value⟩, here, rfl⟩ := List.mem_map.mp member
    exact values _ here

namespace Listing

/-! ## Parts of the flags -/

def SplitFlags.item (flags : SplitFlags) : FlagField → Item
  | .iceColors => switchItem flags.iceColors
  | .letterSpacing => natItem (flags.letterSpacing.map UInt8.toNat)
  | .aspectRatio => natItem (flags.aspectRatio.map UInt8.toNat)

def SplitFlags.entries (flags : SplitFlags) : List (FlagField × Item) :=
  FlagField.all.map fun field => (field, SplitFlags.item flags field)

theorem SplitFlags.scalarText_print (flags : SplitFlags) (field : FlagField) :
    ScalarText (SplitFlags.print flags field) (SplitFlags.item flags field) := by
  cases field with
  | iceColors => exact scalarText_printSwitch _
  | letterSpacing | aspectRatio =>
    exact scalarText_printNat (fun octet => Nat.lt_trans octet.toNat_lt (by decide)) _

theorem accepted_switchItem (on : Option Bool) :
    accepted switch? (switchItem on) = .ok (switchItem on) := by
  cases on <;> rfl

theorem SplitFlags.result_print (flags : SplitFlags) (field : FlagField) :
    flagSchema.result field (SplitFlags.print flags field) = .ok (SplitFlags.item flags field) := by
  have takes := takes_item_scalar (SplitFlags.scalarText_print flags field) (maxDepth - 2)
  refine Takes.map_fst ?_
  change Takes (flagValue field) _ _
  cases field with
  | iceColors =>
    rw [flagValue_iceColors]
    have accepts := takes_checked takes switch?
    rwa [SplitFlags.item, Except.bind, accepted_switchItem] at accepts
  | letterSpacing | aspectRatio =>
    rw [flagValue_number rfl]
    exact takes

theorem SplitFlags.takes_toJson (flags : SplitFlags) :
    Takes flagSchema.record (SplitFlags.toJson flags) (.ok (SplitFlags.entries flags)) :=
  takes_printObject settled_flags (by decide) (by decide) 0
    (fun field _ => .scalar (.usable (SplitFlags.scalarText_print flags field)))
    fun field _ => SplitFlags.result_print flags field

theorem SplitFlags.isValue_toJson (flags : SplitFlags) :
    IsValue .use 1 (SplitFlags.toJson flags) := by
  refine isValue_printObject fun member here => ?_
  obtain ⟨field, _, rfl⟩ := List.mem_map.mp here
  exact .scalar (.usable (SplitFlags.scalarText_print flags field))

theorem SplitFlags.takes_partsValue (flags : SplitFlags) :
    Takes partsValue (SplitFlags.toJson flags) (.ok (.parts (SplitFlags.entries flags))) :=
  partsValue_record (by decide) (by decide) (SplitFlags.takes_toJson flags)

/-! ## Fields -/

def item (l : Listing) : Field → Item
  | .title => textItem l.title
  | .author => textItem l.author
  | .group => textItem l.group
  | .date => dateItem l.date
  | .fileSize => natItem (l.fileSize.map UInt32.toNat)
  | .dataType => natItem (l.dataType.map UInt8.toNat)
  | .fileType => natItem (l.fileType.map UInt8.toNat)
  | .tinfo1 => natItem (l.tinfo1.map UInt16.toNat)
  | .tinfo2 => natItem (l.tinfo2.map UInt16.toNat)
  | .tinfo3 => natItem (l.tinfo3.map UInt16.toNat)
  | .tinfo4 => natItem (l.tinfo4.map UInt16.toNat)
  | .flags => natItem (l.flags.map UInt8.toNat)
  | .fontName => textItem l.fontName
  | .comments => textItem l.comments
  | .splitFlags => .null

def entry (l : Listing) : Field → Entry
  | .splitFlags => l.splitFlags.elim (.item .null) fun flags => .parts (SplitFlags.entries flags)
  | field => .item (l.item field)

def entries (l : Listing) : List (Field × Entry) :=
  Field.all.map fun field => (field, l.entry field)

theorem entry_plain (l : Listing) {field : Field}
    (plain : field = .splitFlags → l.splitFlags = none) : l.entry field = .item (l.item field) := by
  cases field with
  | splitFlags =>
    rw [entry, plain rfl]
    rfl
  | _ => rfl

theorem entry_splitFlags {l : Listing} {flags : SplitFlags} (split : l.splitFlags = some flags) :
    l.entry .splitFlags = .parts (SplitFlags.entries flags) := by
  rw [entry, split]
  rfl

theorem plain_or_splitFlags (l : Listing) (field : Field) :
    (field = .splitFlags → l.splitFlags = none) ∨
      field = .splitFlags ∧ ∃ flags, l.splitFlags = some flags := by
  by_cases parts : field = .splitFlags
  · cases l.splitFlags with
    | none => exact .inl fun _ => rfl
    | some flags => exact .inr ⟨parts, flags, rfl⟩
  · exact .inl fun same => absurd same parts

theorem scalarText_print (l : Listing) {field : Field}
    (plain : field = .splitFlags → l.splitFlags = none) :
    ScalarText (l.print field) (l.item field) := by
  cases field with
  | title | author | group | fontName | comments => exact scalarText_printText _
  | date => exact scalarText_printDate _
  | fileSize => exact scalarText_printNat (fun size => Nat.lt_trans size.toNat_lt (by decide)) _
  | dataType | fileType | flags =>
    exact scalarText_printNat (fun octet => Nat.lt_trans octet.toNat_lt (by decide)) _
  | tinfo1 | tinfo2 | tinfo3 | tinfo4 =>
    exact scalarText_printNat (fun word => Nat.lt_trans word.toNat_lt (by decide)) _
  | splitFlags =>
    rw [print, plain rfl]
    exact .null

theorem isValue_print (l : Listing) (field : Field) : IsValue .use 1 (l.print field) := by
  rcases l.plain_or_splitFlags field with plain | ⟨rfl, flags, split⟩
  · exact .scalar (.usable (l.scalarText_print plain))
  · rw [print, split]
    exact SplitFlags.isValue_toJson flags

theorem below?_integer {n bound : Nat} (fits : n < bound) :
    (Item.integer n).below? bound = some n := by
  rw [Item.below?, if_pos ⟨Int.natCast_nonneg n, Int.ofNat_lt.mpr fits⟩, Int.toNat_natCast]

theorem ofItem?_dateItem (date : ListedDate) :
    ListedDate.ofItem? (dateItem (some date)) = some date := by
  cases date with
  | text t => rfl
  | number n =>
    rw [dateItem, ListedDate.ofItem?, below?_integer n.toNat_lt, Option.map_some,
      UInt64.ofNat_toNat]
    simp

theorem accepted_textItem (t : Option Text) :
    accepted Item.text? (textItem t) = .ok (textItem t) := by
  cases t <;> rfl

theorem accepted_dateItem (date : Option ListedDate) :
    accepted ListedDate.ofItem? (dateItem date) = .ok (dateItem date) := by
  cases date with
  | none => rfl
  | some date => exact if_pos (.inr (by rw [ofItem?_dateItem]; rfl))

theorem result_print (l : Listing) (field : Field) :
    schema.result field (l.print field) = .ok (l.entry field) := by
  refine Takes.map_fst ?_
  change Takes (value field) _ _
  rcases l.plain_or_splitFlags field with plain | ⟨rfl, flags, split⟩
  · have written := l.scalarText_print plain
    have text := takes_textValue_scalar written
    have item := takes_item_scalar written (maxDepth - 1)
    rw [entry_plain l plain]
    cases field with
    | title | author | group | fontName | comments =>
      rw [Listing.item, accepted_textItem] at text
      exact text.map Entry.item
    | date =>
      have date := takes_checked item ListedDate.ofItem?
      rw [Listing.item, Except.bind, accepted_dateItem] at date
      exact date.map Entry.item
    | splitFlags =>
      have word : l.print .splitFlags = ['n', 'u', 'l', 'l'] := by
        rw [print, plain rfl]
        rfl
      rw [word]
      intro gap rest blank ends
      exact (partsValue_null _ blank).trans (congrArg _ (scalar_null rest))
    | _ => exact item.map Entry.item
  · rw [print, split, entry_splitFlags split]
    exact SplitFlags.takes_partsValue flags

theorem whole_toJson (l : Listing) : schema.whole l.toJson = .ok l.entries := by
  have takes : Takes schema.record l.toJson (.ok l.entries) :=
    takes_printObject settled (by decide) (by decide) 1 (fun field _ => l.isValue_print field)
      fun field _ => l.result_print field
  have nothing : AllBlank [] := by simp [AllBlank]
  have alone := Schema.whole_of_takes takes nothing nothing
  rwa [List.nil_append, List.append_nil] at alone

/-! ## The listing that the entries make -/

theorem lookup_map {φ υ : Type} [DecidableEq φ] (f : φ → υ) {field : φ} {fields : List φ}
    (member : field ∈ fields) :
    (fields.map fun field => (field, f field)).lookup field = some (f field) := by
  induction fields with
  | nil => cases member
  | cons other fields ih =>
    rw [List.map_cons, List.lookup_cons]
    by_cases same : field = other
    · subst same
      rw [beq_self_eq_true]
    · rw [beq_eq_false_iff_ne.mpr same]
      exact ih ((List.mem_cons.mp member).resolve_left same)

theorem text?_textItem (t : Option Text) : (textItem t).text? = t := by
  cases t <;> rfl

theorem switch?_switchItem (on : Option Bool) : switch? (switchItem on) = on := by
  cases on <;> rfl

theorem map_numberOf_natItem {α : Type} {toNat : α → Nat} {ofNat : Nat → α} {bound : Nat}
    (fits : ∀ a, toNat a < bound) (same : ∀ {a}, ofNat (toNat a) = a) (n : Option α) :
    (numberOf (some bound) (natItem (n.map toNat))).map ofNat = n := by
  cases n with
  | none => rfl
  | some a =>
    have found : numberOf (some bound) (natItem ((some a).map toNat)) = some (toNat a) :=
      below?_integer (fits a)
    rw [found, Option.map_some, same]

theorem SplitFlags.splitFlagsOf_entries (flags : SplitFlags) :
    splitFlagsOf (SplitFlags.entries flags) = flags := by
  have lookup (field : FlagField) :
      (SplitFlags.entries flags).lookup field = some (SplitFlags.item flags field) :=
    lookup_map _ (by cases field <;> decide)
  simp only [splitFlagsOf, splitFlagsOf.number, lookup, Option.bind_some, SplitFlags.item,
    FlagField.bound?, switch?_switchItem, map_numberOf_natItem UInt8.toNat_lt UInt8.ofNat_toNat]

theorem ofEntries_entries (l : Listing) : ofEntries l.entries = l := by
  have lookup (field : Field) : l.entries.lookup field = some (l.entry field) :=
    lookup_map _ (by cases field <;> decide)
  have item {field : Field} (plain : field ≠ .splitFlags) :
      ofEntries.item l.entries field = some (l.item field) := by
    rw [ofEntries.item, lookup, entry_plain l fun same => absurd same plain]
    rfl
  have date : ListedDate.ofItem? (dateItem l.date) = l.date := by
    cases l.date with
    | none => rfl
    | some date => exact ofItem?_dateItem date
  have parts : (l.entry .splitFlags).parts?.map splitFlagsOf = l.splitFlags := by
    rw [entry]
    cases l.splitFlags with
    | none => rfl
    | some flags => exact congrArg some (SplitFlags.splitFlagsOf_entries flags)
  simp only [ofEntries, ofEntries.number, item, ne_eq, reduceCtorEq, not_false_eq_true,
    Option.bind_some, Listing.item, Field.bound?, text?_textItem, lookup, date, parts,
    map_numberOf_natItem UInt8.toNat_lt UInt8.ofNat_toNat,
    map_numberOf_natItem UInt16.toNat_lt UInt16.ofNat_toNat,
    map_numberOf_natItem UInt32.toNat_lt UInt32.ofNat_toNat]

theorem ignoredNotices_natItem {α : Type} {toNat : α → Nat} {bound : Nat}
    (fits : ∀ a, toNat a < bound) (n : Option α) :
    ignoredNotices (some bound) (natItem (n.map toNat)) = [] := by
  refine if_neg fun ignored => ?_
  cases n with
  | none => exact ignored.2.1 rfl
  | some a =>
    have found : numberOf (some bound) (natItem ((some a).map toNat)) = some (toNat a) :=
      below?_integer (fits a)
    rw [found] at ignored
    cases ignored.2.2

theorem SplitFlags.notices_entries (field : Field) (flags : SplitFlags) :
    entryNotices (field, .parts (SplitFlags.entries flags)) = [] := by
  rw [entryNotices, List.flatMap_eq_nil_iff]
  intro entry member
  obtain ⟨field, _, rfl⟩ := List.mem_map.mp member
  cases field with
  | iceColors => rfl
  | letterSpacing | aspectRatio => exact ignoredNotices_natItem UInt8.toNat_lt _

theorem notices_entries (l : Listing) : l.entries.flatMap entryNotices = [] := by
  rw [List.flatMap_eq_nil_iff]
  intro entry member
  obtain ⟨field, _, rfl⟩ := List.mem_map.mp member
  cases field with
  | fileSize => exact ignoredNotices_natItem UInt32.toNat_lt _
  | dataType | fileType | flags => exact ignoredNotices_natItem UInt8.toNat_lt _
  | tinfo1 | tinfo2 | tinfo3 | tinfo4 => exact ignoredNotices_natItem UInt16.toNat_lt _
  | splitFlags =>
    rw [Listing.entry]
    cases l.splitFlags with
    | none => rfl
    | some flags => exact SplitFlags.notices_entries .splitFlags flags
  | _ => rfl

theorem read_toJson (l : Listing) : read l.toJson = .ok ⟨l, []⟩ := by
  rw [read, whole_toJson]
  exact congrArg Except.ok (congrArg₂ Reading.mk l.ofEntries_entries l.notices_entries)

/-! ## Listings of records -/

def splitOf (flags : Flags) : SplitFlags where
  iceColors := some (flags.bits &&& 1 != 0)
  letterSpacing := some ((flags.bits >>> 1) &&& 3)
  aspectRatio := some ((flags.bits >>> 3) &&& 3)

/-- An empty text may as well be missing. -/
def ListsText (listed : Option Text) (t : Text) : Prop := listed = some t ∨ listed = none ∧ t = []

/-- A date may be listed as a number if it is written as that number. -/
def ListsDate (listed : Option ListedDate) (t : Text) : Prop :=
  listed = some (.text t) ∨ (∃ n, listed = some (.number n) ∧ t = Decimal.digits n.toNat) ∨
    listed = none ∧ t = []

/-- A listing of what a record says. Where it has the flags in their parts, its flags octet does not
matter. -/
structure Lists (l : Listing) (r : Record) : Prop where
  title : ListsText l.title r.title
  author : ListsText l.author r.author
  group : ListsText l.group r.group
  comments : ListsText l.comments r.comments
  fontName : ListsText l.fontName r.fontName
  date : ListsDate l.date r.date
  fileSize : l.fileSize = some r.fileSize
  dataType : ∃ code, l.dataType = some code ∧ r.dataType = .ofCode code
  fileType : l.fileType = some r.fileType
  tinfo1 : l.tinfo1 = some r.tinfo1
  tinfo2 : l.tinfo2 = some r.tinfo2
  tinfo3 : l.tinfo3 = some r.tinfo3
  tinfo4 : l.tinfo4 = some r.tinfo4
  flags : l.splitFlags = none ∧ l.flags = some r.flags.bits ∨ l.splitFlags = some (splitOf r.flags)

theorem ListsText.getD {listed : Option Text} {t : Text} (lists : ListsText listed t) :
    listed.getD [] = t := by
  rcases lists with rfl | ⟨rfl, rfl⟩ <;> rfl

theorem ListsDate.getD {listed : Option ListedDate} {t : Text} (lists : ListsDate listed t) :
    (listed.map ListedDate.toText).getD [] = t := by
  rcases lists with rfl | ⟨n, rfl, rfl⟩ | ⟨rfl, rfl⟩ <;> rfl

theorem and_three_and_three (bits : UInt8) : bits &&& 3 &&& 3 = bits &&& 3 := by
  rw [UInt8.and_assoc]
  rfl

theorem flagParts_of_lists {l : Listing} {r : Record} (lists : Lists l r) : l.flagParts =
    (some r.flags.iceColors, some r.flags.letterSpacing, some r.flags.aspectRatio) := by
  rcases lists.flags with ⟨whole, bits⟩ | split
  · rw [flagParts, whole, bits]
  · have spacing : LetterSpacing.ofBits ((r.flags.bits >>> 1) &&& 3) = r.flags.letterSpacing := by
      rw [Flags.letterSpacing, LetterSpacing.ofBits, LetterSpacing.ofBits, and_three_and_three]
    have ratio : AspectRatio.ofBits ((r.flags.bits >>> 3) &&& 3) = r.flags.aspectRatio := by
      rw [Flags.aspectRatio, AspectRatio.ofBits, AspectRatio.ofBits, and_three_and_three]
    rw [flagParts, split]
    simp only [splitOf, Option.map_some, spacing, ratio]
    rfl

theorem details_of_lists {l : Listing} {r : Record} (lists : Lists l r) :
    l.details = Details.ofRecord r := by
  obtain ⟨code, listed, kind⟩ := lists.dataType
  simp only [details, Details.ofRecord, flagParts_of_lists lists, lists.title.getD,
    lists.author.getD, lists.group.getD, lists.comments.getD, lists.fontName.getD, lists.date.getD,
    lists.fileSize, lists.fileType, lists.tinfo1, lists.tinfo2, lists.tinfo3, lists.tinfo4, listed,
    kind, Option.getD_some, Option.map_some, Option.bind_some]

/-- A record that comes as a listing has the details of the one that comes with a file. -/
theorem map_details_toJson {l : Listing} {r : Record} (lists : Lists l r) :
    (read l.toJson).map (·.listing.details) = .ok (Details.ofRecord r) := by
  rw [read, whole_toJson, ← details_of_lists lists]
  exact congrArg (fun l => Except.ok (details l)) l.ofEntries_entries

/-- Its date as a number, its flags in their parts, and its empty texts missing. -/
theorem map_details_toJson_split :
    (read (toJson {
      title := some "fire".toList
      date := some (.number 20240707)
      fileSize := some 0
      dataType := some 1
      fileType := some 1
      tinfo1 := some 80
      tinfo2 := some 25
      tinfo3 := some 0
      tinfo4 := some 0
      flags := some 255
      splitFlags := some ⟨some true, some 1, some 2⟩ })).map (·.listing.details) =
    .ok (Details.ofRecord {
      title := "fire".toList
      date := "20240707".toList
      fileType := 1
      tinfo1 := 80
      tinfo2 := 25
      flags := ⟨19⟩ }) :=
  map_details_toJson {
    title := .inl rfl
    author := .inr ⟨rfl, rfl⟩
    group := .inr ⟨rfl, rfl⟩
    comments := .inr ⟨rfl, rfl⟩
    fontName := .inr ⟨rfl, rfl⟩
    date := .inr (.inl ⟨20240707, rfl, by simp [Decimal.digits, Decimal.digit]⟩)
    fileSize := rfl
    dataType := ⟨1, rfl, rfl⟩
    fileType := rfl
    tinfo1 := rfl
    tinfo2 := rfl
    tinfo3 := rfl
    tinfo4 := rfl
    flags := .inr rfl }

end Listing

end Textmode.Sauce
