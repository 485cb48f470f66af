import Textmode.Json.Schema
import Textmode.Sauce.Listing

/-! Listings out of JSON. Texts, the date and the parts of the flags must be what they should
be or `null`. Numbers are not that strict: what does not fit a number field is as good as
missing, with a notice. -/

set_option autoImplicit false

namespace Textmode.Sauce

open Json (Fault Item Schema)

def ListedDate.ofItem? : Item → Option ListedDate
  | .text t => some (text t)
  | i => (i.below? UInt64.size).map fun n => number (UInt64.ofNat n)

namespace Listing

/-- Numbers of 64 bits switch as well, and only zero means off. -/
def switch? : Item → Option Bool
  | .bool on => some on
  | i => (i.below? UInt64.size).map (· != 0)

inductive FlagField where
  | iceColors
  | letterSpacing
  | aspectRatio
  deriving DecidableEq, Repr

inductive Field where
  | title
  | author
  | group
  | date
  | fileSize
  | dataType
  | fileType
  | tinfo1
  | tinfo2
  | tinfo3
  | tinfo4
  | flags
  | fontName
  | comments
  | splitFlags
  deriving DecidableEq, Repr

def FlagField.all : List FlagField := [iceColors, letterSpacing, aspectRatio]

def FlagField.key : FlagField → Text
  | iceColors => "blink".toList
  | letterSpacing => "ls".toList
  | aspectRatio => "ar".toList

def Field.all : List Field :=
  [title, author, group, date, fileSize, dataType, fileType, tinfo1, tinfo2, tinfo3, tinfo4,
   flags, fontName, comments, splitFlags]

def Field.key : Field → Text
  | title => "Title".toList
  | author => "Author".toList
  | group => "Group".toList
  | date => "Date".toList
  | fileSize => "Filesize".toList
  | dataType => "Datatype".toList
  | fileType => "Filetype".toList
  | tinfo1 => "Tinfo1".toList
  | tinfo2 => "Tinfo2".toList
  | tinfo3 => "Tinfo3".toList
  | tinfo4 => "Tinfo4".toList
  | flags => "Tflags".toList
  | fontName => "Tinfos".toList
  | comments => "Comments".toList
  | splitFlags => "ansiflags".toList

/-- The deepest nesting of a listing in use, its own brackets included. -/
def maxDepth : Nat := 127

/-- Refuses a value that a field cannot have. Every field can be `null`. -/
def checked {α : Type} (read? : Item → Option α) (found : Item × Text) :
    Except Fault (Item × Text) :=
  if found.1 = .null ∨ (read? found.1).isSome then .ok found else .error .wrongShape

/-- A bracket is enough to refuse a value; a scalar is read first. -/
def textValue (t : Text) : Except Fault (Item × Text) := do
  let (c, _) ← Json.nextChar t
  match Json.Bracket.ofChar? c with
  | some _ => throw .wrongShape
  | none => checked Item.text? (← Json.scalar .use (Json.dropBlank t))

def flagValue (field : FlagField) (t : Text) : Except Fault (Item × Text) := do
  let found ← Json.item (maxDepth - 2) t
  match field with
  | .iceColors => checked switch? found
  | .letterSpacing | .aspectRatio => return found

theorem checked_eq_ok {α : Type} {read? : Item → Option α} {found result : Item × Text}
    (h : checked read? found = .ok result) : found = result := by
  unfold checked at h
  split at h
  · simpa using h
  · simp at h

theorem textValue_le {t rest : Text} {item : Item} (h : textValue t = .ok (item, rest)) :
    rest.length ≤ t.length := by
  unfold textValue at h
  simp only [bind, Except.bind, throw, throwThe, MonadExceptOf.throw] at h
  split at h
  · simp at h
  · split at h
    · simp at h
    · split at h
      · simp at h
      · next found =>
        have := checked_eq_ok h
        subst this
        exact Nat.le_trans (Nat.le_of_lt (Json.scalar_shorter found)) (Json.length_dropBlank_le t)

theorem flagValue_le {field : FlagField} {t rest : Text} {item : Item}
    (h : flagValue field t = .ok (item, rest)) : rest.length ≤ t.length := by
  unfold flagValue at h
  simp only [bind, Except.bind, pure, Except.pure] at h
  split at h
  · simp at h
  · next found =>
    split at h
    · have := checked_eq_ok h
      subst this
      exact Json.item_le found
    all_goals
      simp only [Except.ok.injEq] at h
      subst h
      exact Json.item_le found

def flagSchema : Schema FlagField Item where
  fields := FlagField.all
  key := FlagField.key
  value := flagValue
  value_le := flagValue_le

inductive Entry where
  | item (i : Item)
  | parts (found : List (FlagField × Item))
  deriving DecidableEq

def partsValue (t : Text) : Except Fault (Entry × Text) := do
  let (c, _) ← Json.nextChar t
  if c = 'n' then
    let (item, rest) ← Json.scalar .use (Json.dropBlank t)
    return (.item item, rest)
  else
    let (found, rest) ← flagSchema.record t
    return (.parts found, rest)

def value (field : Field) (t : Text) : Except Fault (Entry × Text) :=
  match field with
  | .title | .author | .group | .fontName | .comments =>
    (textValue t).map fun (i, rest) => (.item i, rest)
  | .date => ((Json.item (maxDepth - 1) t).bind (checked ListedDate.ofItem?)).map fun (i, rest) =>
      (.item i, rest)
  | .splitFlags => partsValue t
  | _ => (Json.item (maxDepth - 1) t).map fun (i, rest) => (.item i, rest)

theorem partsValue_le {t rest : Text} {entry : Entry} (h : partsValue t = .ok (entry, rest)) :
    rest.length ≤ t.length := by
  unfold partsValue at h
  simp only [bind, Except.bind, pure, Except.pure] at h
  split at h
  · simp at h
  · split at h
    · split at h
      · simp at h
      · next found =>
        simp only [Except.ok.injEq, Prod.mk.injEq] at h
        exact h.2 ▸ Nat.le_trans (Nat.le_of_lt (Json.scalar_shorter found))
          (Json.length_dropBlank_le t)
    · split at h
      · simp at h
      · next found =>
        simp only [Except.ok.injEq, Prod.mk.injEq] at h
        exact h.2 ▸ Schema.record_le found

theorem value_le {field : Field} {t rest : Text} {entry : Entry}
    (h : value field t = .ok (entry, rest)) : rest.length ≤ t.length := by
  have ofText (h : (textValue t).map (fun (i, rest) => (Entry.item i, rest)) = .ok (entry, rest)) :
      rest.length ≤ t.length := by
    obtain ⟨_, found, same⟩ := Json.map_eq_ok h
    simp only [Prod.mk.injEq] at same
    exact same.2 ▸ textValue_le found
  have ofItem (h : (Json.item (maxDepth - 1) t).map (fun (i, rest) => (Entry.item i, rest)) =
      .ok (entry, rest)) : rest.length ≤ t.length := by
    obtain ⟨_, found, same⟩ := Json.map_eq_ok h
    simp only [Prod.mk.injEq] at same
    exact same.2 ▸ Json.item_le found
  cases field with
  | title | author | group | fontName | comments => exact ofText h
  | splitFlags => exact partsValue_le h
  | date =>
    obtain ⟨result, found, same⟩ := Json.map_eq_ok h
    simp only [Prod.mk.injEq] at same
    cases itemOk : Json.item (maxDepth - 1) t with
    | error fault => simp [itemOk, Except.bind] at found
    | ok first =>
      have := checked_eq_ok (show checked ListedDate.ofItem? first = .ok result by
        simpa [itemOk, Except.bind] using found)
      subst this
      exact same.2 ▸ Json.item_le itemOk
  | _ => exact ofItem h

def schema : Schema Field Entry where
  fields := Field.all
  key := Field.key
  value := value
  value_le := value_le

def Entry.item? : Entry → Option Item
  | .item i => some i
  | .parts _ => none

def Entry.parts? : Entry → Option (List (FlagField × Item))
  | .item _ => none
  | .parts found => some found

def Field.bound? : Field → Option Nat
  | fileSize => some UInt32.size
  | dataType | fileType | flags => some UInt8.size
  | tinfo1 | tinfo2 | tinfo3 | tinfo4 => some UInt16.size
  | _ => none

def FlagField.bound? : FlagField → Option Nat
  | iceColors => none
  | letterSpacing | aspectRatio => some UInt8.size

def numberOf (bound : Option Nat) (i : Item) : Option Nat := bound.bind i.below?

def splitFlagsOf (found : List (FlagField × Item)) : SplitFlags where
  iceColors := (found.lookup .iceColors).bind switch?
  letterSpacing := (number .letterSpacing).map UInt8.ofNat
  aspectRatio := (number .aspectRatio).map UInt8.ofNat
where
  number (field : FlagField) : Option Nat := (found.lookup field).bind (numberOf field.bound?)

def ofEntries (found : List (Field × Entry)) : Listing where
  title := (item .title).bind Item.text?
  author := (item .author).bind Item.text?
  group := (item .group).bind Item.text?
  date := (item .date).bind ListedDate.ofItem?
  fileSize := (number .fileSize).map UInt32.ofNat
  dataType := (number .dataType).map UInt8.ofNat
  fileType := (number .fileType).map UInt8.ofNat
  tinfo1 := (number .tinfo1).map UInt16.ofNat
  tinfo2 := (number .tinfo2).map UInt16.ofNat
  tinfo3 := (number .tinfo3).map UInt16.ofNat
  tinfo4 := (number .tinfo4).map UInt16.ofNat
  flags := (number .flags).map UInt8.ofNat
  fontName := (item .fontName).bind Item.text?
  comments := (item .comments).bind Item.text?
  splitFlags := ((found.lookup .splitFlags).bind Entry.parts?).map splitFlagsOf
where
  item (field : Field) : Option Item := (found.lookup field).bind Entry.item?
  number (field : Field) : Option Nat := (item field).bind (numberOf field.bound?)

def ignoredNotices (bound : Option Nat) (i : Item) : List Notice :=
  if bound.isSome ∧ i ≠ .null ∧ numberOf bound i = none then [.listedNumberIgnored] else []

def entryNotices : Field × Entry → List Notice
  | (field, .item i) => ignoredNotices field.bound? i
  | (_, .parts found) => found.flatMap fun (field, i) => ignoredNotices field.bound? i

structure Reading where
  listing : Listing
  notices : List Notice
  deriving DecidableEq

def read (t : Text) : Except Fault Reading :=
  (schema.whole t).map fun found => ⟨ofEntries found, found.flatMap entryNotices⟩

end Listing

end Textmode.Sauce
