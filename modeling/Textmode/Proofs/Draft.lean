import Textmode.Sauce.Draft
import Textmode.Proofs.Date
import Textmode.Proofs.Flags
import Textmode.Proofs.RoundTrip

/-! What an edit puts into a draft, and what every run of edits leaves true of it: its texts fit the
fields they are for. So a file loses nothing of them but the padding at their ends.
-/

set_option autoImplicit false

namespace Textmode.Sauce

def Slot.Allows : Slot → Text → Prop
  | date, t => t = [] ∨ t.length = 8 ∧ ∀ c ∈ t, Decimal.isDigit c
  | slot, t => (Utf8.encode t).length ≤ slot.width

theorem Slot.allows_stamp (date : Date) : Slot.date.Allows date.stamp :=
  .inr ⟨date.length_stamp, fun _ => Date.isDigit_of_mem_stamp⟩

/-- A stamp is kept whole, as it ends in no padding. -/
theorem Slot.kept_date {r : Record} (allowed : Slot.date.Allows r.date) :
    Slot.date.kept r = r.date := by
  rcases allowed with empty | ⟨eight, digits⟩
  · rw [kept, text, empty]
    rfl
  · apply (Slot.kept_eq_text_iff ?_).mpr
    · exact ((Decimal.size_of_isDigit digits).trans eight).le
    · rw [dropTrailing_eq_self_iff]
      intro c last padding
      obtain ⟨low, high⟩ := Decimal.toNat_of_isDigit (digits c (List.mem_of_getLast? last))
      simp only [Text.isPadding, Bool.or_eq_true, decide_eq_true_eq] at padding
      rcases padding with rfl | rfl
      · exact absurd low (by decide)
      · exact absurd low (by decide)

theorem Slot.kept_of_size_le {slot : Slot} {r : Record}
    (fits : (Utf8.encode (slot.text r)).length ≤ slot.width) :
    slot.kept r = dropTrailing Text.isPadding (slot.text r) := by
  rw [kept, Text.fit_eq_self_iff.mpr (Utf8.length_encode (slot.text r) ▸ fits)]

theorem Record.commentLines_recount (r : Record) :
    { r with commentCount := UInt8.ofNat r.commentLines.length : Record }.commentLines =
      r.commentLines := by
  by_cases bare : r.comments = []
  · by_cases zero : r.commentCount = 0
    · simp [commentLines, Comments.wrapAll, bare, zero]
    · simp [commentLines, bare, zero]
  · simp [commentLines, bare]

theorem Record.withSize?_eq_some {r r' : Record} {columns rows : UInt16}
    (sized : r.withSize? columns rows = some r') :
    (r.dataType = .binaryText ∧ r' = { r with fileType := (columns / 2).toUInt8 }) ∨
    (r.dataType ≠ .binaryText ∧ r' = { r with tinfo1 := columns, tinfo2 := rows }) := by
  rw [withSize?] at sized
  split at sized
  · next binary =>
    split at sized
    · cases sized
      exact .inl ⟨binary, rfl⟩
    · cases sized
  · next other =>
    cases sized
    exact .inr ⟨other, rfl⟩

/-! ## Edits -/

/-- The parts of a record that an edit can change for themselves, and those that none changes. The
comments and their count are not among them. -/
inductive Part where
  | text (slot : Slot)
  | fileSize
  | dataType
  | fileType
  | tinfo1
  | tinfo2
  | tinfo3
  | tinfo4
  | iceColors
  | letterSpacing
  | aspectRatio
  | spareFlags
  deriving DecidableEq, Repr

abbrev Part.Value : Part → Type
  | text _ => Text
  | fileSize => UInt32
  | dataType => DataType
  | fileType => UInt8
  | tinfo1 | tinfo2 | tinfo3 | tinfo4 => UInt16
  | iceColors => Bool
  | letterSpacing => LetterSpacing
  | aspectRatio => AspectRatio
  | spareFlags => UInt8

def Part.of (r : Record) : (part : Part) → part.Value
  | text slot => slot.text r
  | fileSize => r.fileSize
  | dataType => r.dataType
  | fileType => r.fileType
  | tinfo1 => r.tinfo1
  | tinfo2 => r.tinfo2
  | tinfo3 => r.tinfo3
  | tinfo4 => r.tinfo4
  | iceColors => r.flags.iceColors
  | letterSpacing => r.flags.letterSpacing
  | aspectRatio => r.flags.aspectRatio
  | spareFlags => r.flags.spare

def Edit.value? (dataType : DataType) : Edit → (part : Part) → Option part.Value
  | title value, .text .title => some value
  | author value, .text .author => some value
  | group value, .text .group => some value
  | fontName value, .text .fontName => some value
  | date value, .text .date => some value.stamp
  | stamp value, .text .date => some value
  | Edit.dataType value, .dataType => some value
  | fileType value, .fileType => some value
  | size columns _, .fileType =>
    if dataType = .binaryText then some (columns / 2).toUInt8 else none
  | size columns _, .tinfo1 => if dataType = .binaryText then none else some columns
  | size _ rows, .tinfo2 => if dataType = .binaryText then none else some rows
  | tinfo value _ _ _, .tinfo1 => some value
  | tinfo _ value _ _, .tinfo2 => some value
  | tinfo _ _ value _, .tinfo3 => some value
  | tinfo _ _ _ value, .tinfo4 => some value
  | iceColors on, .iceColors => some on
  | letterSpacing value, .letterSpacing => some value
  | aspectRatio value, .aspectRatio => some value
  | _, _ => none

namespace Draft

variable {d d' : Draft} {edit : Edit}

theorem checked_map_eq_ok {field : TextField} {value : Text} {f : Text → Draft}
    (ok : (checked field value).map f = .ok d') :
    (Utf8.encode value).length ≤ field.width ∧ d' = f value := by
  rw [checked, ← Utf8.length_encode] at ok
  split at ok
  · next fits =>
    cases ok
    exact ⟨fits, rfl⟩
  · cases ok

theorem run_induction {motive : Draft → Prop} {edits : List Edit} (start : motive d)
    (step : ∀ edit ∈ edits, ∀ before after, motive before → before.apply edit = .ok after →
      motive after) :
    motive (d.run edits) := by
  induction edits generalizing d with
  | nil => exact start
  | cons edit edits ih =>
    rw [run, List.foldl_cons]
    -- The rest of the run starts from the draft that the first edit leaves.
    apply ih _ fun later member => step later (List.mem_cons_of_mem edit member)
    rw [attempt]
    split
    · next after taken => exact step edit List.mem_cons_self d after start taken
    · exact start

theorem text_of_withSize? {r r' : Record} {columns rows : UInt16}
    (sized : r.withSize? columns rows = some r') (slot : Slot) : slot.text r' = slot.text r := by
  obtain ⟨_, rfl⟩ | ⟨_, rfl⟩ := Record.withSize?_eq_some sized
  · cases slot <;> rfl
  · cases slot <;> rfl

theorem of_withSize? {r r' : Record} {columns rows : UInt16}
    (sized : r.withSize? columns rows = some r') (part : Part) :
    part.of r' = ((Edit.size columns rows).value? r.dataType part).getD (part.of r) := by
  cases part with
  | text slot => exact text_of_withSize? sized slot
  | _ =>
    obtain ⟨binary, rfl⟩ | ⟨other, rfl⟩ := Record.withSize?_eq_some sized
    · simp [Edit.value?, binary, Part.of]
    · simp [Edit.value?, other, Part.of]

/-- An edit that is taken puts its values and leaves all other parts. -/
theorem of_apply (taken : d.apply edit = .ok d') (part : Part) :
    part.of d'.record = (edit.value? d.record.dataType part).getD (part.of d.record) := by
  cases edit with
  | title _ | author _ | group _ | fontName _ =>
    obtain ⟨_, rfl⟩ := checked_map_eq_ok taken
    cases part with
    | text slot => cases slot <;> rfl
    | _ => rfl
  | stamp value =>
    rw [apply] at taken
    split at taken
    · next date read =>
      cases taken
      cases part with
      | text slot =>
        cases slot with
        | date => exact Date.stamp_of_ofText? read
        | _ => rfl
      | _ => rfl
    · cases taken
  | size columns rows =>
    rw [apply] at taken
    split at taken
    · next r sized =>
      cases taken
      exact of_withSize? sized part
    · cases taken
  | iceColors _ | letterSpacing _ | aspectRatio _ =>
    -- The flags share an octet, where each has its own bits.
    cases taken
    cases part with
    | text slot => cases slot <;> rfl
    | iceColors | letterSpacing | aspectRatio | spareFlags =>
      simp [Part.of, Edit.value?, Flags.parts_withIceColors, Flags.parts_withLetterSpacing,
        Flags.parts_withAspectRatio]
    | _ => rfl
  | addComment line =>
    rw [apply] at taken
    split at taken
    · cases taken
    · obtain ⟨_, rfl⟩ := checked_map_eq_ok taken
      cases part <;> rfl
  | date _ | dataType _ | fileType _ | tinfo _ _ _ _ | clearComments | reopen =>
    cases taken
    cases part with
    | text slot => cases slot <;> rfl
    | _ => rfl

theorem allows_of_value? {kind : DataType} {slot : Slot} {value : Text}
    (taken : d.apply edit = .ok d') (puts : edit.value? kind (.text slot) = some value) :
    slot.Allows value := by
  cases edit with
  | title _ | author _ | group _ | fontName _ =>
    obtain ⟨fits, _⟩ := checked_map_eq_ok taken
    cases slot <;> cases puts
    exact fits
  | date date =>
    cases slot <;> cases puts
    exact Slot.allows_stamp date
  | stamp digits =>
    rw [apply] at taken
    split at taken
    · next date read =>
      cases slot <;> cases puts
      exact Date.stamp_of_ofText? read ▸ Slot.allows_stamp date
    · cases taken
  -- No other edit has a value for a text.
  | _ => cases slot <;> cases puts

theorem text_apply (taken : d.apply edit = .ok d') (slot : Slot) :
    slot.text d'.record = slot.text d.record ∨ slot.Allows (slot.text d'.record) := by
  have put : slot.text d'.record = _ := of_apply taken (.text slot)
  cases puts : edit.value? d.record.dataType (.text slot) with
  | none =>
    rw [puts] at put
    exact .inl put
  | some value =>
    rw [puts] at put
    exact .inr (put ▸ allows_of_value? taken puts)

theorem allows_text_run (edits : List Edit) (slot : Slot) :
    slot.Allows (slot.text (({} : Draft).run edits).record) := by
  refine run_induction (motive := fun d => slot.Allows (slot.text d.record)) ?_ ?_
  · cases slot with
    | date => exact .inl rfl
    | _ => exact Nat.zero_le _
  · intro edit _ before after allowed taken
    rcases text_apply taken slot with same | new
    · rwa [same]
    · exact new

theorem text_finish (d : Draft) (slot : Slot) : slot.text d.finish = slot.text d.record := by
  cases slot <;> rfl

theorem commentCount_finish (d : Draft) :
    d.finish.commentCount.toNat = d.finish.commentLines.length := by
  rw [finish, Record.commentLines_recount]
  exact File.toNat_commentLines _

theorem coded_run {edits : List Edit}
    (known : ∀ kind, .dataType kind ∈ edits → ∃ code, kind = .ofCode code) :
    ∃ code, (({} : Draft).run edits).record.dataType = .ofCode code := by
  refine run_induction (motive := fun d => ∃ code, d.record.dataType = .ofCode code) ⟨1, rfl⟩ ?_
  rintro edit member before after ⟨code, same⟩ taken
  have put := of_apply taken .dataType
  cases edit with
  | dataType kind =>
    obtain ⟨code, new⟩ := known kind member
    exact ⟨code, put.trans new⟩
  | _ => exact ⟨code, put.trans same⟩

/-- The record of a draft that began empty and was edited in whatever way. A file gives back its
numbers, but for two that raw screen memory has no place for, and its texts without the padding at
their ends. Its data type comes back as what its code is read as. -/
theorem record_of_run (edits : List Edit) (file : Bytes) :
    ∃ t, (({} : Draft).run edits).finish = t ∧
      (Utf8.encode t.title).length ≤ 35 ∧ (Utf8.encode t.author).length ≤ 20 ∧
      (Utf8.encode t.group).length ≤ 20 ∧ (Utf8.encode t.fontName).length ≤ 22 ∧
      (t.date = [] ∨ t.date.length = 8 ∧ ∀ c ∈ t.date, Decimal.isDigit c) ∧
      t.commentCount.toNat = t.commentLines.length ∧
      ∃ u, File.read? (File.attach file t) = some u ∧
        u.date = t.date ∧ u.dataType = .ofCode t.dataType.code ∧
        ((∀ kind, .dataType kind ∈ edits → ∃ code, kind = .ofCode code) →
          u.dataType = t.dataType) ∧
        u.fileType = t.fileType ∧
        u.flags = t.flags ∧ u.tinfo3 = t.tinfo3 ∧ u.tinfo4 = t.tinfo4 ∧
        u.commentCount = t.commentCount ∧
        u.tinfo1 = (if t.dataType = .binaryText then 0 else t.tinfo1) ∧
        u.tinfo2 = (if t.dataType = .binaryText then 0 else t.tinfo2) ∧
        u.title = dropTrailing Text.isPadding t.title ∧
        u.author = dropTrailing Text.isPadding t.author ∧
        u.group = dropTrailing Text.isPadding t.group ∧
        u.fontName = dropTrailing Text.isPadding t.fontName := by
  have allowed (slot : Slot) :
      slot.Allows (slot.text (({} : Draft).run edits).finish) := by
    rw [text_finish]
    exact allows_text_run edits slot
  have count := commentCount_finish (({} : Draft).run edits)
  have coded (known : ∀ kind, .dataType kind ∈ edits → ∃ code, kind = .ofCode code) :
      .ofCode (({} : Draft).run edits).finish.dataType.code =
        (({} : Draft).run edits).finish.dataType :=
    DataType.ofCode_code_iff.mpr (coded_run known)
  generalize (({} : Draft).run edits).finish = t at allowed count coded
  -- What the fields allow fits them, so padding is all that is lost.
  have title : Slot.title.kept t = _ := Slot.kept_of_size_le (allowed .title)
  have author : Slot.author.kept t = _ := Slot.kept_of_size_le (allowed .author)
  have group : Slot.group.kept t = _ := Slot.kept_of_size_le (allowed .group)
  have fontName : Slot.fontName.kept t = _ := Slot.kept_of_size_le (allowed .fontName)
  refine ⟨t, rfl, allowed .title, allowed .author, allowed .group, allowed .fontName,
    allowed .date, count, _, File.read?_attach file t, Slot.kept_date (allowed .date), rfl, coded,
    rfl, rfl, rfl, rfl, ?_, rfl, rfl, title, author, group, fontName⟩
  rw [← UInt8.ofNat_toNat (x := t.commentCount), count]
  rfl

end Draft

end Textmode.Sauce
