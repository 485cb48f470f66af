import Textmode.Sauce.Date
import Textmode.Sauce.File

/-! Records in the making. Writing a record cuts what does not fit; a draft refuses it
instead. It keeps the comments apart from the record, one entry for each line added. -/

set_option autoImplicit false

namespace Textmode.Sauce

inductive EditError where
  | tooLong (field : TextField) (size : Nat)
  | tooManyComments
  | notADate (date : Text)
  | binaryWidth (columns : UInt16)
  deriving DecidableEq

def TextField.label : TextField → String
  | title => "Title"
  | author => "Author"
  | group => "Group"
  | fontName => "Font name"
  | comment => "Comment"

def EditError.message : EditError → String
  | tooLong field size =>
    field.label ++ s!" too long: {size} bytes only up to {field.width} bytes are allowed."
  | tooManyComments => s!"Comment limit exceeded ({Comments.maxLines})"
  | notADate date => "Unsupported SAUCE date: " ++ String.ofList date
  | binaryWidth columns => s!"Binary file width limit exceeded: {columns}"

structure Draft where
  /-- All but the comments. -/
  record : Record := {}
  comments : List Text := []
  deriving DecidableEq

inductive Edit where
  | title (value : Text)
  | author (value : Text)
  | group (value : Text)
  | fontName (value : Text)
  | date (value : Date)
  /-- A date in the eight digits of its field. -/
  | stamp (value : Text)
  | dataType (value : DataType)
  | fileType (value : UInt8)
  /-- Where the size is put depends on the data type that the draft has by then. -/
  | size (columns rows : UInt16)
  | tinfo (first second third fourth : UInt16)
  | iceColors (on : Bool)
  | letterSpacing (value : LetterSpacing)
  | aspectRatio (value : AspectRatio)
  | addComment (line : Text)
  | clearComments
  /-- Finishes the draft and goes on with what came out. -/
  | reopen
  deriving DecidableEq

namespace Draft

def ofRecord (r : Record) : Draft where
  record := { r with comments := [] }
  comments :=
    if r.comments ≠ [] then Text.lines r.comments
    else if r.commentCount ≠ 0 then [[]]
    else []

/-- The record with its comments and the number of lines they take; a single empty comment
takes a line as well. -/
def finish (d : Draft) : Record :=
  let joined :=
    { d.record with
      comments := Text.unlines d.comments
      commentCount := if d.comments = [] then 0 else 1 }
  { joined with commentCount := UInt8.ofNat joined.commentLines.length }

def finishNotices (d : Draft) : List Notice :=
  { d.record with comments := Text.unlines d.comments : Record }.commentNotices

def checked (field : TextField) (value : Text) : Except EditError Text :=
  if Utf8.size value ≤ field.width then .ok value
  else .error (.tooLong field (Utf8.size value))

def withDate (d : Draft) (date : Date) : Draft :=
  { d with record := { d.record with date := date.stamp } }

def apply (d : Draft) : Edit → Except EditError Draft
  | .title value =>
    (checked .title value).map fun value => { d with record := { d.record with title := value } }
  | .author value =>
    (checked .author value).map fun value => { d with record := { d.record with author := value } }
  | .group value =>
    (checked .group value).map fun value => { d with record := { d.record with group := value } }
  | .fontName value =>
    (checked .fontName value).map fun value =>
      { d with record := { d.record with fontName := value } }
  | .date value => .ok (d.withDate value)
  | .stamp value =>
    match Date.ofText? value with
    | some date => .ok (d.withDate date)
    | none => .error (.notADate value)
  | .dataType value => .ok { d with record := { d.record with dataType := value } }
  | .fileType value => .ok { d with record := { d.record with fileType := value } }
  | .size columns rows =>
    match d.record.withSize? columns rows with
    | some r => .ok { d with record := r }
    | none => .error (.binaryWidth columns)
  | .tinfo first second third fourth =>
    .ok { d with record := { d.record with
      tinfo1 := first, tinfo2 := second, tinfo3 := third, tinfo4 := fourth } }
  | .iceColors on =>
    .ok { d with record := { d.record with flags := d.record.flags.withIceColors on } }
  | .letterSpacing value =>
    .ok { d with record := { d.record with flags := d.record.flags.withLetterSpacing value } }
  | .aspectRatio value =>
    .ok { d with record := { d.record with flags := d.record.flags.withAspectRatio value } }
  | .addComment line =>
    -- Of two faults the number of lines is the one that is told.
    if Comments.maxLines ≤ d.comments.length then .error .tooManyComments
    else (checked .comment line).map fun line => { d with comments := d.comments ++ [line] }
  | .clearComments => .ok { d with comments := [] }
  | .reopen => .ok (ofRecord d.finish)

def attempt (d : Draft) (edit : Edit) : Draft :=
  match d.apply edit with
  | .ok d' => d'
  | .error _ => d

def run (d : Draft) (edits : List Edit) : Draft := edits.foldl attempt d

def applyAll (d : Draft) (edits : List Edit) : Except EditError Draft :=
  edits.foldlM apply d

end Draft

end Textmode.Sauce
