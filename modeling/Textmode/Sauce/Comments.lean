import Textmode.Notice
import Textmode.Sauce.Record
import Textmode.Text.Fit

/-! Comments as they lie in a file: a mark, and lines of 64 octets each. Writing breaks
long lines and keeps empty ones; reading gives back one line of text for each line of the
file. -/

set_option autoImplicit false

namespace Textmode.Sauce.Comments

def lineWidth : Nat := TextField.comment.width

/-- A record counts its comment lines in one octet. -/
def maxLines : Nat := 255

/-- The octets of `COMNT`. -/
def mark : Bytes := [0x43, 0x4F, 0x4D, 0x4E, 0x54]

def extent (lines : Nat) : Nat := if lines = 0 then 0 else mark.length + lines * lineWidth

def wrap (line : Text) : List Text :=
  if Text.trimEnd line = [] then [[]] else Text.pieces lineWidth (Text.trimEnd line)

def wrapAll (comments : Text) : List Text :=
  if comments = [] then [] else (Text.lines comments).flatMap wrap

def block (lines : List Text) : Bytes :=
  if lines = [] then [] else mark ++ lines.flatMap (Text.field 0x20 lineWidth)

theorem length_block (lines : List Text) : (block lines).length = extent lines.length := by
  unfold block extent
  have all : (lines.flatMap (Text.field 0x20 lineWidth)).length = lines.length * lineWidth := by
    induction lines with
    | nil => simp
    | cons line lines ih => simp [ih, Nat.add_mul, Nat.add_comm]
  by_cases h : lines = [] <;> simp [h, all]

def rows (width : Nat) : Nat → Bytes → List Bytes
  | 0, _ => []
  | count + 1, bytes => bytes.take width :: rows width count (bytes.drop width)

/-- Lines are filled up with spaces, by some programs with NULs. -/
def isFilling (c : Char) : Bool := Text.isBlank c || c = '\x00'

def readLine (octets : Bytes) : Text := dropTrailing isFilling (Utf8.text octets)

def read (count : Nat) (front : Bytes) : Except Notice Text :=
  if count = 0 then .ok []
  else if front.length < extent count then .error (.commentsDoNotFit count)
  else
    let found := front.drop (front.length - extent count)
    if found.take mark.length = mark then
      .ok (Text.unlines ((rows lineWidth count (found.drop mark.length)).map readLine))
    else .error .commentsUnmarked

end Comments

namespace Record

/-- The comment lines that a file gets for a record. A count without comments stands for
one empty line, since that is how such a line is read. -/
def commentLines (r : Record) : List Text :=
  if r.comments = [] ∧ r.commentCount ≠ 0 then [[]]
  else (Comments.wrapAll r.comments).take Comments.maxLines

def commentNotices (r : Record) : List Notice :=
  if Comments.maxLines < (Comments.wrapAll r.comments).length then
    [.commentsCut (Comments.wrapAll r.comments).length]
  else []

theorem length_commentLines_le (r : Record) : r.commentLines.length ≤ Comments.maxLines := by
  unfold commentLines
  split
  · simp [Comments.maxLines]
  · exact List.length_take_le ..

end Record

end Textmode.Sauce
