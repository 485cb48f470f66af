import Textmode.Text.CharWidth
import Textmode.Text.Emoji

/-! The columns that a text takes on a display. They are those of its characters, except
that a carriage return with its line feed counts once, that a selector sets the width of
the emoji before it, and that emoji which join count as the one picture that they show. -/

set_option autoImplicit false

namespace Textmode.Text

def zeroWidthJoiner : Char := '\u200D'

def textSelector : Char := '\uFE0E'

def pictureSelector : Char := '\uFE0F'

def keycapMark : Char := '\u20E3'

/-- What a text starts with, as far as it changes the width of a character in front. -/
inductive Opening where
  | other
  | lineFeed
  | textSelector
  /-- The picture selector; `joined` if what it selects joins the picture behind it. -/
  | pictureSelector (joined : Bool)
  | tone
  /-- A run of `count` region letters; `joined` if a joiner and a picture follow it. -/
  | letters (joined : Bool) (count : Nat)
  | picture
  | joint
  /-- The mark of a key, a joiner and a picture. -/
  | joinedKey
  deriving DecidableEq, Repr

structure Extent where
  columns : Nat
  opening : Opening
  deriving DecidableEq, Repr

namespace Extent

def empty : Extent := ⟨0, .other⟩

def putAlone (c : Char) (behind : Extent) : Extent :=
  if c = '\n' then ⟨behind.columns + 1, .lineFeed⟩
  else if c = textSelector then ⟨behind.columns, .textSelector⟩
  else if c = pictureSelector then ⟨behind.columns, .pictureSelector false⟩
  else if isRegionLetter c then ⟨behind.columns + 1, .letters false 1⟩
  else if isTone c then ⟨behind.columns + 2, .tone⟩
  else if isPicture c then ⟨behind.columns + 2, .picture⟩
  else ⟨behind.columns + (charColumns? c).getD 1, .other⟩

/-- The columns of a run of region letters in front of a joint. They pair up into flags
from the front; the last flag is part of the picture unless a letter stands alone behind
it. -/
def lettersAtJoint (count : Nat) : Nat := if count % 2 = 0 then count - 2 else count

def put (c : Char) (behind : Extent) : Extent :=
  match behind.opening with
  | .other => putAlone c behind
  | .lineFeed => if c = '\r' then ⟨behind.columns, .other⟩ else putAlone c behind
  | .textSelector =>
    if narrowsAsText c then ⟨behind.columns + 1, .other⟩ else putAlone c behind
  | .pictureSelector joined =>
    if isSelectable c then ⟨behind.columns + (if joined then 0 else 2), .picture⟩
    else putAlone c behind
  | .tone =>
    if takesTone c then ⟨behind.columns, .picture⟩
    else if c = zeroWidthJoiner then ⟨behind.columns, .joint⟩
    else putAlone c behind
  | .letters joined count =>
    if isRegionLetter c then
      let columns :=
        if joined then behind.columns + lettersAtJoint (count + 1) - lettersAtJoint count
        else behind.columns + 1
      ⟨columns, .letters joined (count + 1)⟩
    -- A single letter is no flag and joins nothing.
    else if c = zeroWidthJoiner ∧ 2 ≤ count then ⟨behind.columns, .joint⟩
    else putAlone c behind
  | .picture =>
    if c = zeroWidthJoiner then ⟨behind.columns, .joint⟩ else putAlone c behind
  | .joint =>
    if isRegionLetter c then ⟨behind.columns + lettersAtJoint 1, .letters true 1⟩
    else if isTone c then ⟨behind.columns, .tone⟩
    else if isPicture c then ⟨behind.columns, .picture⟩
    else if c = pictureSelector then ⟨behind.columns, .pictureSelector true⟩
    else if c = keycapMark then ⟨behind.columns, .joinedKey⟩
    else putAlone c behind
  | .joinedKey =>
    if c = pictureSelector then ⟨behind.columns, .pictureSelector true⟩ else putAlone c behind

end Extent

/-- The extent of a text, measured from its end, as what a character shows depends on what
stands behind it. -/
def extent (t : Text) : Extent := t.foldr Extent.put Extent.empty

def displayColumns (t : Text) : Nat := (extent t).columns

end Textmode.Text
