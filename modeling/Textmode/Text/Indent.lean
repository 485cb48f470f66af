import Textmode.Notice
import Textmode.Text.Prose

/-! Text put under art: each line starts in the column where the prose of the same line of
the art starts. -/

set_option autoImplicit false

namespace Textmode.Text

def isCarriageReturn (c : Char) : Bool := c = '\r'

def isLeading (c : Char) : Bool := isBlank c || isDrawing c

/-- What a line of art begins with before its prose. The carriage returns that end it are no
part of that. -/
def leading (line : Text) : Text := (dropTrailing isCarriageReturn line).takeWhile isLeading

def indentLine (columns : Nat) (line : Text) : Text :=
  if trimStart line = [] then [] else List.replicate columns ' ' ++ trimStart line

/-- The lines under those of the art, whose leading part `measure` gives the width of. Lines
beyond those of the art start in the first column. -/
def indentLines (measure : Text → Nat) : List Text → List Text → List Text
  | _, [] => []
  | [], line :: ls => indentLine 0 line :: indentLines measure [] ls
  | source :: art, line :: ls =>
    indentLine (measure (leading source)) line :: indentLines measure art ls

def indent (measure : Text → Nat) (art t : Text) : Text :=
  unlines (indentLines measure (lines art) (lines t))

def indentNotices (art t : Text) : List Notice :=
  if (lines t).length = (lines art).length then []
  else [.lineCountsDiffer (lines t).length (lines art).length]

end Textmode.Text
