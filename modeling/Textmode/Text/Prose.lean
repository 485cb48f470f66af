import Textmode.Text.Blank

/-! Prose out of art: art mixes text with characters that draw. -/

set_option autoImplicit false

namespace Textmode.Text

/-- Characters that draw rather than write: signs that double as lines, modifier letters,
punctuation of all widths, letterlike symbols, arrows, mathematical operators, box
drawing, blocks and shapes, and the marks and wide forms of East Asian text. -/
def drawingRanges : List (Nat × Nat) :=
  [(0x28, 0x29), (0x2B, 0x2B), (0x2D, 0x2D), (0x2F, 0x2F), (0x3D, 0x3D), (0x5C, 0x5C),
   (0x5F, 0x60), (0x7C, 0x7C), (0x7E, 0x7E), (0xA4, 0xA4), (0xA7, 0xA8), (0xB0, 0xB1),
   (0xB7, 0xB7), (0xD7, 0xD7), (0xF7, 0xF7), (0x2B0, 0x2FF), (0x2000, 0x206F),
   (0x2100, 0x214E), (0x2190, 0x22FF), (0x2500, 0x26FF), (0x2FF0, 0x303F), (0xFE30, 0xFE4F),
   (0xFF00, 0xFFEF)]

def isDrawing (c : Char) : Bool := inRanges drawingRanges c

def undraw (c : Char) : Char := if isDrawing c then ' ' else c

def isGap (c : Char) : Bool := c = ' ' || c = '\t'

/-- Each run of spaces and tabs becomes one space, where its last character stood. -/
def collapse : Text → Text
  | [] => []
  | c :: t =>
    if isGap c then (if t.head?.any isGap then collapse t else ' ' :: collapse t)
    else c :: collapse t

def proseLine (line : Text) : Text := trim (collapse (line.map undraw))

def prose (t : Text) : Text := unlines ((lines t).map proseLine)

end Textmode.Text
