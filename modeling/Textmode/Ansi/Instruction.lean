import Textmode.Text.Blank

/-! What art text tells a display: to show a run of text, to choose a colour, to switch
an attribute, or something that this library knows no meaning for. -/

set_option autoImplicit false

namespace Textmode.Ansi

inductive Role where
  | foreground
  | background
  /-- The colour of underlines. The text of a file never selects it. -/
  | underline
  deriving DecidableEq, Repr

inductive Color where
  /-- A palette entry: 0 to 7 are the standard colours, 8 to 15 their bright variants. -/
  | indexed (code : UInt8)
  | rgb (red green blue : UInt8)
  /-- What the display shows for the role when nothing was chosen. -/
  | default
  deriving DecidableEq, Repr

inductive Attribute where
  /-- Switches everything off, colours included. -/
  | normal
  | bold
  | dim
  | italic
  | underline
  | blink
  | rapidBlink
  | reverse
  | hidden
  | strike
  | normalIntensity
  | notItalic
  | notUnderline
  | notBlink
  | notReverse
  | notHidden
  | notStrike
  | other (code : Nat)
  deriving DecidableEq, Repr

inductive Instruction where
  /-- Text to show, line feeds and other control characters included. -/
  | text (run : Text)
  | color (role : Role) (color : Color)
  | switch (mode : Attribute)
  /-- An escape sequence without a meaning for the look of text, such as a cursor movement. -/
  | unhandled (sequence : Text)
  deriving DecidableEq, Repr

def Role.name : Role → String
  | foreground => "Foreground"
  | background => "Background"
  | underline => "Underline"

def Attribute.named : List (Nat × Attribute) :=
  [(0, normal), (1, bold), (2, dim), (3, italic), (4, underline), (5, blink), (6, rapidBlink),
   (7, reverse), (8, hidden), (9, strike), (22, normalIntensity), (23, notItalic),
   (24, notUnderline), (25, notBlink), (27, notReverse), (28, notHidden), (29, notStrike)]

def Attribute.ofCode (code : Nat) : Attribute :=
  (named.lookup code).getD (other code)

def Attribute.name : Attribute → String
  | normal => "Normal"
  | bold => "Bold"
  | dim => "Dim"
  | italic => "Italic"
  | underline => "Underline"
  | blink => "Blink"
  | rapidBlink => "RapidBlink"
  | reverse => "Reverse"
  | hidden => "Hidden"
  | strike => "Strike"
  | normalIntensity => "NormalIntensity"
  | notItalic => "NotItalic"
  | notUnderline => "NotUnderline"
  | notBlink => "NotBlink"
  | notReverse => "NotReverse"
  | notHidden => "NotHidden"
  | notStrike => "NotStrike"
  | other _ => "Other"

/-- The attribute of a name, where the name alone says which one it is. -/
def Attribute.ofName? (name : String) : Option Attribute :=
  (named.map Prod.snd).find? (·.name = name)

def Instruction.shown : Instruction → Text
  | text run => run
  | _ => []

end Textmode.Ansi
