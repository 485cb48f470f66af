import Textmode.Text.Format
import Textmode.Text.Mark
import Textmode.Text.Unassigned

/-! Text between double quotes in which every character can be seen: those that would
show nothing by themselves are written by their code points. -/

set_option autoImplicit false

namespace Textmode.Text

def hexDigits (n : Nat) : Text := Nat.toDigits 16 n

def isPrivateUse (c : Char) : Bool :=
  inRanges [(0xE000, 0xF8FF), (0xF0000, 0xFFFFD), (0x100000, 0x10FFFD)] c

/-- Whether a character shows by itself: the space does, other blanks do not, nor does a
mark without the character that it extends. -/
def isVisible (c : Char) : Bool :=
  c = ' ' ||
    !(isControl c || isBlank c || isFormat c || isMark c || isPrivateUse c || isUnassigned c)

def visibleChar (c : Char) : Text :=
  if c = '"' then ['\\', '"']
  else if c = '\\' then ['\\', '\\']
  else if c = '\t' then ['\\', 't']
  else if c = '\r' then ['\\', 'r']
  else if c = '\n' then ['\\', 'n']
  else if c = '\x00' then ['\\', '0']
  else if isVisible c then [c]
  else ['\\', 'u', '\x7b'] ++ hexDigits c.toNat ++ ['\x7d']

def visible (t : Text) : Text := '"' :: t.flatMap visibleChar ++ ['"']

end Textmode.Text
