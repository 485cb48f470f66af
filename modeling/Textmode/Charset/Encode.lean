import Textmode.Charset.Basic
import Textmode.Charset.DoubleByte
import Textmode.Charset.SingleByte
import Textmode.Decimal

/-! The octets that text takes in a character set. No set here keeps a state between
characters, so each character takes its own number of octets. One that the set lacks is written
as a reference to its number. -/

set_option autoImplicit false

namespace Textmode.Charset

/-- All Hangul syllables have a pair in EUC-KR. -/
def isHangul (c : Char) : Bool := inRanges [(0xAC00, 0xD7A3)] c

def isHalfwidthKatakana (c : Char) : Bool := inRanges [(0xFF61, 0xFF9F)] c

/-- The octets of a character, `none` where the set has no such character. Sets that
nothing can be written in are written as UTF-8. -/
def charOctets? (charset : Charset) (c : Char) : Option Nat :=
  match charset with
  | utf8 | utf16le | utf16be | replacement => some c.utf8Size
  | windows1252 => if singleByteHas windows1252High c then some 1 else none
  | ibm866 => if singleByteHas ibm866High c then some 1 else none
  | koi8R => if singleByteHas koi8RHigh c then some 1 else none
  | userDefined => if c.toNat < 0x80 || inRanges [(0xF780, 0xF7FF)] c then some 1 else none
  | gbk =>
    if c.toNat < 0x80 || c = '€' then some 1
    else if c = '\uE5E5' || takesFour c then none
    else some 2
  | gb18030 =>
    if c.toNat < 0x80 then some 1
    else if c = '\uE5E5' then none
    else if takesFour c then some 4
    else some 2
  | big5 =>
    if c.toNat < 0x80 then some 1
    else if inRanges big5Symbols c || big5Index.has c then some 2
    else none
  | shiftJis =>
    if c.toNat ≤ 0x80 || c = '¥' || c = '‾' || isHalfwidthKatakana c then some 1
    else if inRanges shiftJisSymbols c || shiftJisIndex.has c then some 2
    else none
  | eucKr =>
    if c.toNat < 0x80 then some 1
    else if isHangul c || inRanges eucKrSymbols c || eucKrIndex.has c then some 2
    else none

/-- The reference that is written for a character that a set lacks, such as `&#8364;`. -/
def reference (c : Char) : Text := '&' :: '#' :: (Decimal.digits c.toNat ++ [';'])

structure Written where
  octets : Nat := 0
  lacksSome : Bool := false
  deriving DecidableEq, Repr

abbrev Encoder := Text → Written

def writeChar (charset : Charset) (c : Char) : Written :=
  match charset.charOctets? c with
  | some octets => { octets := octets }
  | none => { octets := (reference c).length, lacksSome := true }

def write (charset : Charset) : Encoder
  | [] => {}
  | c :: t =>
    { octets := (charset.writeChar c).octets + (charset.write t).octets
      lacksSome := (charset.writeChar c).lacksSome || (charset.write t).lacksSome }

end Textmode.Charset
