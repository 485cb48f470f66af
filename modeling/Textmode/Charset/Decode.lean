import Textmode.Charset.Basic
import Textmode.Charset.DoubleByte
import Textmode.Charset.SingleByte
import Textmode.Charset.Utf8
import Textmode.Notice

/-! Text out of octets in any of the character sets. Reading never fails: what is malformed
becomes the replacement character, and there is a notice about it. An octet that could be
ASCII is never lost to a malformed stretch before it. -/

set_option autoImplicit false

namespace Textmode.Charset

def inOctets (low high : Nat) (b : UInt8) : Bool := low ≤ b.toNat && b.toNat ≤ high

def singleByteDecoder (high : List Nat) : Decoder := fun b _ => .char (singleByteChar high b) 0

def userDefinedDecoder : Decoder := fun b _ =>
  .char (Char.ofNat (if b < 0x80 then b.toNat else 0xF700 + b.toNat)) 0

def replacementDecoder : Decoder := fun _ rest => .malformed rest.length

def unit (littleEndian : Bool) (first second : UInt8) : Nat :=
  if littleEndian then first.toNat + 256 * second.toNat else 256 * first.toNat + second.toNat

def utf16Decoder (littleEndian : Bool) : Decoder := fun b rest =>
  match rest with
  | [] => .malformed 0
  | second :: rest =>
    let high := unit littleEndian b second
    if high < 0xD800 ∨ 0xDFFF < high then .char (Char.ofNat high) 1
    else if 0xDBFF < high then .malformed 1
    else match rest with
      | [] => .malformed 1
      -- The text breaks off within the second unit, and takes the first one with it.
      | [_] => .malformed 2
      | third :: fourth :: _ =>
        let low := unit littleEndian third fourth
        if 0xDC00 ≤ low ∧ low ≤ 0xDFFF then
          .char (Char.ofNat (0x10000 + (high - 0xD800) * 0x400 + (low - 0xDC00))) 3
        else .malformed 1

/-- The second octet is read again if it could be ASCII. -/
def unpaired (second : UInt8) : Piece := .malformed (if second < 0x80 then 0 else 1)

def pairDecoder (isTrail : UInt8 → Bool) (chars : Nat → Option Piece) : Decoder := fun b rest =>
  match rest with
  | [] => .malformed 0
  | second :: _ =>
    if isTrail second then (chars (256 * b.toNat + second.toNat)).getD (unpaired second)
    else unpaired second

def indexed (index : Index) (pair : Nat) : Option Piece := (index.char? pair).map (.char · 1)

def gbFourOrdinal (first second third fourth : UInt8) : Nat :=
  (((first.toNat - 0x81) * 10 + (second.toNat - 0x30)) * 126 + (third.toNat - 0x81)) * 10 +
    (fourth.toNat - 0x30)

def gbFourBeyond : Nat := 189000

/-- The character of a four-octet form. One form in the middle of a run stands for a private
character, since its place in the run is that of a pair. -/
def gbFourChar? (ordinal : Nat) : Option Char :=
  if ordinal = 7457 then some '\uE7C7'
  else if ordinal ≤ gbFourBasicEnd then
    ((gbFourRuns.takeWhile (·.1 ≤ ordinal)).getLast?).map fun (start, code) =>
      Char.ofNat (code + (ordinal - start))
  else if gbFourBeyond ≤ ordinal ∧ 0x10000 + (ordinal - gbFourBeyond) ≤ 0x10FFFF then
    some (Char.ofNat (0x10000 + (ordinal - gbFourBeyond)))
  else none

/-- A four-octet form after its first two octets. If it breaks off before the end of the
text, only its first octet counts as malformed. -/
def gbFour (first second : UInt8) : Bytes → Piece
  | [] => .malformed 1
  | third :: rest =>
    if inOctets 0x81 0xFE third then
      match rest with
      | [] => .malformed 2
      | fourth :: _ =>
        if inOctets 0x30 0x39 fourth then
          match gbFourChar? (gbFourOrdinal first second third fourth) with
          | some c => .char c 3
          | none => .malformed 3
        else .malformed 0
    else .malformed 0

def gbDecoder : Decoder := fun b rest =>
  if b < 0x80 then .char (Char.ofNat b.toNat) 0
  else if b = 0x80 then .char '€' 0
  else if b = 0xFF then .malformed 0
  else match rest with
    | second :: more =>
      -- No pair ends in a digit, so a digit begins the other half of a four-octet form.
      if inOctets 0x30 0x39 second then gbFour b second more
      else
        pairDecoder (fun b => inOctets 0x40 0x7E b || inOctets 0x80 0xFE b) (indexed gbIndex) b rest
    | [] => .malformed 0

/-- Some pairs stand for two characters. -/
def big5Chars (pair : Nat) : Option Piece :=
  match big5Marked.lookup pair with
  | some (letter, mark) => some ⟨[some (Char.ofNat letter), some (Char.ofNat mark)], 1⟩
  | none => indexed big5Index pair

def big5Decoder : Decoder := fun b rest =>
  if b < 0x80 then .char (Char.ofNat b.toNat) 0
  else if inOctets 0x81 0xFE b then
    pairDecoder (fun b => inOctets 0x40 0x7E b || inOctets 0xA1 0xFE b) big5Chars b rest
  else .malformed 0

def shiftJisDecoder : Decoder := fun b rest =>
  if b ≤ 0x80 then .char (Char.ofNat b.toNat) 0
  else if inOctets 0xA1 0xDF b then .char (Char.ofNat (0xFF61 - 0xA1 + b.toNat)) 0
  else if inOctets 0x81 0x9F b || inOctets 0xE0 0xFC b then
    pairDecoder (fun b => inOctets 0x40 0x7E b || inOctets 0x80 0xFC b) (indexed shiftJisIndex)
      b rest
  else .malformed 0

def eucKrDecoder : Decoder := fun b rest =>
  if b < 0x80 then .char (Char.ofNat b.toNat) 0
  else if inOctets 0x81 0xFE b then
    pairDecoder (inOctets 0x41 0xFE) (indexed eucKrIndex) b rest
  else .malformed 0

def decoder : Charset → Decoder
  | utf8 => Utf8.decoder
  | utf16le => utf16Decoder true
  | utf16be => utf16Decoder false
  | windows1252 => singleByteDecoder windows1252High
  | ibm866 => singleByteDecoder ibm866High
  | koi8R => singleByteDecoder koi8RHigh
  | gbk | gb18030 => gbDecoder
  | big5 => big5Decoder
  | shiftJis => shiftJisDecoder
  | eucKr => eucKrDecoder
  | userDefined => userDefinedDecoder
  | replacement => replacementDecoder

def decode (charset : Charset) (bytes : Bytes) : Text := charset.decoder.text bytes

def decodeNotices (charset : Charset) (bytes : Bytes) : List Notice :=
  if (charset.decoder.run bytes).contains none then [.malformedReplaced charset.name] else []

end Textmode.Charset
