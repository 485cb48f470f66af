import Textmode.Text.Blank

/-! Decoders that look at one octet and what follows it. A malformed stretch is
kept as `none`, so that a reader can both replace it and know that it was there. -/

set_option autoImplicit false

namespace Textmode.Charset

/-- What the octets in front of a decoder stand for, and how many it takes
beyond the first. -/
structure Piece where
  chars : List (Option Char)
  used : Nat := 0
  deriving Repr, DecidableEq

def Piece.char (c : Char) (used : Nat) : Piece := ⟨[some c], used⟩

def Piece.malformed (used : Nat) : Piece := ⟨[none], used⟩

abbrev Decoder := UInt8 → Bytes → Piece

def Decoder.run (decoder : Decoder) : Bytes → List (Option Char)
  | [] => []
  | b :: rest => (decoder b rest).chars ++ run decoder (rest.drop (decoder b rest).used)
termination_by bytes => bytes.length

def replaceMalformed (chars : List (Option Char)) : Text := chars.map (·.getD '\uFFFD')

def Decoder.text (decoder : Decoder) (bytes : Bytes) : Text := replaceMalformed (decoder.run bytes)

end Textmode.Charset
