import Textmode.Sauce.DataType
import Textmode.Sauce.Flags
import Textmode.Text.Blank

/-! What a file says about itself. The four type-dependent numbers and the file type code
mean something only together with the data type. -/

set_option autoImplicit false

namespace Textmode.Sauce

structure Record where
  title : Text := []
  author : Text := []
  group : Text := []
  /-- The date as it is stored, which need not be one. -/
  date : Text := []
  fileSize : UInt32 := 0
  dataType : DataType := .character
  fileType : UInt8 := 0
  tinfo1 : UInt16 := 0
  tinfo2 : UInt16 := 0
  tinfo3 : UInt16 := 0
  tinfo4 : UInt16 := 0
  /-- The number of comment lines in the file that `comments` came from. -/
  commentCount : UInt8 := 0
  flags : Flags := {}
  fontName : Text := []
  /-- The comment lines, with line feeds between them. -/
  comments : Text := []
  deriving DecidableEq

/-- The texts of limited length, in octets. A comment here is one line of comments. -/
inductive TextField where
  | title
  | author
  | group
  | fontName
  | comment
  deriving DecidableEq, Repr

def TextField.width : TextField → Nat
  | title => 35
  | author => 20
  | group => 20
  | fontName => 22
  | comment => 64

namespace Record

/-- The width in characters. Raw screen memory keeps half of it in the file type octet. -/
def columns (r : Record) : Nat :=
  if r.dataType = .binaryText then 2 * r.fileType.toNat else r.tinfo1.toNat

/-- The height in lines. That of raw screen memory follows from its size, two octets for
each cell, and counts full lines only; 0 where there is no telling. -/
def rows (r : Record) : Nat :=
  if r.dataType = .binaryText then min (r.fileSize.toNat / r.columns / 2) 65535
  else r.tinfo2.toNat

theorem rows_of_binaryText {r : Record} (binary : r.dataType = .binaryText) :
    r.rows = min (r.fileSize.toNat / (2 * r.columns)) 65535 := by
  rw [rows, if_pos binary, Nat.div_div_eq_div_mul, Nat.mul_comm]

/-- The largest width that half of it fits an octet for. -/
def maxBinaryColumns : UInt16 := 510

/-- Raw screen memory takes even widths up to 510 and has no place for a height. -/
def withSize? (r : Record) (columns rows : UInt16) : Option Record :=
  if r.dataType = .binaryText then
    if columns % 2 = 0 ∧ columns ≤ maxBinaryColumns then
      some { r with fileType := (columns / 2).toUInt8 }
    else none
  else some { r with tinfo1 := columns, tinfo2 := rows }

end Record

end Textmode.Sauce
