import Textmode.Sauce.Comments

/-! The fixed part of a record in a file: 128 octets.

| offset | width | field            | filled with |
|--------|-------|------------------|-------------|
| 0      | 7     | the mark SAUCE00 |             |
| 7      | 35    | title            | spaces      |
| 42     | 20    | author           | spaces      |
| 62     | 20    | group            | spaces      |
| 82     | 8     | date             | spaces      |
| 90     | 4     | file size        |             |
| 94     | 1     | data type        |             |
| 95     | 1     | file type        |             |
| 96     | 8     | four numbers     |             |
| 104    | 1     | comment lines    |             |
| 105    | 1     | flags            |             |
| 106    | 22    | font name        | NULs        |
-/

set_option autoImplicit false

namespace Textmode.Sauce

namespace Block

def width : Nat := 128

/-- The octets of `SAUCE00`. -/
def mark : Bytes := [0x53, 0x41, 0x55, 0x43, 0x45, 0x30, 0x30]

def dateWidth : Nat := 8

/-- Fields are filled up with spaces or NULs, and some programs mix them. -/
def isFilling (b : UInt8) : Bool := b = 0x20 || b = 0x00

def readText (octets : Bytes) : Text := Utf8.text (dropTrailing isFilling octets)

def octetAt (offset : Nat) (block : Bytes) : UInt8 := block[offset]?.getD 0

def numberAt (offset width : Nat) (block : Bytes) : Nat := ofLittleEndian (slice offset width block)

def textAt (offset width : Nat) (block : Bytes) : Text := readText (slice offset width block)

def commentCount (block : Bytes) : UInt8 := octetAt 104 block

end Block

namespace Record

def ofBlock (block : Bytes) : Record where
  title := Block.textAt 7 TextField.title.width block
  author := Block.textAt 42 TextField.author.width block
  group := Block.textAt 62 TextField.group.width block
  date := Block.textAt 82 Block.dateWidth block
  fileSize := UInt32.ofNat (Block.numberAt 90 4 block)
  dataType := .ofCode (Block.octetAt 94 block)
  fileType := Block.octetAt 95 block
  tinfo1 := UInt16.ofNat (Block.numberAt 96 2 block)
  tinfo2 := UInt16.ofNat (Block.numberAt 98 2 block)
  tinfo3 := UInt16.ofNat (Block.numberAt 100 2 block)
  tinfo4 := UInt16.ofNat (Block.numberAt 102 2 block)
  commentCount := Block.commentCount block
  flags := ⟨Block.octetAt 105 block⟩
  fontName := Block.textAt 106 TextField.fontName.width block

/-- The block of a record. The size and the count of comment lines are those of what lies
in front of it, whatever the record says. Raw screen memory has no use for the first two
numbers, and they are written as zero. -/
def block (r : Record) (fileSize : UInt32) (commentCount : UInt8) : Bytes :=
  Block.mark ++ Text.field 0x20 TextField.title.width r.title ++
    Text.field 0x20 TextField.author.width r.author ++
    Text.field 0x20 TextField.group.width r.group ++
    Text.field 0x20 Block.dateWidth r.date ++
    littleEndian 4 fileSize.toNat ++ [r.dataType.code, r.fileType] ++
    littleEndian 2 (if r.dataType = .binaryText then 0 else r.tinfo1.toNat) ++
    littleEndian 2 (if r.dataType = .binaryText then 0 else r.tinfo2.toNat) ++
    littleEndian 2 r.tinfo3.toNat ++ littleEndian 2 r.tinfo4.toNat ++
    [commentCount, r.flags.bits] ++ Text.field 0x00 TextField.fontName.width r.fontName

theorem length_block (r : Record) (fileSize : UInt32) (commentCount : UInt8) :
    (r.block fileSize commentCount).length = Block.width := by
  simp [block, Block.mark, Block.width, Block.dateWidth, TextField.width]

end Record

end Textmode.Sauce
