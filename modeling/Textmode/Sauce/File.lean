import Textmode.Sauce.Block
import Textmode.Sink

/-! Files that end in a record. In front of the record lie its comments, and in front of
them an octet that marks the end of the content for programs that know no records. -/

set_option autoImplicit false

namespace Textmode.Sauce

def endOfContent : UInt8 := 0x1A

def storedSize (n : Nat) : UInt32 := UInt32.ofNat (min n (UInt32.size - 1))

namespace Record

def extent (r : Record) : Nat := Block.width + Comments.extent r.commentLines.length

def toBytes (r : Record) (contentLength : Nat) : Bytes :=
  endOfContent :: (Comments.block r.commentLines ++
    r.block (storedSize contentLength) (UInt8.ofNat r.commentLines.length))

theorem length_toBytes (r : Record) (contentLength : Nat) :
    (r.toBytes contentLength).length = r.extent + 1 := by
  simp [toBytes, extent, length_block, Comments.length_block, Nat.add_comm]

def write (r : Record) (contentLength : Nat) (sink : Sink) : Sink × Option WriteError :=
  let (sink, fault) := sink.writeAll (r.toBytes contentLength)
  (sink, fault.map (⟨"<writer>", ·⟩))

end Record

namespace File

def front (file : Bytes) : Bytes := file.take (file.length - Block.width)

def lastBlock (file : Bytes) : Bytes := file.drop (file.length - Block.width)

def endsInRecord (file : Bytes) : Bool :=
  Block.width ≤ file.length && (lastBlock file).take Block.mark.length = Block.mark

def dropEndMark (file : Bytes) : Bytes :=
  if file.getLast? = some endOfContent then file.dropLast else file

/-- A file without its last record: the block goes, the room that the block claims for
comments, and one end mark in front of them. -/
def dropRecord (file : Bytes) : Bytes :=
  let claimed := Block.width + Comments.extent (Block.commentCount (lastBlock file)).toNat
  dropEndMark (file.take (file.length - claimed))

theorem length_dropEndMark_le (file : Bytes) : (dropEndMark file).length ≤ file.length := by
  unfold dropEndMark
  split <;> simp

theorem length_dropRecord {file : Bytes} (h : endsInRecord file) :
    (dropRecord file).length + Block.width ≤ file.length := by
  have bound : Block.width ≤ file.length := by
    simp only [endsInRecord, Bool.and_eq_true, decide_eq_true_eq] at h
    exact h.1
  have := length_dropEndMark_le (file.take
    (file.length - (Block.width + Comments.extent (Block.commentCount (lastBlock file)).toNat)))
  simp only [List.length_take] at this
  simp only [dropRecord]
  omega

/-- The content of a file. A file can carry several records, each one behind the other;
all of them go. -/
def strip (file : Bytes) : Bytes :=
  if endsInRecord file then strip (dropRecord file) else file
termination_by file.length
decreasing_by
  have := length_dropRecord ‹_›
  simp only [Block.width] at this
  omega

/-- The record at the end of a file. Texts are read even if they are malformed, so a file
with the mark of a record in its place has one. A size of zero counts as not stored:
it is what lies in front of the block and of the room it claims for comments. Comments
that are not in that room are absent. -/
def read? (file : Bytes) : Option Record :=
  if endsInRecord file then
    let r := Record.ofBlock (lastBlock file)
    let claimed := Comments.extent r.commentCount.toNat
    let sized := { r with
      fileSize := if r.fileSize = 0 then storedSize ((front file).length - claimed) else r.fileSize }
    match Comments.read r.commentCount.toNat (front file) with
    | .ok comments => some { sized with comments := comments }
    | .error _ => some { sized with commentCount := 0 }
  else none

def readNotices (file : Bytes) : List Notice :=
  if endsInRecord file then
    match Comments.read (Block.commentCount (lastBlock file)).toNat (front file) with
    | .ok _ => []
    | .error notice => [notice]
  else []

def attach (file : Bytes) (r : Record) : Bytes := strip file ++ r.toBytes (strip file).length

end File

end Textmode.Sauce
