import Textmode.Proofs.Checked.Record
import Textmode.Proofs.RoundTrip

/-! Files stripped, read and written with each step checked. No file and no record brings a fault
about, whatever a record claims to have in front of it, and the results are those without checks.
-/

set_option autoImplicit false

namespace Textmode.Checked

open Sauce

/-! ## Stripping -/

def endsInRecord (file : Bytes) : Except Fault Bool := do
  if file.length < Block.width then return false
  let start ← minus file.length Block.width
  let block ← between start file.length file
  return Block.mark <+: block

/-- A file without its last record, if it has one. Where a record claims more room than there is,
nothing is left. -/
def dropRecord? (file : Bytes) : Except Fault (Option Bytes) := do
  let found ← endsInRecord file
  if found then
    let start ← minus file.length Block.width
    let count ← octetAt (start + 104) file
    let content ← between 0 (file.length - (Block.width + Comments.extent count.toNat)) file
    return some (File.dropEndMark content)
  else return none

theorem endsInRecord_eq (file : Bytes) : endsInRecord file = .ok (File.endsInRecord file) := by
  rw [endsInRecord]
  split
  · next short =>
    have none : ¬ File.endsInRecord file := fun found =>
      Nat.not_le.mpr short (File.endsInRecord_iff.mp found).1
    rw [pure_eq_ok, Bool.eq_false_iff.mpr none]
  · next long =>
    have room : Block.width ≤ file.length := Nat.not_lt.mp long
    have marked : decide (Block.mark <+: File.lastBlock file) = File.endsInRecord file := by
      rw [Bool.eq_iff_iff, decide_eq_true_iff, File.endsInRecord_iff]
      exact (and_iff_right room).symm
    rw [minus_eq room, ok_bind, between_length (Nat.sub_le _ _), ok_bind, pure_eq_ok,
      ← File.lastBlock, marked]

theorem dropRecord?_eq (file : Bytes) : dropRecord? file =
    .ok (if File.endsInRecord file then some (File.dropRecord file) else none) := by
  rw [dropRecord?, endsInRecord_eq, ok_bind]
  split
  · next found =>
    have room : Block.width ≤ file.length := (File.endsInRecord_iff.mp found).1
    have count : octetAt (file.length - Block.width + 104) file =
        .ok (Block.commentCount (File.lastBlock file)) := by
      have inside : file.length - Block.width + 104 < file.length := by
        rw [Block.width] at room ⊢
        omega
      rw [octetAt_eq inside, Block.commentCount, Block.octetAt, Block.octetAt, File.lastBlock,
        List.getElem?_drop]
    rw [minus_eq room, ok_bind, count, ok_bind, between_zero (Nat.sub_le _ _), ok_bind, pure_eq_ok,
      File.dropRecord]
  · rfl

theorem length_of_dropRecord? {file content : Bytes}
    (found : dropRecord? file = .ok (some content)) : content.length < file.length := by
  rw [dropRecord?_eq] at found
  split at found
  · next here =>
    obtain rfl := Option.some.inj (Except.ok.inj found)
    have shorter := File.length_dropRecord here
    rw [Block.width] at shorter
    omega
  · cases found

def strip (file : Bytes) : Except Fault Bytes :=
  match _found : dropRecord? file with
  | .error fault => .error fault
  | .ok none => .ok file
  | .ok (some content) => strip content
termination_by file.length
decreasing_by exact length_of_dropRecord? _found

theorem strip_eq (file : Bytes) : strip file = .ok (File.strip file) := by
  induction file using File.strip.induct with
  | case1 file found ih =>
    rw [strip, dropRecord?_eq, if_pos found, File.strip_of_endsInRecord found]
    exact ih
  | case2 file none =>
    rw [strip, dropRecord?_eq, if_neg none, File.strip_of_not_endsInRecord none]

/-! ## Reading -/

def read? (file : Bytes) : Except Fault (Option Record) := do
  let found ← endsInRecord file
  if found then
    let start ← minus file.length Block.width
    let block ← between start file.length file
    let r ← readBlock block
    let front ← between 0 start file
    let sized := { r with fileSize :=
      if r.fileSize = 0 then storedSize (start - Comments.extent r.commentCount.toNat)
      else r.fileSize }
    match ← readComments r.commentCount.toNat front with
    | .ok comments => return some { sized with comments := comments }
    | .error _ => return some { sized with commentCount := 0 }
  else return none

theorem read?_eq (file : Bytes) : read? file = .ok (File.read? file) := by
  rw [read?, endsInRecord_eq, ok_bind, File.read?]
  split
  · next found =>
    have room : Block.width ≤ file.length := (File.endsInRecord_iff.mp found).1
    have whole : (File.lastBlock file).length = Block.width := by
      rw [File.lastBlock, List.length_drop]
      omega
    have front : (File.front file).length = file.length - Block.width :=
      List.length_take_of_le (Nat.sub_le _ _)
    rw [minus_eq room, ok_bind, between_length (Nat.sub_le _ _), ok_bind, ← File.lastBlock,
      readBlock_eq whole, ok_bind, between_zero (Nat.sub_le _ _), ok_bind, ← File.front,
      readComments_eq, ok_bind, front]
    generalize Record.ofBlock (File.lastBlock file) = r
    dsimp only
    cases Comments.read r.commentCount.toNat (File.front file) with
    | ok _ => rfl
    | error _ => rfl
  · rfl

/-! ## Writing -/

def append (out : Bytes) (r : Record) (contentLength : Nat) : Except Fault Bytes := do
  let lines ← commentLines r
  let comments := if lines = [] then [] else Comments.mark ++ lines.flatten
  let count ← narrow lines.length
  writeBlock (out ++ [endOfContent] ++ comments) r (storedSize contentLength) count

def attach (file : Bytes) (r : Record) : Except Fault Bytes := do
  let content ← strip file
  append content r content.length

def write (r : Record) (contentLength : Nat) (sink : Sink) :
    Except Fault (Sink × Option WriteError) := do
  let octets ← append [] r contentLength
  let (sink, fault) := sink.writeAll octets
  return (sink, fault.map (⟨"<writer>", ·⟩))

theorem append_eq (out : Bytes) (r : Record) (contentLength : Nat) :
    append out r contentLength = .ok (out ++ r.toBytes contentLength) := by
  have few : r.commentLines.length < 256 := Nat.lt_succ_of_le r.length_commentLines_le
  have comments : (if r.commentLines.map (Text.field 0x20 Comments.lineWidth) = [] then []
      else Comments.mark ++ (r.commentLines.map (Text.field 0x20 Comments.lineWidth)).flatten) =
      Comments.block r.commentLines := by
    rw [Comments.block, List.flatMap_def]
    exact if_congr List.map_eq_nil_iff rfl rfl
  rw [append, commentLines_eq, ok_bind]
  dsimp only
  rw [comments, List.length_map, narrow_eq few, ok_bind, writeBlock_eq, Record.toBytes]
  rw [List.append_assoc, List.append_assoc, List.singleton_append]

theorem attach_eq (file : Bytes) (r : Record) : attach file r = .ok (File.attach file r) := by
  rw [attach, strip_eq, ok_bind, append_eq, File.attach]

theorem write_eq (r : Record) (contentLength : Nat) (sink : Sink) :
    write r contentLength sink = .ok (r.write contentLength sink) := by
  rw [write, append_eq, ok_bind, List.nil_append]
  rfl

/-! ## Sizes -/

def rows (r : Record) : Except Fault Nat := do
  if r.dataType ≠ .binaryText then return r.tinfo2.toNat
  if r.fileSize = 0 ∨ r.columns = 0 then return 0
  let cells ← divide r.fileSize.toNat r.columns
  let lines ← divide cells 2
  return min lines 65535

theorem rows_eq (r : Record) : rows r = .ok r.rows := by
  rw [rows, Record.rows]
  by_cases binary : r.dataType = .binaryText
  · rw [if_neg (not_not.mpr binary), if_pos binary]
    split
    · next none =>
      have zero : r.fileSize.toNat / r.columns = 0 := by
        obtain none | none := none
        · rw [none, UInt32.toNat_zero, Nat.zero_div]
        · rw [none, Nat.div_zero]
      rw [zero, pure_eq_ok]
      rfl
    · next some =>
      rw [not_or] at some
      rw [divide, if_neg some.2, ok_bind, divide, if_neg (by decide), ok_bind, pure_eq_ok]
  · rw [if_pos binary, if_neg binary, pure_eq_ok]

theorem rows_le (r : Record) : r.rows ≤ 65535 := by
  rw [Record.rows]
  split
  · exact Nat.min_le_right _ _
  · exact Nat.le_of_lt_succ r.tinfo2.toNat_lt

theorem rows_saturates (r : Record) : r.rows =
    if r.dataType ≠ .binaryText then r.tinfo2.toNat
    else if r.columns = 0 then 0
    else min (r.fileSize.toNat / (2 * r.columns)) 65535 := by
  rw [ite_not]
  split
  · next binary =>
    rw [Record.rows_of_binaryText binary]
    split
    · next none => rw [none, Nat.mul_zero, Nat.div_zero, Nat.zero_min]
    · rfl
  · next other => exact if_neg other

/-! ## No faults -/

/-- Whatever the octets of a file and the fields of a record are, no step has a fault, and the
results are those of the definitions without checks. Blocks and comment lines have their widths, the
count of lines is exact in its octet, sizes that are too large are stored as the largest, and
heights that are too large are the largest too. -/
theorem without_fault (file : Bytes) (r : Record) :
    strip file = .ok (File.strip file) ∧
    read? file = .ok (File.read? file) ∧
    (∀ count, readComments count file = .ok (Comments.read count file)) ∧
    attach file r = .ok (File.attach file r) ∧
    (∀ contentLength sink, write r contentLength sink = .ok (r.write contentLength sink)) ∧
    (∀ fileSize count, ∃ block,
      writeBlock file r fileSize count = .ok (file ++ block) ∧ block.length = 128) ∧
    (∃ lines count, commentLines r = .ok lines ∧ (∀ line ∈ lines, line.length = 64) ∧
      narrow lines.length = .ok count ∧ count.toNat = lines.length) ∧
    (∀ t place, ∃ stop ≤ place, lastBoundary t place = .ok stop ∧ isBoundary stop t) ∧
    (∀ n, (storedSize n).toNat = min n (2 ^ 32 - 1)) ∧
    (∃ count ≤ 65535, rows r = .ok count ∧ count = r.rows ∧
      count = if r.dataType ≠ .binaryText then r.tinfo2.toNat
        else if r.columns = 0 then 0
        else min (r.fileSize.toNat / (2 * r.columns)) 65535) := by
  refine ⟨strip_eq file, read?_eq file, fun count => readComments_eq count file, attach_eq file r,
    write_eq r, ?block, ?lines, ?search, toNat_storedSize,
    ⟨r.rows, rows_le r, rows_eq r, rfl, rows_saturates r⟩⟩
  case block =>
    intro fileSize count
    exact ⟨_, writeBlock_eq file r fileSize count, r.length_block fileSize count⟩
  case lines =>
    have few : r.commentLines.length < 256 := Nat.lt_succ_of_le r.length_commentLines_le
    refine ⟨_, UInt8.ofNat r.commentLines.length, commentLines_eq r, ?_, ?_, ?_⟩
    · intro line member
      obtain ⟨t, _, rfl⟩ := List.mem_map.mp member
      exact Text.length_field 0x20 Comments.lineWidth t
    · rw [List.length_map, narrow_eq few]
    · rw [List.length_map, File.toNat_commentLines]
  case search =>
    intro t place
    have start := Text.fit_isPrefix place t
    exact ⟨_, Text.size_fit_le place t, lastBoundary_eq t place, isBoundary_iff.mpr ⟨_, start, rfl⟩⟩

end Textmode.Checked
