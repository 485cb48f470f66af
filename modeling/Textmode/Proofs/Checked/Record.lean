import Textmode.Proofs.Checked.Text
import Textmode.Proofs.Block
import Textmode.Proofs.Comments

/-! Blocks and comment lines, read and written with each step checked. A block of the right width
has all its fields, and what is written has the right width whatever the texts are.
-/

set_option autoImplicit false

namespace Textmode.Checked

open Sauce

/-! ## Reading a block -/

/-- How many octets are left without filling at the end, of so many at the start. -/
def lengthWithin (bytes : Bytes) : Nat → Except Fault Nat
  | 0 => .ok 0
  | stop + 1 => do
    let last ← octetAt stop bytes
    if Block.isFilling last then lengthWithin bytes stop else return stop + 1

def readText (bytes : Bytes) : Except Fault Text := do
  let stop ← lengthWithin bytes bytes.length
  let octets ← between 0 stop bytes
  return Utf8.text octets

def textAt (low high : Nat) (block : Bytes) : Except Fault Text := do
  let octets ← between low high block
  readText octets

def numberAt (offset width : Nat) (block : Bytes) : Except Fault Nat := do
  let octets ← (List.range width).mapM fun i => octetAt (offset + i) block
  return ofLittleEndian octets

def readBlock (block : Bytes) : Except Fault Record := do
  assertWidth block.length Block.width
  let title ← textAt 7 42 block
  let author ← textAt 42 62 block
  let group ← textAt 62 82 block
  let date ← textAt 82 90 block
  let fileSize ← numberAt 90 4 block
  let dataType ← octetAt 94 block
  let fileType ← octetAt 95 block
  let tinfo1 ← numberAt 96 2 block
  let tinfo2 ← numberAt 98 2 block
  let tinfo3 ← numberAt 100 2 block
  let tinfo4 ← numberAt 102 2 block
  let commentCount ← octetAt 104 block
  let flags ← octetAt 105 block
  let fontName ← textAt 106 block.length block
  return {
    title, author, group, date, fileType, commentCount, fontName
    fileSize := UInt32.ofNat fileSize
    dataType := .ofCode dataType
    tinfo1 := UInt16.ofNat tinfo1
    tinfo2 := UInt16.ofNat tinfo2
    tinfo3 := UInt16.ofNat tinfo3
    tinfo4 := UInt16.ofNat tinfo4
    flags := ⟨flags⟩ }

theorem lengthWithin_eq {bytes : Bytes} {stop : Nat} (inside : stop ≤ bytes.length) :
    lengthWithin bytes stop = .ok (dropTrailing Block.isFilling (bytes.take stop)).length := by
  induction stop with
  | zero => rfl
  | succ stop ih =>
    have last : Block.octetAt stop bytes = bytes[stop] := by
      rw [Block.octetAt, List.getElem?_eq_getElem inside]
      rfl
    rw [lengthWithin, octetAt_eq inside, ok_bind, last, ← List.take_append_getElem inside]
    by_cases filling : Block.isFilling bytes[stop]
    · rw [if_pos filling, dropTrailing_concat_of_pos filling, ih (Nat.le_of_lt inside)]
    · rw [if_neg filling, dropTrailing_concat_of_neg filling, List.length_append,
        List.length_take_of_le (Nat.le_of_lt inside)]
      rfl

theorem readText_eq (bytes : Bytes) : readText bytes = .ok (Block.readText bytes) := by
  have start := dropTrailing_isPrefix Block.isFilling bytes
  rw [readText, lengthWithin_eq (Nat.le_refl _), ok_bind, List.take_length,
    between_zero start.length_le, ok_bind, pure_eq_ok, ← List.prefix_iff_eq_take.mp start,
    Block.readText]

theorem textAt_eq {low high : Nat} {block : Bytes} (order : low ≤ high)
    (inside : high ≤ block.length) :
    textAt low high block = .ok (Block.textAt low (high - low) block) := by
  rw [textAt, between_eq order inside, ok_bind, readText_eq, Block.textAt]

theorem numberAt_eq {offset width : Nat} {block : Bytes} (inside : offset + width ≤ block.length) :
    numberAt offset width block = .ok (Block.numberAt offset width block) := by
  have each : ∀ i ∈ List.range width,
      octetAt (offset + i) block = .ok (Block.octetAt (offset + i) block) := by
    intro i member
    have earlier := List.mem_range.mp member
    exact octetAt_eq (by omega)
  have octets : (List.range width).map (fun i => Block.octetAt (offset + i) block) =
      slice offset width block := by
    apply List.ext_getElem
    · rw [List.length_map, List.length_range, length_slice inside]
    · intro i here there
      rw [List.length_map, List.length_range] at here
      have place : offset + i < block.length := by omega
      simp [slice, Block.octetAt, List.getElem?_eq_getElem place]
  rw [numberAt, mapM_eq each, ok_bind, pure_eq_ok, octets, Block.numberAt]

theorem readBlock_eq {block : Bytes} (whole : block.length = Block.width) :
    readBlock block = .ok (Record.ofBlock block) := by
  have long : block.length = 128 := whole
  have text (low high : Nat) (order : low ≤ high) (inside : high ≤ 128) :
      textAt low high block = .ok (Block.textAt low (high - low) block) :=
    textAt_eq order (long ▸ inside)
  have number (offset width : Nat) (inside : offset + width ≤ 128) :
      numberAt offset width block = .ok (Block.numberAt offset width block) :=
    numberAt_eq (long ▸ inside)
  have octet (i : Nat) (inside : i < 128) : octetAt i block = .ok (Block.octetAt i block) :=
    octetAt_eq (long ▸ inside)
  rw [readBlock, whole, assertWidth_eq]
  simp (disch := decide) only [text, number, octet, Block.width, ok_bind, pure_eq_ok]
  rfl

/-! ## Writing a block -/

def writeBlock (out : Bytes) (r : Record) (fileSize : UInt32) (commentCount : UInt8) :
    Except Fault Bytes := do
  let title ← field 0x20 35 r.title
  let author ← field 0x20 20 r.author
  let group ← field 0x20 20 r.group
  let date ← field 0x20 8 r.date
  let fontName ← field 0x00 22 r.fontName
  let whole := out ++ (Block.mark ++ title ++ author ++ group ++ date ++
    littleEndian 4 fileSize.toNat ++ [r.dataType.code, r.fileType] ++
    (if r.dataType = .binaryText then List.replicate 4 0
      else littleEndian 2 r.tinfo1.toNat ++ littleEndian 2 r.tinfo2.toNat) ++
    littleEndian 2 r.tinfo3.toNat ++ littleEndian 2 r.tinfo4.toNat ++
    [commentCount, r.flags.bits] ++ fontName)
  let added ← minus whole.length out.length
  assertWidth added Block.width
  return whole

theorem writeBlock_eq (out : Bytes) (r : Record) (fileSize : UInt32) (commentCount : UInt8) :
    writeBlock out r fileSize commentCount = .ok (out ++ r.block fileSize commentCount) := by
  have numbers : (if r.dataType = .binaryText then List.replicate 4 0
      else littleEndian 2 r.tinfo1.toNat ++ littleEndian 2 r.tinfo2.toNat) =
      littleEndian 2 (if r.dataType = .binaryText then 0 else r.tinfo1.toNat) ++
        littleEndian 2 (if r.dataType = .binaryText then 0 else r.tinfo2.toNat) := by
    split <;> rfl
  simp only [writeBlock, field_eq, ok_bind, numbers]
  rw [← List.append_assoc _ (littleEndian 2 _)]
  show (do
      let added ← minus (out ++ r.block fileSize commentCount).length out.length
      assertWidth added Block.width
      return out ++ r.block fileSize commentCount) = _
  rw [List.length_append, minus_eq (Nat.le_add_right _ _), ok_bind, Nat.add_sub_cancel_left,
    r.length_block, assertWidth_eq, ok_bind, pure_eq_ok]

/-! ## Comments -/

def chunks (width : Nat) : Bytes → List Bytes
  | [] => []
  | b :: bytes => (b :: bytes.take (width - 1)) :: chunks width (bytes.drop (width - 1))
termination_by bytes => bytes.length
decreasing_by
  rw [List.length_drop, List.length_cons]
  omega

def readComments (count : Nat) (front : Bytes) : Except Fault (Except Notice Text) := do
  if count = 0 then return .ok []
  if front.length < Comments.extent count then return .error (.commentsDoNotFit count)
  let start ← minus front.length (Comments.extent count)
  let found ← between start front.length front
  let mark ← between 0 5 found
  let lines ← between 5 found.length found
  if mark = Comments.mark then
    return .ok (Text.unlines ((chunks Comments.lineWidth lines).map Comments.readLine))
  else return .error .commentsUnmarked

def emptyLine : Bytes := List.replicate Comments.lineWidth 0x20

def wrap (line : Text) : Except Fault (List Bytes) :=
  if Text.trimEnd line = [] then .ok [emptyLine]
  else do
    let parts ← pieces Comments.lineWidth (Text.trimEnd line)
    parts.mapM (field 0x20 Comments.lineWidth)

def commentLines (r : Record) : Except Fault (List Bytes) :=
  if r.comments = [] ∧ r.commentCount ≠ 0 then .ok [emptyLine]
  else if r.comments = [] then .ok []
  else do
    let lines ← (Text.lines r.comments).mapM wrap
    return lines.flatten.take Comments.maxLines

theorem chunks_eq_rows {width : Nat} (some : 0 < width) {count : Nat} {bytes : Bytes}
    (whole : bytes.length = count * width) :
    chunks width bytes = Comments.rows width count bytes := by
  induction count generalizing bytes with
  | zero =>
    rw [Nat.zero_mul] at whole
    obtain rfl := List.length_eq_zero_iff.mp whole
    rw [chunks, Comments.rows]
  | succ count ih =>
    rw [Nat.succ_mul] at whole
    cases bytes with
    | nil =>
      rw [List.length_nil] at whole
      omega
    | cons b bytes =>
      obtain ⟨more, rfl⟩ := Nat.exists_eq_add_one_of_ne_zero some.ne'
      rw [chunks, Comments.rows, Nat.add_sub_cancel, List.take_succ_cons, List.drop_succ_cons, ih]
      rw [List.length_cons] at whole
      rw [List.length_drop]
      omega

theorem readComments_eq (count : Nat) (front : Bytes) :
    readComments count front = .ok (Comments.read count front) := by
  unfold readComments Comments.read
  split
  · rfl
  split
  · rfl
  next some long =>
  -- The room that is claimed is there. Behind five octets for the mark, it has whole lines.
  have extent : Comments.extent count = 5 + count * Comments.lineWidth := if_neg some
  have room : Comments.extent count ≤ front.length := Nat.not_lt.mp long
  have there : (front.drop (front.length - Comments.extent count)).length =
      5 + count * Comments.lineWidth := by
    rw [List.length_drop, ← extent]
    omega
  rw [minus_eq room, ok_bind, between_length (Nat.sub_le _ _), ok_bind]
  generalize front.drop (front.length - Comments.extent count) = found at there ⊢
  have marked : 5 ≤ found.length := by omega
  have lines : (found.drop 5).length = count * Comments.lineWidth := by
    rw [List.length_drop, there]
    omega
  rw [between_zero marked, ok_bind, between_length marked, ok_bind, Comments.length_mark,
    chunks_eq_rows (by decide) lines]
  dsimp only
  split <;> rfl

theorem field_nil : Text.field 0x20 Comments.lineWidth [] = emptyLine := rfl

theorem wrap_eq (line : Text) :
    wrap line = .ok ((Comments.wrap line).map (Text.field 0x20 Comments.lineWidth)) := by
  rw [wrap, Comments.wrap]
  split
  · rw [List.map_singleton, field_nil]
  · rw [pieces_eq, ok_bind]
    exact mapM_eq fun piece _ => field_eq 0x20 Comments.lineWidth piece

theorem commentLines_eq (r : Record) : commentLines r =
    .ok (r.commentLines.map (Text.field 0x20 Comments.lineWidth)) := by
  rw [commentLines, Record.commentLines]
  split
  · rw [List.map_singleton, field_nil]
  · rw [Comments.wrapAll]
    split
    · rfl
    · rw [mapM_eq fun line _ => wrap_eq line, ok_bind, pure_eq_ok, List.map_take, List.map_flatMap,
        List.flatMap_def]

end Textmode.Checked
