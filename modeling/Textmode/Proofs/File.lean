import Textmode.Sauce.File
import Textmode.Proofs.Block
import Textmode.Proofs.Comments

/-! Files with records behind their content. A record that was written is exactly what comes
off again, and what is read from it are the fields as their places can hold them.
-/

set_option autoImplicit false

namespace Textmode.Sauce.File

/-! ## The content -/

theorem endsInRecord_iff {file : Bytes} : endsInRecord file ↔
    Block.width ≤ file.length ∧ Block.mark <+: lastBlock file := by
  rw [endsInRecord, Bool.and_eq_true, decide_eq_true_iff, decide_eq_true_iff,
    List.prefix_iff_eq_take, eq_comm (a := Block.mark)]

theorem strip_of_endsInRecord {file : Bytes} (h : endsInRecord file) :
    strip file = strip (dropRecord file) := by
  rw [strip, if_pos h]

theorem strip_of_not_endsInRecord {file : Bytes} (h : ¬ endsInRecord file) : strip file = file := by
  rw [strip, if_neg h]

theorem dropEndMark_isPrefix (file : Bytes) : dropEndMark file <+: file := by
  unfold dropEndMark
  split
  · exact List.dropLast_prefix file
  · exact List.prefix_refl file

theorem dropRecord_isPrefix (file : Bytes) : dropRecord file <+: file :=
  (dropEndMark_isPrefix _).trans (List.take_prefix _ file)

theorem strip_isPrefix (file : Bytes) : strip file <+: file := by
  induction file using strip.induct with
  | case1 file h ih =>
    rw [strip_of_endsInRecord h]
    exact ih.trans (dropRecord_isPrefix file)
  | case2 file h => exact (strip_of_not_endsInRecord h).symm ▸ List.prefix_refl file

theorem not_endsInRecord_strip (file : Bytes) : ¬ endsInRecord (strip file) := by
  induction file using strip.induct with
  | case1 file h ih => rwa [strip_of_endsInRecord h]
  | case2 file h => rwa [strip_of_not_endsInRecord h]

theorem strip_strip (file : Bytes) : strip (strip file) = strip file :=
  strip_of_not_endsInRecord (not_endsInRecord_strip file)

/-! ## A block behind other octets -/

section Laid

variable {block comments : Bytes}

theorem lastBlock_append (before : Bytes) (whole : block.length = Block.width) :
    lastBlock (before ++ block) = block := by
  rw [lastBlock, List.length_append, whole, Nat.add_sub_cancel, List.drop_left]

theorem front_append (before : Bytes) (whole : block.length = Block.width) :
    front (before ++ block) = before := by
  rw [front, List.length_append, whole, Nat.add_sub_cancel, List.take_left]

theorem endsInRecord_append (before : Bytes) (whole : block.length = Block.width)
    (marked : block.take Block.mark.length = Block.mark) : endsInRecord (before ++ block) := by
  have long : Block.width ≤ (before ++ block).length := by
    rw [List.length_append]
    omega
  rw [endsInRecord, lastBlock_append before whole, marked, decide_eq_true long]
  rfl

theorem dropEndMark_concat (file : Bytes) : dropEndMark (file ++ [endOfContent]) = file := by
  simp [dropEndMark]

theorem dropRecord_append (content : Bytes) (whole : block.length = Block.width)
    (claimed : comments.length = Comments.extent (Block.commentCount block).toNat) :
    dropRecord (content ++ endOfContent :: (comments ++ block)) = content := by
  have last : content ++ endOfContent :: (comments ++ block) =
      (content ++ endOfContent :: comments) ++ block := by simp
  have split : content ++ endOfContent :: (comments ++ block) =
      (content ++ [endOfContent]) ++ (comments ++ block) := by simp
  have room : (comments ++ block).length =
      Block.width + Comments.extent (Block.commentCount block).toNat := by
    rw [List.length_append, claimed, whole, Nat.add_comm]
  rw [dropRecord, last, lastBlock_append _ whole, ← last, split, List.length_append, room,
    Nat.add_sub_cancel, List.take_left, dropEndMark_concat]

end Laid

/-! ## A written record -/

section Written

variable (file : Bytes) (r : Record) (contentLength : Nat)

theorem append_toBytes :
    file ++ r.toBytes contentLength =
      (file ++ endOfContent :: Comments.block r.commentLines) ++
        r.block (storedSize contentLength) (UInt8.ofNat r.commentLines.length) := by
  simp [Record.toBytes]

@[simp] theorem lastBlock_append_toBytes :
    lastBlock (file ++ r.toBytes contentLength) =
      r.block (storedSize contentLength) (UInt8.ofNat r.commentLines.length) := by
  rw [append_toBytes, lastBlock_append _ (r.length_block _ _)]

@[simp] theorem front_append_toBytes :
    front (file ++ r.toBytes contentLength) =
      file ++ endOfContent :: Comments.block r.commentLines := by
  rw [append_toBytes, front_append _ (r.length_block _ _)]

theorem endsInRecord_append_toBytes : endsInRecord (file ++ r.toBytes contentLength) := by
  rw [append_toBytes]
  exact endsInRecord_append _ (r.length_block _ _) (r.take_mark_block _ _)

theorem toNat_commentLines : (UInt8.ofNat r.commentLines.length).toNat = r.commentLines.length :=
  Utf8.toNat_ofNat_of_lt (Nat.lt_succ_of_le r.length_commentLines_le)

theorem commentCount_block (fileSize : UInt32) :
    (Block.commentCount (r.block fileSize (UInt8.ofNat r.commentLines.length))).toNat =
      r.commentLines.length := by
  rw [Block.commentCount, (r.octetAt_block _ _).2.2.1, toNat_commentLines]

theorem commentCount_append_toBytes :
    (Block.commentCount (lastBlock (file ++ r.toBytes contentLength))).toNat =
      r.commentLines.length := by
  rw [lastBlock_append_toBytes, commentCount_block]

theorem dropRecord_append_toBytes : dropRecord (file ++ r.toBytes contentLength) = file := by
  apply dropRecord_append file (r.length_block _ _)
  rw [Comments.length_block, commentCount_block]

theorem strip_append_toBytes : strip (file ++ r.toBytes contentLength) = strip file := by
  rw [strip_of_endsInRecord (endsInRecord_append_toBytes file r contentLength),
    dropRecord_append_toBytes]

end Written

@[simp] theorem strip_attach (file : Bytes) (r : Record) : strip (attach file r) = strip file := by
  rw [attach, strip_append_toBytes, strip_strip]

theorem attach_congr {file other : Bytes} (same : strip file = strip other) (r : Record) :
    attach file r = attach other r := by
  rw [attach, attach, same]

/-! ## Reading a record -/

def storedLines (file : Bytes) : List Bytes :=
  Comments.stored (Block.commentCount (lastBlock file)).toNat (front file)

theorem length_storedLines_lt (file : Bytes) : (storedLines file).length < 256 :=
  Nat.lt_of_le_of_lt (Comments.length_stored_le ..) (UInt8.toNat_lt _)

def foundSize (stored : UInt32) (room : Nat) : UInt32 :=
  if stored = 0 then storedSize room else stored

theorem read?_eq_none_iff {file : Bytes} : read? file = none ↔ ¬ endsInRecord file := by
  rw [read?]
  by_cases h : endsInRecord file
  · rw [if_pos h]
    dsimp only
    split <;> simp [h]
  · simp [h]

theorem read?_of_endsInRecord {file : Bytes} (h : endsInRecord file) :
    read? file = some { Record.ofBlock (lastBlock file) with
      fileSize := foundSize (Record.ofBlock (lastBlock file)).fileSize
        ((front file).length - Comments.extent (Block.commentCount (lastBlock file)).toNat)
      commentCount := UInt8.ofNat (storedLines file).length
      comments := Text.unlines ((storedLines file).map Comments.readLine) } := by
  rw [read?, if_pos h]
  dsimp only
  rw [Record.commentCount_ofBlock]
  obtain ⟨whole, read⟩ | ⟨none, notice, read⟩ :=
    Comments.read_cases (Block.commentCount (lastBlock file)).toNat (front file)
  · rw [read, storedLines, whole, UInt8.ofNat_toNat, foundSize]
  · rw [read, storedLines, none, foundSize]
    rfl

theorem endsInRecord_of_read? {file : Bytes} {r : Record} (read : read? file = some r) :
    endsInRecord file := by
  by_contra h
  rw [read?_eq_none_iff.mpr h] at read
  cases read

theorem eq_of_read? {file : Bytes} {r : Record} (read : read? file = some r) :
    { Record.ofBlock (lastBlock file) with
      fileSize := foundSize (Record.ofBlock (lastBlock file)).fileSize
        ((front file).length - Comments.extent (Block.commentCount (lastBlock file)).toNat)
      commentCount := UInt8.ofNat (storedLines file).length
      comments := Text.unlines ((storedLines file).map Comments.readLine) } = r := by
  rw [read?_of_endsInRecord (endsInRecord_of_read? read)] at read
  exact Option.some.inj read

theorem comments_of_read? {file : Bytes} {r : Record} (read : read? file = some r) :
    r.comments = Text.unlines ((storedLines file).map Comments.readLine) ∧
      r.commentCount = UInt8.ofNat (storedLines file).length := by
  rw [← eq_of_read? read]
  constructor <;> dsimp only

end Textmode.Sauce.File
