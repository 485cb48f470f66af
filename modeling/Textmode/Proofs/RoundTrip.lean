import Textmode.Proofs.File

/-! A record put behind a file and read again. Everything comes back that has a place in the
file: numbers and flags as they were, texts as far as their fields hold them, and the size and
the count of comment lines as what is there.
-/

set_option autoImplicit false

namespace Textmode.Sauce

theorem toNat_storedSize (n : Nat) : (storedSize n).toNat = min n (2 ^ 32 - 1) := by
  have most : UInt32.size = 2 ^ 32 := by decide
  rw [storedSize, UInt32.toNat_ofNat', most]
  exact Nat.mod_eq_of_lt (by omega)

theorem storedSize_eq_zero_iff {n : Nat} : storedSize n = 0 ↔ n = 0 := by
  rw [← UInt32.toNat_inj, toNat_storedSize]
  simp only [UInt32.toNat_zero]
  omega

namespace File

theorem storedLines_append_toBytes (file : Bytes) (r : Record) (contentLength : Nat) :
    storedLines (file ++ r.toBytes contentLength) =
      r.commentLines.map (Text.field 0x20 Comments.lineWidth) := by
  have split : file ++ endOfContent :: Comments.block r.commentLines =
      (file ++ [endOfContent]) ++ Comments.block r.commentLines := by simp
  rw [storedLines, commentCount_append_toBytes, front_append_toBytes, split,
    Comments.stored_block]

/-- The size that is read is that of the content, but the end mark counts where there is no
content: a size of zero is not taken for one. -/
theorem foundSize_attach (file : Bytes) (r : Record) :
    foundSize (storedSize (strip file).length)
      ((strip file ++ endOfContent :: Comments.block r.commentLines).length -
        Comments.extent r.commentLines.length) = storedSize (max 1 (strip file).length) := by
  rw [foundSize, List.length_append, List.length_cons, Comments.length_block]
  split
  · next zero =>
    rw [storedSize_eq_zero_iff] at zero
    rw [zero]
    congr 1
    omega
  · next some =>
    rw [storedSize_eq_zero_iff] at some
    congr 1
    omega

theorem read?_attach (file : Bytes) (r : Record) :
    read? (attach file r) = some
      { r.inBlock (storedSize (max 1 (strip file).length)) (UInt8.ofNat r.commentLines.length) with
        comments := Text.unlines (r.commentLines.map Comments.kept) } := by
  have lines : (r.commentLines.map (Text.field 0x20 Comments.lineWidth)).map Comments.readLine =
      r.commentLines.map Comments.kept := by
    rw [List.map_map]
    exact List.map_congr_left fun line _ => Comments.readLine_field line
  rw [attach, read?_of_endsInRecord (endsInRecord_append_toBytes _ r _),
    storedLines_append_toBytes, commentCount_append_toBytes, lastBlock_append_toBytes,
    front_append_toBytes, Record.ofBlock_block, lines, List.length_map]
  dsimp only [Record.inBlock]
  rw [foundSize_attach]

/-- Everything has a place in the file but the width and height of raw screen memory, and a data
type that no code is read as. -/
theorem read_attach (file : Bytes) (r : Record) :
    ∃ u, read? (attach file r) = some u ∧
      (∀ slot : Slot, Text.Kept slot.width (slot.text r) (slot.text u)) ∧
      u.dataType = .ofCode r.dataType.code ∧
      (u.dataType = r.dataType ↔ ∃ code, r.dataType = .ofCode code) ∧ u.fileType = r.fileType ∧
      u.tinfo1 = (if r.dataType = .binaryText then 0 else r.tinfo1) ∧
      u.tinfo2 = (if r.dataType = .binaryText then 0 else r.tinfo2) ∧
      u.tinfo3 = r.tinfo3 ∧ u.tinfo4 = r.tinfo4 ∧ u.flags = r.flags ∧
      u.commentCount.toNat = r.commentLines.length ∧
      u.fileSize.toNat = min (max 1 (strip file).length) (2 ^ 32 - 1) := by
  refine ⟨_, read?_attach file r, ?_, rfl, DataType.ofCode_code_iff, rfl, rfl, rfl, rfl, rfl, rfl,
    ?_, ?_⟩
  · intro slot
    cases slot <;> exact Text.kept_dropTrailing_fit _ _
  · exact toNat_commentLines r
  · exact toNat_storedSize _

end File

end Textmode.Sauce
