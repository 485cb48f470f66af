import Textmode.Proofs.RoundTrip

/-! Records that claim room for comments which are not there. Reading ignores such comments,
but taking the record off removes the claimed room all the same, and with it the end of the
content. Here is when that does no harm.
-/

set_option autoImplicit false

namespace Textmode.Sauce.File

/-- The count of comment lines in the last block of a file, whether they are there or not. -/
def claimedLines (file : Bytes) : Nat := (Block.commentCount (lastBlock file)).toNat

def bareContent (file : Bytes) : Bytes := dropEndMark (front file)

theorem length_le_dropEndMark (file : Bytes) : file.length ≤ (dropEndMark file).length + 1 := by
  unfold dropEndMark
  split
  · rw [List.length_dropLast]
    omega
  · omega

theorem extent_eq_zero_iff {lines : Nat} : Comments.extent lines = 0 ↔ lines = 0 := by
  unfold Comments.extent
  split
  · next none => simp [none]
  · next some => simp [some]

theorem lt_extent {lines : Nat} (some : lines ≠ 0) : 1 < Comments.extent lines := by
  rw [Comments.extent, if_neg some, Comments.length_mark]
  omega

theorem dropRecord_eq (file : Bytes) :
    dropRecord file =
      dropEndMark ((front file).take ((front file).length - Comments.extent (claimedLines file))) := by
  have place (length width claimed : Nat) :
      min (min (length - width) length - claimed) (length - width) = length - (width + claimed) := by
    omega
  rw [dropRecord, front, List.take_take, List.length_take, claimedLines, place]

theorem dropRecord_of_claimedLines_eq_zero {file : Bytes} (none : claimedLines file = 0) :
    dropRecord file = bareContent file := by
  rw [dropRecord_eq, none, Comments.extent, if_pos rfl, Nat.sub_zero, List.take_length,
    bareContent]

theorem dropRecord_of_bareContent_eq_nil {file : Bytes} (empty : bareContent file = []) :
    dropRecord file = [] := by
  by_cases none : claimedLines file = 0
  · rw [dropRecord_of_claimedLines_eq_zero none, empty]
  · have short := length_le_dropEndMark (front file)
    have long := lt_extent none
    rw [bareContent] at empty
    rw [empty, List.length_nil] at short
    rw [dropRecord_eq, Nat.sub_eq_zero_of_le (by omega), List.take_zero]
    rfl

theorem strip_dropRecord_ne {file : Bytes} (claims : claimedLines file ≠ 0)
    (content : bareContent file ≠ []) (plain : ¬ endsInRecord (bareContent file)) :
    strip (dropRecord file) ≠ strip (bareContent file) := by
  intro same
  -- The content is left as it is, but the claimed room cuts off more than an end mark.
  have short := (strip_isPrefix (dropRecord file)).length_le
  rw [same, strip_of_not_endsInRecord plain, dropRecord_eq] at short
  have cut := length_dropEndMark_le
    ((front file).take ((front file).length - Comments.extent (claimedLines file)))
  rw [List.length_take] at cut
  have whole := length_le_dropEndMark (front file)
  have some := List.length_pos_iff.mpr content
  have long := lt_extent claims
  rw [bareContent] at short some
  omega

theorem strip_eq_strip_bareContent_iff {file : Bytes} (h : endsInRecord file) :
    strip file = strip (bareContent file) ↔
      claimedLines file = 0 ∨ bareContent file = [] ∨
        endsInRecord (bareContent file) ∧
          strip (dropEndMark ((front file).take
            ((front file).length - Comments.extent (claimedLines file)))) =
            strip (bareContent file) := by
  rw [strip_of_endsInRecord h, ← dropRecord_eq]
  constructor
  · intro same
    by_cases claims : claimedLines file = 0
    · exact .inl claims
    by_cases content : bareContent file = []
    · exact .inr (.inl content)
    by_cases plain : endsInRecord (bareContent file)
    · exact .inr (.inr ⟨plain, same⟩)
    · exact absurd same (strip_dropRecord_ne claims content plain)
  · rintro (none | empty | ⟨_, same⟩)
    · rw [dropRecord_of_claimedLines_eq_zero none]
    · rw [dropRecord_of_bareContent_eq_nil empty, empty]
    · exact same

theorem storedSize_sub_eq_iff {n claimed : Nat} :
    storedSize (n - claimed) = storedSize n ↔
      claimed = 0 ∨ n = 0 ∨ 2 ^ 32 - 1 + claimed ≤ n := by
  rw [← UInt32.toNat_inj, toNat_storedSize, toNat_storedSize]
  omega

/-- Comments are read as none where the block counts none, has no room for them, or has
something else in their place. -/
theorem claim_of_commentCount_eq_zero {file : Bytes} {r : Record} (read : read? file = some r)
    (bare : r.commentCount = 0) :
    claimedLines file = 0 ∨ (front file).length < Comments.extent (claimedLines file) ∨
      ((front file).drop ((front file).length - Comments.extent (claimedLines file))).take
        Comments.mark.length ≠ Comments.mark := by
  by_contra! present
  obtain ⟨some, long, marked⟩ := present
  have lines : (storedLines file).length = claimedLines file := by
    rw [storedLines, Comments.stored]
    exact (congrArg List.length (if_pos ⟨long, marked⟩)).trans (Comments.length_rows ..)
  have few := length_storedLines_lt file
  rw [(comments_of_read? read).2, ← UInt8.toNat_inj, Utf8.toNat_ofNat_of_lt few, lines] at bare
  exact some bare

theorem fileSize_of_read? {file : Bytes} {r : Record} (read : read? file = some r)
    (unsized : (Record.ofBlock (lastBlock file)).fileSize = 0) :
    r.fileSize = storedSize ((front file).length - Comments.extent (claimedLines file)) := by
  rw [← eq_of_read? read, unsized]
  rfl

/-- Where a record is read without comments, taking it off leaves all that lies in front of it
exactly if it claims no room, or there is nothing to lose, or what the claimed room leaves
happens to come to the same through further records. The size that is worked out for it is
right if the room is none, or nothing is there, or the size is past counting anyway. -/
theorem content_end_iff {file : Bytes} {r : Record} (read : read? file = some r)
    (bare : r.commentCount = 0) :
    (claimedLines file = 0 ∨ (front file).length < Comments.extent (claimedLines file) ∨
      ((front file).drop ((front file).length - Comments.extent (claimedLines file))).take
        Comments.mark.length ≠ Comments.mark) ∧
    ((strip file = strip (bareContent file) ∧
        ∀ other : Record, attach file other = attach (bareContent file) other) ↔
      claimedLines file = 0 ∨ bareContent file = [] ∨
        endsInRecord (bareContent file) ∧
          strip (dropEndMark ((front file).take
            ((front file).length - Comments.extent (claimedLines file)))) =
            strip (bareContent file)) ∧
    ((Record.ofBlock (lastBlock file)).fileSize = 0 →
      (r.fileSize = storedSize (front file).length ↔
        claimedLines file = 0 ∨ front file = [] ∨
          2 ^ 32 - 1 + Comments.extent (claimedLines file) ≤ (front file).length)) := by
  refine ⟨claim_of_commentCount_eq_zero read bare, ?_, ?_⟩
  · rw [← strip_eq_strip_bareContent_iff (endsInRecord_of_read? read)]
    exact ⟨fun both => both.1, fun same => ⟨same, attach_congr same⟩⟩
  · intro unsized
    rw [fileSize_of_read? read unsized, storedSize_sub_eq_iff, extent_eq_zero_iff,
      List.length_eq_zero_iff]

/-- Three octets of content, and a record that counts one comment line where there is none. -/
def staleCount : Bytes :=
  [0x61, 0x72, 0x74] ++ Block.mark ++ List.replicate 97 0x00 ++ [0x01] ++ List.replicate 23 0x00

theorem endsInRecord_staleCount : endsInRecord staleCount := by decide +kernel

theorem strip_staleCount : strip staleCount = [] := by
  have all : dropRecord staleCount = [] := by decide +kernel
  rw [strip_of_endsInRecord endsInRecord_staleCount, all]
  exact strip_of_not_endsInRecord (by decide +kernel)

theorem storedLines_staleCount : storedLines staleCount = [] := by decide +kernel

theorem content_end_staleCount :
    ∃ r, read? staleCount = some r ∧ r.commentCount = 0 ∧
      strip staleCount ≠ strip (bareContent staleCount) ∧
      r.fileSize ≠ storedSize (front staleCount).length := by
  have read := read?_of_endsInRecord endsInRecord_staleCount
  rw [storedLines_staleCount] at read
  obtain ⟨_, content, size⟩ := content_end_iff read rfl
  refine ⟨_, read, rfl, ?_, ?_⟩
  · intro same
    exact absurd (content.mp ⟨same, attach_congr same⟩) (by decide +kernel)
  · intro same
    exact absurd ((size (by decide +kernel)).mp same) (by decide +kernel)

/-- The content goes with the room that was claimed: three octets lay in front of the record,
none are left, and none are counted. -/
theorem strip_loses_content :
    endsInRecord staleCount ∧ front staleCount = [0x61, 0x72, 0x74] ∧
      strip (bareContent staleCount) = [0x61, 0x72, 0x74] ∧ strip staleCount = [] ∧
      ∃ r, read? staleCount = some r ∧ r.commentCount = 0 ∧
        (Record.ofBlock (lastBlock staleCount)).fileSize = 0 ∧ r.fileSize = 0 := by
  have bare : bareContent staleCount = [0x61, 0x72, 0x74] := by decide +kernel
  have read := read?_of_endsInRecord endsInRecord_staleCount
  rw [storedLines_staleCount] at read
  refine ⟨endsInRecord_staleCount, ?_, ?_, strip_staleCount, _, read, rfl, ?_, ?_⟩
  · decide +kernel
  · rw [bare]
    exact strip_of_not_endsInRecord (by decide +kernel)
  · decide +kernel
  · decide +kernel

end Textmode.Sauce.File
