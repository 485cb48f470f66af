import Textmode.Proofs.Checked.File
import Textmode.Proofs.Draft
import Textmode.Proofs.WellFormed

/-! The width and the height of a file. Most formats keep both as numbers. Raw screen memory keeps
half of its width, and its height is that of the content: two octets for each cell, in full lines
only. Whether an end mark counts with the content or not makes no difference there, since a line
is an even number of octets.
-/

set_option autoImplicit false

namespace Textmode.Sauce

namespace Record

/-! ## Putting a size -/

def RefusesWidth (r : Record) (columns : UInt16) : Prop :=
  r.dataType = .binaryText ∧ (columns.toNat % 2 = 1 ∨ 510 < columns.toNat)

def putSize (columns rows : UInt16) : EStateM EditError Record Unit := do
  let r ← get
  if r.dataType = .binaryText then
    if columns % 2 ≠ 0 ∨ maxBinaryColumns < columns then throw (.binaryWidth columns)
    set { r with fileType := (columns / 2).toUInt8 }
  else set { r with tinfo1 := columns, tinfo2 := rows }

variable {r sized : Record} {columns rows : UInt16}

theorem takesWidth_iff : columns % 2 = 0 ∧ columns ≤ maxBinaryColumns ↔
    columns.toNat % 2 = 0 ∧ columns.toNat ≤ 510 := by
  rw [← UInt16.toNat_inj, UInt16.toNat_mod, UInt16.le_iff_toNat_le]
  rfl

theorem withSize?_cases (r : Record) (columns rows : UInt16) :
    (r.RefusesWidth columns ∧ r.withSize? columns rows = none) ∨
    (¬ r.RefusesWidth columns ∧ r.dataType = .binaryText ∧
      r.withSize? columns rows = some { r with fileType := (columns / 2).toUInt8 }) ∨
    (¬ r.RefusesWidth columns ∧ r.dataType ≠ .binaryText ∧
      r.withSize? columns rows = some { r with tinfo1 := columns, tinfo2 := rows }) := by
  by_cases binary : r.dataType = .binaryText
  · by_cases takes : columns % 2 = 0 ∧ columns ≤ maxBinaryColumns
    · have range := takesWidth_iff.mp takes
      refine .inr (.inl ⟨fun refuses => ?_, binary, ?_⟩)
      · have := refuses.2
        omega
      · rw [withSize?, if_pos binary, if_pos takes]
    · refine .inl ⟨⟨binary, ?_⟩, ?_⟩
      · rw [takesWidth_iff] at takes
        omega
      · rw [withSize?, if_pos binary, if_neg takes]
  · refine .inr (.inr ⟨fun refuses => binary refuses.1, binary, ?_⟩)
    rw [withSize?, if_neg binary]

/-- Putting in place comes to the same, and leaves the record alone where it fails. -/
theorem run_putSize (r : Record) (columns rows : UInt16) :
    (putSize columns rows).run r =
      match r.withSize? columns rows with
      | some sized => .ok () sized
      | none => .error (.binaryWidth columns) r := by
  have refused : columns % 2 ≠ 0 ∨ maxBinaryColumns < columns ↔
      ¬ (columns % 2 = 0 ∧ columns ≤ maxBinaryColumns) := by
    rw [not_and_or, UInt16.not_le]
  rw [putSize, withSize?, EStateM.run_bind, EStateM.run_get]
  dsimp only
  by_cases binary : r.dataType = .binaryText
  · rw [if_pos binary, if_pos binary]
    by_cases takes : columns % 2 = 0 ∧ columns ≤ maxBinaryColumns
    · rw [if_neg (mt refused.mp (not_not.mpr takes)), if_pos takes]
      rfl
    · rw [if_pos (refused.mpr takes), if_neg takes]
      rfl
  · rw [if_neg binary, if_neg binary]
    rfl

theorem columns_of_withSize? (put : r.withSize? columns rows = some sized) :
    sized.columns = columns.toNat := by
  obtain ⟨_, none⟩ | ⟨takes, binary, some⟩ | ⟨_, other, some⟩ := r.withSize?_cases columns rows
  · rw [none] at put
    cases put
  · rw [some] at put
    cases put
    rw [RefusesWidth, not_and, not_or] at takes
    have range := takes binary
    have half : ((columns / 2).toUInt8).toNat = columns.toNat / 2 := by
      rw [UInt16.toNat_toUInt8, UInt16.toNat_div]
      exact Nat.mod_eq_of_lt (by simp; omega)
    rw [Record.columns, if_pos binary, half]
    omega
  · rw [some] at put
    cases put
    rw [Record.columns, if_neg other]

/-! ## Words -/

def columnsWord (r : Record) : UInt16 :=
  if r.dataType = .binaryText then r.fileType.toUInt16 * 2 else r.tinfo1

/-- The height in the bits that it is worked out in: thirty-two for the size, sixteen for what
comes out, which is as much as they can hold if there are more lines. -/
def rowsWord (r : Record) : UInt16 :=
  if r.dataType ≠ .binaryText then r.tinfo2
  else if r.fileSize = 0 ∨ r.columnsWord = 0 then 0
  else
    let lines := r.fileSize / r.columnsWord.toUInt32 / 2
    if lines.toNat < UInt16.size then lines.toUInt16 else 0xFFFF

theorem toNat_columnsWord (r : Record) : r.columnsWord.toNat = r.columns := by
  rw [columnsWord, columns]
  split
  · have small := r.fileType.toNat_lt
    rw [UInt16.toNat_mul, UInt8.toNat_toUInt16, Nat.mul_comm]
    exact Nat.mod_eq_of_lt (by simp; omega)
  · rfl

theorem toNat_rowsWord (r : Record) : r.rowsWord.toNat = r.rows := by
  have columns := r.toNat_columnsWord
  rw [rowsWord, rows]
  by_cases binary : r.dataType = .binaryText
  · have quotient : (r.fileSize / r.columnsWord.toUInt32 / 2).toNat =
        r.fileSize.toNat / r.columns / 2 := by
      rw [UInt32.toNat_div, UInt32.toNat_div, UInt16.toNat_toUInt32, columns]
      rfl
    rw [if_neg (not_not.mpr binary), if_pos binary]
    split
    · next none =>
      -- Without a size or a width the quotient is zero as well.
      have zero : r.fileSize.toNat / r.columns = 0 := by
        rw [← UInt32.toNat_inj, ← UInt16.toNat_inj, columns] at none
        obtain none | none := none
        · rw [none, UInt32.toNat_zero, Nat.zero_div]
        · rw [none, UInt16.toNat_zero, Nat.div_zero]
      rw [zero]
      rfl
    · dsimp only
      rw [quotient]
      split
      · next fits =>
        rw [UInt32.toNat_toUInt16, quotient, Nat.mod_eq_of_lt fits]
        exact (Nat.min_eq_left (Nat.le_of_lt_succ fits)).symm
      · next past =>
        have most : 65535 ≤ r.fileSize.toNat / r.columns / 2 :=
          Nat.le_of_succ_le (Nat.le_of_not_lt past)
        exact (Nat.min_eq_right most).symm
  · rw [if_pos binary, if_neg binary]

/-! ## The height of raw screen memory -/

/-- An odd number never completes an even row. -/
theorem div_succ_of_even {n : Nat} (even : n % 2 = 0) (d : Nat) :
    (n + 1) / (2 * d) = n / (2 * d) := by
  apply Nat.succ_div_of_not_dvd
  intro divides
  have two := Nat.dvd_trans (Nat.dvd_mul_right 2 d) divides
  omega

end Record

namespace File

open Record (putSize div_succ_of_even rows_of_binaryText)

section Attached

variable {file : Bytes} {r u : Record}

theorem numbers_of_read?_attach (read : read? (attach file r) = some u)
    (coded : .ofCode r.dataType.code = r.dataType) :
    u.dataType = r.dataType ∧ u.fileType = r.fileType ∧
      u.tinfo1 = (if r.dataType = .binaryText then 0 else r.tinfo1) ∧
      u.tinfo2 = (if r.dataType = .binaryText then 0 else r.tinfo2) ∧
      u.fileSize.toNat = min (max 1 (strip file).length) (2 ^ 32 - 1) := by
  rw [read?_attach, Option.some.injEq] at read
  subst read
  exact ⟨coded, rfl, rfl, rfl, toNat_storedSize _⟩

theorem columns_of_read?_attach (read : read? (attach file r) = some u)
    (coded : .ofCode r.dataType.code = r.dataType) : u.columns = r.columns := by
  obtain ⟨dataType, fileType, tinfo1, _⟩ := numbers_of_read?_attach read coded
  rw [Record.columns, Record.columns, dataType, fileType, tinfo1]
  split <;> rfl

theorem rows_of_read?_attach (read : read? (attach file r) = some u)
    (coded : .ofCode r.dataType.code = r.dataType) (other : r.dataType ≠ .binaryText) :
    u.rows = r.rows := by
  obtain ⟨dataType, _, _, tinfo2, _⟩ := numbers_of_read?_attach read coded
  rw [if_neg other] at tinfo2
  rw [Record.rows, Record.rows, if_neg (dataType ▸ other), if_neg other, tinfo2]

/-- The height is that of the content. An end mark that counts as content does not show in it. -/
theorem rows_of_read?_attach_binaryText (read : read? (attach file r) = some u)
    (binary : r.dataType = .binaryText) :
    u.rows = min (min (strip file).length (2 ^ 32 - 1) / (2 * r.columns)) 65535 := by
  have coded := DataType.coded_of_binaryText binary
  obtain ⟨dataType, _, _, _, size⟩ := numbers_of_read?_attach read coded
  rw [rows_of_binaryText (dataType.trans binary), size, columns_of_read?_attach read coded]
  rcases Nat.eq_zero_or_pos (strip file).length with empty | some
  · rw [empty]
    exact congrArg (min · 65535) (div_succ_of_even (n := 0) rfl r.columns)
  · rw [Nat.max_eq_right some]

end Attached

/-- What comes of putting a size into a record. A width may be refused, and then nothing changes.
Otherwise one place changes, or two, and the width is the one that was put. If the data type is that
of a code, a file gives the same width back. The height that it gives is the one that was put, or
that of its content. No step of this divides by zero or needs more bits than it has. -/
theorem size_of_put (r : Record) (columns rows : UInt16) (file : Bytes) :
    (r.RefusesWidth columns ∧ r.withSize? columns rows = none ∧
      (putSize columns rows).run r = .error (.binaryWidth columns) r) ∨
    ∃ sized u, ¬ r.RefusesWidth columns ∧ r.withSize? columns rows = some sized ∧
      (putSize columns rows).run r = .ok () sized ∧
      sized = (if r.dataType = .binaryText then { r with fileType := sized.fileType }
        else { r with tinfo1 := sized.tinfo1, tinfo2 := sized.tinfo2 }) ∧
      sized.columns = columns.toNat ∧ (r.dataType ≠ .binaryText → sized.rows = rows.toNat) ∧
      read? (attach file sized) = some u ∧
      ((∃ code, r.dataType = .ofCode code) → u.columns = columns.toNat ∧
        u.rows = (if r.dataType ≠ .binaryText then rows.toNat
          else if columns = 0 then 0
          else min (min (strip file).length (2 ^ 32 - 1) / (2 * columns.toNat)) 65535)) ∧
      Checked.rows u = .ok u.rows ∧ u.columnsWord.toNat = u.columns ∧
      u.rowsWord.toNat = u.rows := by
  have put := r.run_putSize columns rows
  -- Nothing is put, or the file type octet, or the first two numbers.
  obtain ⟨refuses, none⟩ | ⟨takes, binary, some⟩ | ⟨takes, other, some⟩ :=
    r.withSize?_cases columns rows
  · rw [none] at put
    exact .inl ⟨refuses, none, put⟩
  · have width := Record.columns_of_withSize? some
    have read := read?_attach file { r with fileType := (columns / 2).toUInt8 }
    rw [some] at put
    refine .inr ⟨_, _, takes, some, put, (if_pos binary).symm, width,
      fun other => absurd binary other, read, fun coded => ⟨?_, ?_⟩, Checked.rows_eq _,
      Record.toNat_columnsWord _, Record.toNat_rowsWord _⟩
    · exact (columns_of_read?_attach read (DataType.ofCode_code_iff.mpr coded)).trans width
    · rw [if_neg (not_not.mpr binary), rows_of_read?_attach_binaryText read binary, width]
      split
      · next zero => rw [zero, UInt16.toNat_zero, Nat.mul_zero, Nat.div_zero, Nat.zero_min]
      · rfl
  · have width := Record.columns_of_withSize? some
    have height : Record.rows { r with tinfo1 := columns, tinfo2 := rows } = rows.toNat :=
      if_neg other
    have read := read?_attach file { r with tinfo1 := columns, tinfo2 := rows }
    rw [some] at put
    refine .inr ⟨_, _, takes, some, put, (if_neg other).symm, width, fun _ => height, read,
      fun coded => ⟨?_, ?_⟩, Checked.rows_eq _, Record.toNat_columnsWord _,
      Record.toNat_rowsWord _⟩
    · exact (columns_of_read?_attach read (DataType.ofCode_code_iff.mpr coded)).trans width
    · rw [if_pos other,
        rows_of_read?_attach read (DataType.ofCode_code_iff.mpr coded) other, height]

/-! ## Editing raw screen memory -/

/-- The parts of a file of raw screen memory: whole cells, as many comment lines as are counted,
and a block that has the size of the content, or none. -/
structure RawScreen (content : Bytes) (rows : List Bytes) (block : Bytes) : Prop where
  plain : strip content = content
  cells : content.length % 2 = 0
  countable : content.length + 1 < 2 ^ 32
  lines : ∀ row ∈ rows, row.length = 64
  width : block.length = 128
  mark : block.take 7 = Block.mark
  dataType : Block.octetAt 94 block = 5
  size : Block.numberAt 90 4 block = 0 ∨ Block.numberAt 90 4 block = content.length
  count : (Block.commentCount block).toNat = rows.length

namespace RawScreen

variable {content block : Bytes} {rows : List Bytes}

def comments (rows : List Bytes) : Bytes :=
  if rows = [] then [] else Comments.mark ++ rows.flatten

theorem layOut_eq (content : Bytes) (rows : List Bytes) (block : Bytes) :
    layOut content rows block = (content ++ endOfContent :: comments rows) ++ block := by
  simp [layOut, comments]

theorem length_comments (raw : RawScreen content rows block) :
    (comments rows).length = Comments.extent (Block.commentCount block).toNat := by
  have widths : rows.map List.length = List.replicate rows.length 64 := by
    rw [List.eq_replicate_iff, List.length_map]
    refine ⟨rfl, fun width member => ?_⟩
    obtain ⟨row, here, rfl⟩ := List.mem_map.mp member
    exact raw.lines row here
  rw [raw.count, comments, Comments.extent]
  by_cases none : rows = []
  · simp [none]
  · rw [if_neg none, if_neg (mt List.length_eq_zero_iff.mp none), List.length_append,
      List.length_flatten, widths, List.sum_replicate_nat]
    rfl

theorem endsInRecord_layOut (raw : RawScreen content rows block) :
    endsInRecord (layOut content rows block) := by
  rw [layOut_eq]
  exact endsInRecord_append _ raw.width raw.mark

theorem strip_layOut (raw : RawScreen content rows block) :
    strip (layOut content rows block) = content := by
  rw [strip_of_endsInRecord raw.endsInRecord_layOut]
  exact (congrArg strip (dropRecord_append content raw.width raw.length_comments)).trans raw.plain

/-- The record of such a file. A size that is not stored is worked out from what lies in front of
the comments, so it takes in the end mark. -/
theorem read?_layOut (raw : RawScreen content rows block) :
    ∃ t, read? (layOut content rows block) = some t ∧ t.dataType = .binaryText ∧
      t.fileType = Block.octetAt 95 block ∧
      t.fileSize.toNat = (if Block.numberAt 90 4 block = 0 then content.length + 1
        else content.length) := by
  have last : lastBlock (layOut content rows block) = block := by
    rw [layOut_eq, lastBlock_append _ raw.width]
  have room : (front (layOut content rows block)).length -
      Comments.extent (Block.commentCount block).toNat = content.length + 1 := by
    rw [layOut_eq, front_append _ raw.width, List.length_append, List.length_cons,
      raw.length_comments]
    omega
  refine ⟨_, read?_of_endsInRecord raw.endsInRecord_layOut, ?_, ?_, ?_⟩
  · dsimp only
    rw [last]
    exact congrArg DataType.ofCode raw.dataType
  · dsimp only
    rw [last]
    rfl
  · have stored : (Record.ofBlock block).fileSize.toNat = Block.numberAt 90 4 block :=
      Block.toNat_uint32_numberAt 90 block
    have zero : (Record.ofBlock block).fileSize = 0 ↔ Block.numberAt 90 4 block = 0 := by
      rw [← UInt32.toNat_inj, stored]
      rfl
    have countable := raw.countable
    dsimp only
    rw [last, room, foundSize]
    by_cases none : Block.numberAt 90 4 block = 0
    · rw [if_pos (zero.mpr none), if_pos none, toNat_storedSize]
      omega
    · rw [if_neg (mt zero.mp none), if_neg none, stored, raw.size.resolve_left none]

end RawScreen

/-- Whatever else is edited in the record of raw screen memory, its width and height stay, even
where its size was not stored before. What is stored then is the size without the end mark. -/
theorem size_survives_edit {content block : Bytes} {rows : List Bytes}
    (raw : RawScreen content rows block) :
    ∃ t, read? (layOut content rows block) = some t ∧ t.dataType = .binaryText ∧
      t.fileType = Block.octetAt 95 block ∧
      t.fileSize.toNat = (if Block.numberAt 90 4 block = 0 then content.length + 1
        else content.length) ∧
      ∀ edited : Record, edited.dataType = t.dataType → edited.fileType = t.fileType →
        ∃ u, read? (attach (layOut content rows block) edited) = some u ∧ u.rows = t.rows ∧
          u.columns = t.columns ∧
          Block.numberAt 90 4 (lastBlock (attach (layOut content rows block) edited)) =
            content.length := by
  obtain ⟨t, read, binary, fileType, size⟩ := raw.read?_layOut
  refine ⟨t, read, binary, fileType, size, fun edited sameType sameFileType => ?_⟩
  have again := read?_attach (layOut content rows block) edited
  have whole : min content.length (2 ^ 32 - 1) = content.length := by
    have := raw.countable
    omega
  have width : edited.columns = t.columns := by
    rw [Record.columns, Record.columns, sameType, sameFileType, if_pos binary, if_pos binary]
  -- The end mark may count in the size that was found, but it completes no cell.
  have height : t.fileSize.toNat / (2 * t.columns) = content.length / (2 * t.columns) := by
    rw [size]
    split
    · exact div_succ_of_even raw.cells t.columns
    · rfl
  have sameBinary := sameType.trans binary
  refine ⟨_, again, ?_,
    (columns_of_read?_attach again (DataType.coded_of_binaryText sameBinary)).trans width, ?_⟩
  · rw [rows_of_read?_attach_binaryText again sameBinary, raw.strip_layOut, width,
      rows_of_binaryText binary, height, whole]
  · rw [attach, lastBlock_append_toBytes, (edited.numberAt_block _ _).1, toNat_storedSize,
      raw.strip_layOut, whole]

/-- Fourteen octets in lines of four cells, a comment line, and a block without a size. One octet
more would complete a second line. -/
def unsizedBlock : Bytes :=
  Block.mark ++ List.replicate 87 0x00 ++ [0x05, 0x02] ++ List.replicate 8 0x00 ++ [0x01] ++
    List.replicate 23 0x00

theorem size_survives_edit_unsized :
    RawScreen (List.replicate 14 0xDB) [List.replicate 64 0x20] unsizedBlock ∧
    ∃ t u, read? (layOut (List.replicate 14 0xDB) [List.replicate 64 0x20] unsizedBlock) = some t ∧
      t.fileSize.toNat = 15 ∧ t.rows = 1 ∧ t.columns = 4 ∧
      read? (attach (layOut (List.replicate 14 0xDB) [List.replicate 64 0x20] unsizedBlock)
        { t with title := ['x'], comments := [] }) = some u ∧ u.rows = 1 ∧ u.columns = 4 := by
  have raw : RawScreen (List.replicate 14 0xDB) [List.replicate 64 0x20] unsizedBlock := {
    plain := strip_of_not_endsInRecord (by decide +kernel)
    cells := by decide
    countable := by decide
    lines := by decide
    width := by decide +kernel
    mark := by decide
    dataType := by decide
    size := .inl (by decide)
    count := by decide }
  obtain ⟨t, read, binary, fileType, size, edit⟩ := size_survives_edit raw
  obtain ⟨u, again, rows, columns, _⟩ :=
    edit { t with title := ['x'], comments := [] } rfl rfl
  rw [if_pos (by decide)] at size
  have width : t.columns = 4 := by
    rw [Record.columns, if_pos binary, fileType]
    decide
  have height : t.rows = 1 := by
    rw [rows_of_binaryText binary, size, width]
    decide
  exact ⟨raw, t, u, read, size, height, width, again, rows.trans height, columns.trans width⟩

end File

end Textmode.Sauce
