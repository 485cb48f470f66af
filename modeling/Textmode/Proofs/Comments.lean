import Textmode.Sauce.Comments
import Textmode.Proofs.Bytes
import Textmode.Proofs.Field
import Textmode.Proofs.Lines

/-! Comment lines in a file. What was written is found again behind anything, line by line.
Lines that were read and fit their width are written again as they are.
-/

set_option autoImplicit false

namespace Textmode.Sauce

namespace Comments

@[simp] theorem length_mark : mark.length = 5 := by decide

def stored (count : Nat) (front : Bytes) : List Bytes :=
  let found := front.drop (front.length - extent count)
  if extent count ≤ front.length ∧ found.take mark.length = mark then
    rows lineWidth count (found.drop mark.length)
  else []

theorem length_rows (width count : Nat) (bytes : Bytes) :
    (rows width count bytes).length = count := by
  induction count generalizing bytes with
  | zero => rfl
  | succ count ih => rw [rows, List.length_cons, ih]

theorem length_stored_le (count : Nat) (front : Bytes) : (stored count front).length ≤ count := by
  simp only [stored]
  split
  · exact (length_rows ..).le
  · exact Nat.zero_le count

theorem read_cases (count : Nat) (front : Bytes) :
    ((stored count front).length = count ∧
      read count front = .ok (Text.unlines ((stored count front).map readLine))) ∨
    (stored count front = [] ∧ ∃ notice, read count front = .error notice) := by
  unfold read
  split
  · next zero =>
    subst zero
    have none : stored 0 front = [] :=
      List.length_eq_zero_iff.mp (Nat.le_zero.mp (length_stored_le 0 front))
    exact .inl ⟨by rw [none]; rfl, by rw [none]; rfl⟩
  split
  · next short =>
    exact .inr ⟨if_neg fun present => by omega, _, rfl⟩
  dsimp only
  split
  · next long marked =>
    have there : stored count front =
        rows lineWidth count ((front.drop (front.length - extent count)).drop mark.length) :=
      if_pos ⟨by omega, marked⟩
    exact .inl ⟨by rw [there, length_rows], by rw [there]⟩
  · next unmarked => exact .inr ⟨if_neg fun present => unmarked present.2, _, rfl⟩

/-! ## Written lines -/

theorem rows_flatMap {width : Nat} {put : Text → Bytes} (whole : ∀ line, (put line).length = width)
    (lines : List Text) : rows width lines.length (lines.flatMap put) = lines.map put := by
  induction lines with
  | nil => rfl
  | cons line lines ih =>
    rw [List.flatMap_cons, List.length_cons, rows, ← whole line, List.take_left, List.drop_left,
      whole line, ih, List.map_cons]

theorem stored_block (front : Bytes) (lines : List Text) :
    stored lines.length (front ++ block lines) = lines.map (Text.field 0x20 lineWidth) := by
  have width := length_block lines
  have found : (front ++ block lines).drop ((front ++ block lines).length - extent lines.length) =
      block lines := by
    rw [List.length_append, width, Nat.add_sub_cancel, List.drop_left]
  unfold stored
  rw [found, List.length_append, width]
  cases lines with
  | nil => simp [rows]
  | cons line lines =>
    rw [block, if_neg (List.cons_ne_nil line lines)]
    rw [if_pos ⟨Nat.le_add_left .., List.take_left⟩, List.drop_left]
    exact rows_flatMap (Text.length_field 0x20 lineWidth) (line :: lines)

theorem isFilling_of_isBlank {c : Char} (blank : Text.isBlank c) : isFilling c := by
  rw [isFilling, blank, Bool.true_or]

def kept (line : Text) : Text := dropTrailing isFilling (Text.fit lineWidth line)

theorem readLine_field (line : Text) : readLine (Text.field 0x20 lineWidth line) = kept line := by
  have spaces (count : Nat) :
      List.replicate count (0x20 : UInt8) = Utf8.encode (List.replicate count ' ') := by
    induction count with
    | zero => rfl
    | succ count ih => rw [List.replicate_succ, List.replicate_succ, Utf8.encode_cons, ih]; rfl
  -- The filling is read as text too, and goes with the blanks that the line itself ends in.
  rw [readLine, Text.field, Utf8.text_encode_append, spaces, Utf8.text_encode, kept]
  apply dropTrailing_append_of_all
  intro c member
  rw [List.eq_of_mem_replicate member]
  decide

theorem kept_readLine {octets : Bytes} (fits : Utf8.size (readLine octets) ≤ lineWidth) :
    kept (readLine octets) = readLine octets := by
  rw [kept, Text.fit_eq_self_iff.mpr fits, readLine, dropTrailing_idem]

theorem size_kept_le (line : Text) : Utf8.size (kept line) ≤ lineWidth :=
  (Text.size_le_of_isPrefix (dropTrailing_isPrefix isFilling _)).trans (Text.size_fit_le ..)

theorem not_mem_lineFeed_field {line : Text} (absent : '\n' ∉ line) :
    0x0A ∉ Text.field 0x20 lineWidth line := by
  intro member
  obtain octet | filling := List.mem_append.mp member
  · have inside := Utf8.mem_of_mem_encode octet (by decide)
    exact absent ((Text.fit_isPrefix lineWidth line).subset inside)
  · exact absurd (List.eq_of_mem_replicate filling) (by decide)

theorem not_mem_lineFeed_of_mem_wrapAll {comments line : Text} (member : line ∈ wrapAll comments) :
    '\n' ∉ line := by
  unfold wrapAll at member
  split at member
  · simp at member
  obtain ⟨whole, here, part⟩ := List.mem_flatMap.mp member
  intro feed
  apply Text.not_mem_lineFeed_of_mem_lines here
  unfold wrap at part
  split at part
  · obtain rfl := List.mem_singleton.mp part
    simp at feed
  · exact (dropTrailing_isPrefix Text.isBlank whole).subset (Text.subset_of_mem_pieces part feed)

theorem wrap_of_size_le {line : Text} (fits : Utf8.size line ≤ lineWidth) :
    wrap line = [Text.trimEnd line] := by
  rw [wrap]
  split
  · next blank => rw [blank]
  · next visible =>
    have shorter := Text.size_le_of_isPrefix (dropTrailing_isPrefix Text.isBlank line)
    exact Text.pieces_eq_singleton visible (shorter.trans fits)

theorem wrapAll_of_size_le {comments : Text} (visible : comments ≠ [])
    (fits : ∀ line ∈ Text.lines comments, Utf8.size line ≤ lineWidth) :
    wrapAll comments = (Text.lines comments).map Text.trimEnd := by
  rw [wrapAll, if_neg visible, List.map_eq_flatMap]
  exact List.flatMap_congr fun line member => wrap_of_size_le (fits line member)

/-! ## Lines that were read -/

theorem not_mem_lineFeed_readLine {octets : Bytes} (absent : 0x0A ∉ octets) :
    '\n' ∉ readLine octets := by
  intro member
  have read := (dropTrailing_isPrefix isFilling (Utf8.text octets)).subset member
  exact absent (Utf8.mem_of_mem_text read (by decide))

theorem trimEnd_readLine (octets : Bytes) : Text.trimEnd (readLine octets) = readLine octets :=
  dropTrailing_dropTrailing_of_imp (fun _ => isFilling_of_isBlank) (Utf8.text octets)

theorem wrapAll_unlines_readLine {lines : List Bytes}
    (fits : ∀ line ∈ lines, 0x0A ∉ line ∧ Utf8.size (readLine line) ≤ lineWidth)
    (visible : Text.unlines (lines.map readLine) ≠ []) :
    wrapAll (Text.unlines (lines.map readLine)) = lines.map readLine := by
  have nonempty : lines.map readLine ≠ [] := by
    intro empty
    rw [empty] at visible
    exact visible rfl
  have apart : ∀ line ∈ lines.map readLine, '\n' ∉ line := by
    intro line member
    obtain ⟨octets, here, rfl⟩ := List.mem_map.mp member
    exact not_mem_lineFeed_readLine (fits octets here).1
  have again : Text.lines (Text.unlines (lines.map readLine)) = lines.map readLine :=
    List.splitOn_intercalate _ apart nonempty
  rw [wrapAll_of_size_le visible, again, List.map_map]
  · exact List.map_congr_left fun octets _ => trimEnd_readLine octets
  · rw [again]
    intro line member
    obtain ⟨octets, here, rfl⟩ := List.mem_map.mp member
    exact (fits octets here).2

theorem unlines_eq_nil {lines : List Text} (empty : Text.unlines lines = []) :
    lines = [] ∨ lines = [[]] := by
  match lines with
  | [] => exact .inl rfl
  | [line] => exact .inr (by rw [Text.unlines, List.intercalate_singleton] at empty; rw [empty])
  | line :: next :: lines =>
    rw [Text.unlines, List.intercalate_cons_cons] at empty
    simp at empty

end Comments

theorem Record.commentLines_eq_map_readLine {r : Record} {stored : List Bytes}
    (fits : ∀ line ∈ stored,
      0x0A ∉ line ∧ Utf8.size (Comments.readLine line) ≤ Comments.lineWidth)
    (few : stored.length < 256) (comments : r.comments = Text.unlines (stored.map Comments.readLine))
    (count : r.commentCount = UInt8.ofNat stored.length) :
    r.commentLines = stored.map Comments.readLine := by
  rw [commentLines, comments, count]
  -- Lines that join to nothing are none at all, or one empty line that only the count tells of.
  by_cases visible : Text.unlines (stored.map Comments.readLine) = []
  · obtain none | one := Comments.unlines_eq_nil visible
    · have empty := List.map_eq_nil_iff.mp none
      simp [Comments.wrapAll, empty, Text.unlines]
    · have count : stored.length = 1 := by
        rw [← List.length_map Comments.readLine, one, List.length_singleton]
      simp [one, count, Text.unlines]
  · rw [if_neg fun lone => visible lone.1, Comments.wrapAll_unlines_readLine fits visible,
      List.take_of_length_le]
    rw [List.length_map, Comments.maxLines]
    omega

theorem Record.not_mem_lineFeed_of_mem_commentLines {r : Record} {line : Text}
    (member : line ∈ r.commentLines) : '\n' ∉ line := by
  unfold commentLines at member
  split at member
  · obtain rfl := List.mem_singleton.mp member
    exact List.not_mem_nil
  · exact Comments.not_mem_lineFeed_of_mem_wrapAll (List.mem_of_mem_take member)

end Textmode.Sauce
