import Textmode.Proofs.Markup
import Mathlib.Data.List.Destutter
import Mathlib.Data.List.Infix
import Mathlib.Data.List.Sort

/-! The colours of art. Wherever its instructions have come to, the pen has colours of the palette or
those that it came with, and so has every style in the HTML.
-/

set_option autoImplicit false

namespace Textmode.Ansi

/-! ## Colours that art chooses -/

theorem Instruction.chooses_iff {code : Nat} {i : Instruction} : i.chooses code ↔
    ∃ role chosen, i = .color role (.indexed chosen) ∧ chosen.toNat = code := by
  constructor
  · intro chooses
    cases i with
    | color role color =>
      cases color with
      | indexed chosen => exact ⟨role, chosen, rfl, of_decide_eq_true chooses⟩
      | _ => cases chooses
    | _ => cases chooses
  · rintro ⟨role, chosen, rfl, same⟩
    exact decide_eq_true same

theorem mem_palette_iff {t : Text} {code : Nat} : code ∈ palette t ↔
    code < 8 ∧ ∃ role chosen, .color role (.indexed chosen) ∈ instructions t ∧
      chosen.toNat = code := by
  rw [palette, List.mem_filter, List.mem_range, List.any_eq_true]
  refine and_congr_right fun _ => ?_
  constructor
  · rintro ⟨i, member, chooses⟩
    obtain ⟨role, chosen, rfl, same⟩ := Instruction.chooses_iff.mp chooses
    exact ⟨role, chosen, member, same⟩
  · rintro ⟨role, chosen, member, same⟩
    exact ⟨_, member, Instruction.chooses_iff.mpr ⟨role, chosen, rfl, same⟩⟩

theorem pairwise_palette (t : Text) : (palette t).Pairwise (· < ·) :=
  List.pairwise_lt_range.filter _

def Instruction.standardCode? : Instruction → Option Nat
  | color _ (.indexed code) => if code < 8 then some code.toNat else none
  | _ => none

theorem mem_standardCodes_iff {is : List Instruction} {code : Nat} :
    code ∈ is.filterMap Instruction.standardCode? ↔
      code < 8 ∧ ∃ role chosen, .color role (.indexed chosen) ∈ is ∧ chosen.toNat = code := by
  rw [List.mem_filterMap]
  constructor
  · rintro ⟨i, member, found⟩
    cases i with
    | color role color =>
      cases color with
      | indexed chosen =>
        obtain ⟨low, same⟩ := Option.ite_none_right_eq_some.mp found
        obtain rfl := Option.some.inj same
        exact ⟨UInt8.lt_iff_toNat_lt.mp low, role, chosen, member, rfl⟩
      | _ => cases found
    | _ => cases found
  · rintro ⟨low, role, chosen, member, rfl⟩
    exact ⟨_, member, if_pos (UInt8.lt_iff_toNat_lt.mpr low)⟩

theorem mem_destutter'_iff {l : List Nat} {a b : Nat} :
    b ∈ l.destutter' (· ≠ ·) a ↔ b = a ∨ b ∈ l := by
  induction l generalizing a with
  | nil => simp
  | cons c l ih =>
    rw [List.destutter'_cons]
    split
    · rw [List.mem_cons, ih, List.mem_cons]
    · next same =>
      rw [not_not] at same
      rw [ih, List.mem_cons, same, ← or_assoc, or_self]

theorem mem_destutter_iff {l : List Nat} {b : Nat} : b ∈ l.destutter (· ≠ ·) ↔ b ∈ l := by
  cases l with
  | nil => rfl
  | cons a l => rw [List.destutter_cons', mem_destutter'_iff, List.mem_cons]

theorem pairwise_destutter_mergeSort (l : List Nat) :
    (l.mergeSort.destutter (· ≠ ·)).Pairwise (· < ·) := by
  have sorted := (List.pairwise_mergeSort' (· ≤ ·) l).sublist (List.destutter_sublist (· ≠ ·) _)
  have distinct := List.isChain_destutter (· ≠ ·) l.mergeSort
  rw [← List.isChain_iff_pairwise, List.isChain_iff_forall_rel_of_append_cons_cons]
  intro a b front back whole
  have ordered := List.isChain_iff_forall_rel_of_append_cons_cons.mp sorted.isChain whole
  have other := List.isChain_iff_forall_rel_of_append_cons_cons.mp distinct whole
  exact Nat.lt_of_le_of_ne ordered other

theorem palette_eq (t : Text) : palette t =
    ((instructions t).filterMap Instruction.standardCode?).mergeSort.destutter (· ≠ ·) := by
  refine (pairwise_palette t).eq_of_mem_iff (pairwise_destutter_mergeSort _) fun code => ?_
  rw [mem_destutter_iff, List.mem_mergeSort, mem_standardCodes_iff, mem_palette_iff]

/-! ## Pens -/

/-- The colours of a pen are among these, or those of a new pen. -/
structure Pen.From (codes : List Nat) (pen : Pen) : Prop where
  foreground : pen.foreground.toNat ∈ codes ∨ pen.foreground = 7
  background : pen.background.toNat ∈ codes ∨ pen.background = 0

theorem Pen.from_new (codes : List Nat) : ({} : Pen).From codes := ⟨.inr rfl, .inr rfl⟩

theorem Pen.From.standard {t : Text} {pen : Pen} (known : pen.From (palette t)) :
    pen.Standard := by
  constructor
  · obtain chosen | preset := known.foreground
    · exact UInt8.lt_iff_toNat_lt.mpr (mem_palette_iff.mp chosen).1
    · exact preset ▸ by decide
  · obtain chosen | preset := known.background
    · exact UInt8.lt_iff_toNat_lt.mpr (mem_palette_iff.mp chosen).1
    · exact preset ▸ by decide

theorem Pen.From.apply {t : Text} {i : Instruction} {pen next : Pen} (member : i ∈ instructions t)
    (known : pen.From (palette t)) (follows : pen.apply i = .ok next) :
    next.From (palette t) := by
  obtain ⟨foreground, background⟩ := Pen.colors_of_apply follows
  constructor
  · obtain stays | preset | ⟨low, rfl⟩ := foreground
    · exact stays ▸ known.foreground
    · exact .inr preset
    · exact .inl (mem_palette_iff.mpr ⟨UInt8.lt_iff_toNat_lt.mp low, _, _, member, rfl⟩)
  · obtain stays | preset | ⟨low, rfl⟩ := background
    · exact stays ▸ known.background
    · exact .inr preset
    · exact .inl (mem_palette_iff.mpr ⟨UInt8.lt_iff_toNat_lt.mp low, _, _, member, rfl⟩)

theorem from_palette_of_paints {t : Text} {front : List Instruction} {runs : List Html.Run}
    {last : Pen} (inside : front ⊆ instructions t) (paints : Paints {} front runs last) :
    last.From (palette t) :=
  paints.keeps (fun _ member _ _ => Pen.From.apply (inside member)) (Pen.from_new _)

theorem Property.text_ne_nil (property : Property) : property.text ≠ [] := by
  cases property <;> exact List.cons_ne_nil _ _

theorem styleText_eq_nil_iff {style : List Property} : styleText style = [] ↔ style = [] := by
  cases style with
  | nil => exact ⟨fun _ => rfl, fun _ => rfl⟩
  | cons property style =>
    refine iff_of_false ?_ (List.cons_ne_nil property style)
    cases style with
    | nil => simpa [styleText] using property.text_ne_nil
    | cons next style => simp [styleText, List.intercalate_cons_cons]

theorem Pen.foregroundCode_eq_seven_iff {pen : Pen} :
    pen.foregroundCode = 7 ↔ pen.bold = false ∧ pen.foreground = 7 := by
  rw [← UInt8.toNat_inj, Pen.foregroundCode]
  cases pen.bold with
  | false => simp
  | true => simp

theorem Pen.styleText_eq_nil_iff {pen : Pen} : styleText pen.style = [] ↔
    pen.bold = false ∧ pen.foreground = 7 ∧ pen.background = 0 ∧ pen.underline = false := by
  rw [Ansi.styleText_eq_nil_iff, ← and_assoc, ← Pen.foregroundCode_eq_seven_iff]
  simp [Pen.style]

/-! ## Styles in HTML -/

namespace Html

def styleTag : Text := "<span style='".toList

def styleAt? (t : Text) : Option Text :=
  if styleTag <+: t then some ((t.drop styleTag.length).takeWhile (· ≠ '\'')) else none

def styles (html : Text) : List Text := html.tails.filterMap styleAt?

/-- What a style declares: what stands between its semicolons, without the blanks in front. -/
def declarations (style : Text) : List Text := (style.splitOn ';').map Text.trimStart

theorem styles_cons (c : Char) (t : Text) :
    styles (c :: t) = (styleAt? (c :: t)).toList ++ styles t := by
  rw [styles, List.tails_cons, List.filterMap_cons]
  cases styleAt? (c :: t) <;> rfl

theorem styles_cons_of_not {c : Char} {t : Text} (other : ¬ styleTag <+: c :: t) :
    styles (c :: t) = styles t := by
  rw [styles_cons, styleAt?, if_neg other, Option.toList_none, List.nil_append]

theorem styles_append {t : Text} (free : '<' ∉ t) (rest : Text) :
    styles (t ++ rest) = styles rest := by
  induction t with
  | nil => rfl
  | cons c t ih =>
    rw [List.mem_cons, not_or] at free
    have other : ¬ styleTag <+: c :: (t ++ rest) :=
      fun first => free.1 (List.cons_prefix_cons.mp first).1
    rw [List.cons_append, styles_cons_of_not other, ih free.2]

theorem styles_tag {tail rest : Text} (other : ¬ styleTag <+: '<' :: (tail ++ rest))
    (free : '<' ∉ tail) : styles ('<' :: (tail ++ rest)) = styles rest := by
  rw [styles_cons_of_not other, styles_append free]

theorem styles_blink (rest : Text) :
    styles ("<span class='blink'>".toList ++ rest) = styles rest := by
  have other : ¬ styleTag <+: '<' :: ("span class='blink'>".toList ++ rest) := by
    intro first
    have within : styleTag <+: '<' :: "span class='blink'>".toList :=
      List.prefix_of_prefix_length_le first
        (List.prefix_append ('<' :: "span class='blink'>".toList) rest) (by decide)
    exact absurd within (by decide)
  exact styles_tag other (by decide)

theorem styles_close (rest : Text) : styles ("</span>".toList ++ rest) = styles rest := by
  have other : ¬ styleTag <+: '<' :: ("/span>".toList ++ rest) := by
    intro first
    exact absurd (List.cons_prefix_cons.mp (List.cons_prefix_cons.mp first).2).1 (by decide)
  exact styles_tag other (by decide)

theorem styles_piece (piece : Piece) (rest : Text) :
    styles (piece.toHtml ++ rest) = styles rest := by
  cases piece with
  | still t => exact styles_append (plainMarkup_escape t).not_mem rest
  | blinking t =>
    rw [Piece.toHtml_blinking, List.append_assoc, List.append_assoc, styles_blink,
      styles_append (plainMarkup_escape t).not_mem, styles_close]

theorem styles_pieces (pieces : List Piece) (rest : Text) :
    styles (pieces.flatMap Piece.toHtml ++ rest) = styles rest := by
  induction pieces with
  | nil => rfl
  | cons piece pieces ih => rw [List.flatMap_cons, List.append_assoc, styles_piece, ih]

theorem styleAt?_style {style : Text} (noQuote : '\'' ∉ style) (rest : Text) :
    styleAt? (styleTag ++ (style ++ '\'' :: rest)) = some style := by
  have inside : ∀ c ∈ style, decide (c ≠ '\'') = true :=
    fun c member => decide_eq_true fun quote => noQuote (quote ▸ member)
  rw [styleAt?, if_pos (List.prefix_append _ _), List.drop_left,
    List.takeWhile_append_of_pos inside, List.takeWhile_cons_of_neg (by decide), List.append_nil]

theorem styles_style (style : List Property) (rest : Text) :
    styles (styleTag ++ (styleText style ++ '\'' :: rest)) = styleText style :: styles rest := by
  have noQuote : '\'' ∉ styleText style :=
    not_mem_styleText (by decide) (by decide) (by decide) style
  have noTag : '<' ∉ styleText style :=
    not_mem_styleText (by decide) (by decide) (by decide) style
  have behind : styles ("span style='".toList ++ (styleText style ++ ('\'' :: rest))) =
      styles rest := by
    rw [styles_append (by decide), styles_append noTag]
    exact styles_append (t := ['\'']) (by decide) rest
  have tag : styleTag = '<' :: "span style='".toList := rfl
  have found := styleAt?_style noQuote rest
  rw [tag, List.cons_append] at found ⊢
  rw [styles_cons, found, behind, Option.toList_some, List.singleton_append]

theorem Run.toHtml_append {run : Run} (styled : run.style ≠ []) (rest : Text) :
    run.toHtml ++ rest = styleTag ++ (styleText run.style ++ '\'' :: (['>'] ++
      (run.pieces.flatMap Piece.toHtml ++ ("</span>".toList ++ rest)))) := by
  rw [Run.toHtml_styled styled, List.append_assoc, List.append_assoc, List.append_assoc,
    List.append_assoc]
  rfl

theorem styles_run (run : Run) (rest : Text) : styles (run.toHtml ++ rest) =
    (if run.style = [] then [] else [styleText run.style]) ++ styles rest := by
  by_cases bare : run.style = []
  · rw [Run.toHtml_bare bare, styles_pieces, if_pos bare, List.nil_append]
  · rw [Run.toHtml_append bare, if_neg bare, styles_style, styles_append (by decide), styles_pieces,
      styles_close, List.singleton_append]

theorem styles_runs (runs : List Run) : styles (runs.flatMap Run.toHtml) =
    ((runs.map Run.style).filter (· ≠ [])).map styleText := by
  induction runs with
  | nil => rfl
  | cons run runs ih =>
    rw [List.flatMap_cons, styles_run, ih, List.map_cons, List.filter_cons]
    split <;> simp_all

/-! ## Declarations -/

theorem splitOn_text (property : Property) : property.text.splitOn ';' = [property.text] :=
  List.splitOn_eq_singleton (not_mem_text (by decide) (by decide) property)

theorem splitOn_styleText (property : Property) (style : List Property) :
    (styleText (property :: style)).splitOn ';' =
      property.text :: style.map fun next => ' ' :: next.text := by
  induction style generalizing property with
  | nil => simpa [styleText] using splitOn_text property
  | cons next style ih =>
    have whole : styleText (property :: next :: style) =
        property.text ++ ';' :: (' ' :: styleText (next :: style)) := by
      simp [styleText, List.intercalate_cons_cons]
    rw [whole, List.splitOn_append_cons_self, splitOn_text, List.splitOn_cons_eq_if_modifyHead,
      if_neg (by decide), ih]
    rfl

theorem trimStart_text (property : Property) : Text.trimStart property.text = property.text := by
  cases property with
  | color n => exact List.dropWhile_cons_of_neg (by decide)
  | background n => exact List.dropWhile_cons_of_neg (by decide)
  | underlined => exact List.dropWhile_cons_of_neg (by decide)

theorem declarations_styleText {style : List Property} (some : style ≠ []) :
    declarations (styleText style) = style.map Property.text := by
  obtain ⟨property, style, rfl⟩ := List.exists_cons_of_ne_nil some
  have behind (next : Property) : Text.trimStart (' ' :: next.text) = next.text :=
    trimStart_text next
  rw [declarations, splitOn_styleText, List.map_cons, List.map_map, List.map_cons, trimStart_text]
  exact congrArg (property.text :: ·) (List.map_congr_left fun next _ => behind next)

theorem cases_of_mem_style {codes : List Nat} {pen : Pen} (known : pen.From codes)
    (standard : pen.Standard) {property : Property} (member : property ∈ pen.style) :
    (∃ n, property.text = "color: var(--c".toList ++ Decimal.digits n ++ [')'] ∧ n < 16 ∧
      (n % 8 ∈ codes ∨ n % 8 = 7)) ∨
    (∃ n, property.text = "background-color: var(--c".toList ++ Decimal.digits n ++ [')'] ∧
      n ∈ codes) ∨
    property.text = "text-decoration: underline".toList := by
  have low : pen.foreground.toNat < 8 := UInt8.lt_iff_toNat_lt.mp standard.foreground
  obtain ⟨_, rfl⟩ | ⟨other, rfl⟩ | ⟨_, rfl⟩ := mem_style_iff.mp member
  · have bound : pen.foregroundCode < 16 := by
      unfold Pen.foregroundCode
      split <;> omega
    -- Bold chooses the same colour in the other half of the palette.
    have same : pen.foregroundCode % 8 = pen.foreground.toNat := by
      unfold Pen.foregroundCode
      split <;> omega
    refine .inl ⟨_, rfl, bound, ?_⟩
    rw [same]
    exact known.foreground.imp_right (congrArg UInt8.toNat)
  · exact .inr (.inl ⟨_, rfl, known.background.resolve_right other⟩)
  · exact .inr (.inr rfl)

end Html

/-! ## Art -/

theorem exists_point {t : Text} {front back : List Instruction}
    (here : instructions t = front ++ back) :
    ∃ pen, front.foldlM Pen.apply {} = .ok pen ∧ pen.From (palette t) := by
  obtain ⟨runs, last, paints⟩ := exists_paints_instructions t {}
  obtain ⟨pen, before, _, first, _, _⟩ := (here ▸ paints).split
  have inside : front ⊆ instructions t := here ▸ List.subset_append_left front back
  exact ⟨pen, first.foldlM_eq, from_palette_of_paints inside first⟩

/-- The styles in the HTML of art are those of the pens that its texts are shown with. -/
theorem mem_styles_iff {t : Text} {runs : List Html.Run} {last : Pen}
    (paints : Paints {} (instructions t) runs last) (style : Text) :
    style ∈ Html.styles (runs.flatMap Html.Run.toHtml) ↔
      ∃ front run back pen, instructions t = front ++ .text run :: back ∧
        front.foldlM Pen.apply {} = .ok pen ∧ pen.style ≠ [] ∧ style = styleText pen.style := by
  rw [Html.styles_runs, List.mem_map]
  constructor
  · rintro ⟨properties, member, rfl⟩
    obtain ⟨member, some⟩ := List.mem_filter.mp member
    obtain ⟨run, here, rfl⟩ := List.mem_map.mp member
    obtain ⟨front, u, back, pen, cut, fold, rfl⟩ := paints.mem_runs_iff.mp here
    exact ⟨front, u, back, pen, cut, fold, of_decide_eq_true some, rfl⟩
  · rintro ⟨front, u, back, pen, cut, fold, some, rfl⟩
    have here := paints.mem_runs_iff.mpr ⟨front, u, back, pen, cut, fold, rfl⟩
    exact ⟨pen.style, List.mem_filter.mpr ⟨List.mem_map.mpr ⟨_, here, rfl⟩, decide_eq_true some⟩,
      rfl⟩

/-- Wherever the instructions of art have come to, the pen has colours that the art chooses, or those
of a new pen, and they are what its styles in the HTML name. -/
theorem palette_of_replay (t : Text) :
    (∀ front back, instructions t = front ++ back → ∃ pen : Pen,
      front.foldlM Pen.apply {} = .ok pen ∧ pen.foreground < 8 ∧ pen.background < 8 ∧
      (pen.foreground.toNat ∈ palette t ∨ pen.foreground = 7) ∧
      (pen.background.toNat ∈ palette t ∨ pen.background = 0) ∧
      (pen.foreground + 8).toNat = pen.foreground.toNat + 8 ∧
      (styleText pen.style = [] ↔ pen.bold = false ∧ pen.foreground = 7 ∧
        pen.background = 0 ∧ pen.underline = false)) ∧
    (palette t).Pairwise (· < ·) ∧
    (∀ code, code ∈ palette t ↔ code < 8 ∧
      ∃ role chosen, .color role (.indexed chosen) ∈ instructions t ∧ chosen.toNat = code) ∧
    palette t =
      ((instructions t).filterMap Instruction.standardCode?).mergeSort.destutter (· ≠ ·) ∧
    ∃ html, toHtml t = .ok html ∧
      (∀ style, style ∈ Html.styles html ↔ ∃ front run back pen,
        instructions t = front ++ .text run :: back ∧ front.foldlM Pen.apply {} = .ok pen ∧
        pen.style ≠ [] ∧ style = styleText pen.style) ∧
      ∀ style ∈ Html.styles html, ∀ declared ∈ Html.declarations style,
        (∃ n, declared = "color: var(--c".toList ++ Decimal.digits n ++ [')'] ∧ n < 16 ∧
          (n % 8 ∈ palette t ∨ n % 8 = 7)) ∨
        (∃ n, declared = "background-color: var(--c".toList ++ Decimal.digits n ++ [')'] ∧
          n ∈ palette t) ∨
        declared = "text-decoration: underline".toList := by
  refine ⟨?_, pairwise_palette t, fun _ => mem_palette_iff, palette_eq t, ?_⟩
  · intro front back here
    obtain ⟨pen, fold, known⟩ := exists_point here
    have low : pen.foreground.toNat < 8 := UInt8.lt_iff_toNat_lt.mp known.standard.foreground
    refine ⟨pen, fold, known.standard.foreground, known.standard.background, known.foreground,
      known.background, ?_, Pen.styleText_eq_nil_iff⟩
    rw [UInt8.toNat_add]
    exact Nat.mod_eq_of_lt (by simp; omega)
  · obtain ⟨runs, last, paints⟩ := exists_paints_instructions t {}
    -- Each style is that of the pen in front of a text, and such a pen has known colours.
    refine ⟨_, paints.toHtml_eq, mem_styles_iff paints, ?_⟩
    intro style member declared here
    obtain ⟨front, u, back, pen, cut, fold, some, rfl⟩ := (mem_styles_iff paints style).mp member
    obtain ⟨pen', fold', known⟩ := exists_point cut
    obtain rfl := Except.ok.inj (fold.symm.trans fold')
    rw [Html.declarations_styleText some] at here
    obtain ⟨property, inside, rfl⟩ := List.mem_map.mp here
    exact Html.cases_of_mem_style known known.standard inside

example : palette "\x1b[1;33mx\x1b[48;5;4;91my".toList = [3, 4] := by cbv

end Textmode.Ansi
