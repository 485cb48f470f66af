import Textmode.Proofs.Markup

/-! Text that blinks. A search for blanks or words cuts it from the left without a gap, the words
are marked one by one, and without the marks it is the text as it would be if it did not blink.
-/

set_option autoImplicit false

namespace Textmode.Ansi.Html

/-! ## Searching -/

inductive Pattern where
  | many (kind : Char → Bool)
  | either (first second : Pattern)

namespace Pattern

/-- The lengths of what matches at the start of a text, the preferred ones first. -/
def lengths (t : Text) : Pattern → List Nat
  | many kind => (List.range' 1 (t.takeWhile kind).length).reverse
  | either first second => first.lengths t ++ second.lengths t

/-- The matches in a text, each as far to the left as those before it allow. What stands between
them is passed over. -/
def findAll (p : Pattern) : Text → List Text
  | [] => []
  | c :: t =>
    match p.lengths (c :: t) with
    | [] => p.findAll t
    | n :: _ => (c :: t.take (n - 1)) :: p.findAll (t.drop (n - 1))
termination_by t => t.length
decreasing_by
  · simp
  · simp only [List.length_drop, List.length_cons]
    omega

def blanksOrWord : Pattern := either (many Text.isBlank) (many isWord)

theorem lengths_either (first second : Pattern) (t : Text) :
    (either first second).lengths t = first.lengths t ++ second.lengths t := rfl

theorem lengths_many_of_not {kind : Char → Bool} {c : Char} (other : ¬ kind c) (t : Text) :
    (many kind).lengths (c :: t) = [] := by
  rw [lengths, List.takeWhile_cons_of_neg other]
  rfl

theorem lengths_many {kind : Char → Bool} {c : Char} (same : kind c) (t : Text) :
    ∃ shorter, (many kind).lengths (c :: t) = ((t.takeWhile kind).length + 1) :: shorter := by
  rw [lengths, List.takeWhile_cons_of_pos same, List.length_cons, List.range'_1_concat,
    List.reverse_append, Nat.add_comm 1]
  exact ⟨_, rfl⟩

theorem findAll_cons {p : Pattern} {c : Char} {t : Text} {kind : Char → Bool} {others : List Nat}
    (preferred : p.lengths (c :: t) = ((t.takeWhile kind).length + 1) :: others) :
    p.findAll (c :: t) = (c :: t.takeWhile kind) :: p.findAll (t.dropWhile kind) := by
  have taken : t.take (t.takeWhile kind).length = t.takeWhile kind :=
    (List.prefix_iff_eq_take.mp (List.takeWhile_prefix kind)).symm
  have left : t.drop (t.takeWhile kind).length = t.dropWhile kind := by
    conv => lhs; arg 2; rw [← List.takeWhile_append_dropWhile (p := kind) (l := t)]
    exact List.drop_left
  rw [findAll, preferred]
  dsimp only
  rw [Nat.add_sub_cancel, taken, left]

end Pattern

theorem isWord_of_not_isBlank {c : Char} (visible : ¬ Text.isBlank c) : isWord c := by
  rw [isWord, decide_eq_true_iff]
  rintro rfl
  exact visible (by decide)

theorem findAll_eq (t : Text) : Pattern.blanksOrWord.findAll t = stretches t := by
  fun_induction stretches t with
  | case1 => rw [Pattern.findAll]
  | case2 c t blank ih =>
    obtain ⟨shorter, blanks⟩ := Pattern.lengths_many blank t
    have preferred : Pattern.blanksOrWord.lengths (c :: t) =
        ((t.takeWhile Text.isBlank).length + 1) ::
          (shorter ++ (Pattern.many isWord).lengths (c :: t)) := by
      rw [Pattern.blanksOrWord, Pattern.lengths_either, blanks, List.cons_append]
    rw [Pattern.findAll_cons preferred, ih]
  | case3 c t visible ih =>
    -- No blank is there to prefer, so the word is what matches.
    obtain ⟨shorter, word⟩ := Pattern.lengths_many (isWord_of_not_isBlank visible) t
    have only : Pattern.blanksOrWord.lengths (c :: t) =
        ((t.takeWhile isWord).length + 1) :: shorter := by
      rw [Pattern.blanksOrWord, Pattern.lengths_either, Pattern.lengths_many_of_not visible, word,
        List.nil_append]
    rw [Pattern.findAll_cons only, ih]

/-! ## Pieces that blink -/

def Piece.blinks : Piece → Bool
  | still _ => false
  | blinking _ => true

def startOf (pieces : List Piece) (k : Nat) : Nat := ((pieces.take k).flatMap Piece.shown).length

/-- The pieces of a text that blinks. They are what the search finds, blanks and words in turn, and
each character that can be seen stands in one of the words. A word can hold blanks other than
spaces, only not at its start. -/
structure Marked (t : Text) (pieces : List Piece) : Prop where
  found : pieces.map Piece.shown = Pattern.blanksOrWord.findAll t
  whole : pieces.flatMap Piece.shown = t
  still : ∀ s, .still s ∈ pieces → s ≠ [] ∧ ∀ c ∈ s, Text.isBlank c
  blinking : ∀ s, .blinking s ∈ pieces → (∃ c ∈ s.head?, ¬ Text.isBlank c) ∧ ' ' ∉ s
  inTurn : pieces.IsChain fun piece next => piece.blinks ≠ next.blinks
  once : ∀ (i : Nat) (c : Char), t[i]? = some c → ¬ Text.isBlank c →
    ∃! k, ∃ s, pieces[k]? = some (.blinking s) ∧
      startOf pieces k ≤ i ∧ s[i - startOf pieces k]? = some c

theorem Piece.ofStretch_blanks {c : Char} (blank : Text.isBlank c) (t : Text) :
    ofStretch (c :: t.takeWhile Text.isBlank) = still (c :: t.takeWhile Text.isBlank) := by
  rw [ofStretch, if_pos]
  rw [List.all_cons, blank, List.all_takeWhile, Bool.and_self]

theorem Piece.ofStretch_word {c : Char} (visible : ¬ Text.isBlank c) (t : Text) :
    ofStretch (c :: t) = blinking (c :: t) := by
  rw [ofStretch, if_neg]
  rw [List.all_cons, Bool.and_eq_true]
  exact fun blank => visible blank.1

def piecesOf (t : Text) : List Piece := (stretches t).map Piece.ofStretch

theorem piecesOf_blanks {c : Char} (blank : Text.isBlank c) (t : Text) : piecesOf (c :: t) =
    .still (c :: t.takeWhile Text.isBlank) :: piecesOf (t.dropWhile Text.isBlank) := by
  rw [piecesOf, stretches, if_pos blank, List.map_cons, Piece.ofStretch_blanks blank, ← piecesOf]

theorem piecesOf_word {c : Char} (visible : ¬ Text.isBlank c) (t : Text) : piecesOf (c :: t) =
    .blinking (c :: t.takeWhile isWord) :: piecesOf (t.dropWhile isWord) := by
  rw [piecesOf, stretches, if_neg visible, List.map_cons, Piece.ofStretch_word visible, ← piecesOf]

theorem map_shown_piecesOf (t : Text) : (piecesOf t).map Piece.shown = stretches t := by
  rw [piecesOf, List.map_map]
  exact List.map_id'' Piece.shown_ofStretch (stretches t)

theorem flatMap_shown_piecesOf (t : Text) : (piecesOf t).flatMap Piece.shown = t := by
  rw [List.flatMap_def, map_shown_piecesOf, flatten_stretches]

theorem blinks_head {t : Text} {piece : Piece} (first : piece ∈ (piecesOf t).head?) :
    ∃ c ∈ t.head?, piece.blinks = !Text.isBlank c := by
  cases t with
  | nil =>
    rw [piecesOf, stretches] at first
    cases first
  | cons c t =>
    refine ⟨c, rfl, ?_⟩
    by_cases blank : Text.isBlank c
    · rw [piecesOf_blanks blank] at first
      cases first
      rw [blank]
      rfl
    · rw [piecesOf_word blank] at first
      cases first
      rw [Bool.eq_false_iff.mpr blank]
      rfl

theorem isChain_piecesOf (t : Text) :
    (piecesOf t).IsChain fun piece next => piece.blinks ≠ next.blinks := by
  fun_induction stretches t with
  | case1 =>
    rw [piecesOf, stretches]
    exact .nil
  | case2 c t blank ih =>
    rw [piecesOf_blanks blank]
    refine List.isChain_cons.mpr ⟨?_, ih⟩
    intro next first
    obtain ⟨d, here, blinks⟩ := blinks_head first
    rw [blinks, not_of_mem_head?_dropWhile here]
    exact Bool.false_ne_true
  | case3 c t visible ih =>
    rw [piecesOf_word visible]
    refine List.isChain_cons.mpr ⟨?_, ih⟩
    intro next first
    obtain ⟨d, here, blinks⟩ := blinks_head first
    -- Nothing but a space ends a word, so what follows one are blanks.
    obtain rfl : d = ' ' := by simpa [isWord] using not_of_mem_head?_dropWhile here
    rw [blinks]
    show true ≠ !Text.isBlank ' '
    decide

theorem cases_of_mem_piecesOf {t : Text} {piece : Piece} (member : piece ∈ piecesOf t) :
    (∃ s, piece = .still s ∧ s ≠ [] ∧ ∀ c ∈ s, Text.isBlank c) ∨
      ∃ s, piece = .blinking s ∧ (∃ c ∈ s.head?, ¬ Text.isBlank c) ∧ ' ' ∉ s := by
  fun_induction stretches t with
  | case1 =>
    rw [piecesOf, stretches] at member
    cases member
  | case2 c t blank ih =>
    rw [piecesOf_blanks blank] at member
    obtain rfl | later := List.mem_cons.mp member
    · left
      refine ⟨_, rfl, List.cons_ne_nil _ _, ?_⟩
      intro d inside
      obtain rfl | inside := List.mem_cons.mp inside
      · exact blank
      · exact List.mem_takeWhile_imp inside
    · exact ih later
  | case3 c t visible ih =>
    rw [piecesOf_word visible] at member
    obtain rfl | later := List.mem_cons.mp member
    · right
      refine ⟨_, rfl, ⟨c, rfl, visible⟩, ?_⟩
      intro inside
      obtain rfl | inside := List.mem_cons.mp inside
      · exact visible (by decide)
      · exact absurd (List.mem_takeWhile_imp inside) (by decide)
    · exact ih later

theorem startOf_succ (piece : Piece) (pieces : List Piece) (k : Nat) :
    startOf (piece :: pieces) (k + 1) = piece.shown.length + startOf pieces k := by
  rw [startOf, List.take_succ_cons, List.flatMap_cons, List.length_append, ← startOf]

theorem existsUnique_piece {pieces : List Piece} {i : Nat} {c : Char}
    (here : (pieces.flatMap Piece.shown)[i]? = some c) :
    ∃! k, ∃ piece, pieces[k]? = some piece ∧
      startOf pieces k ≤ i ∧ piece.shown[i - startOf pieces k]? = some c := by
  induction pieces generalizing i with
  | nil => cases here
  | cons piece pieces ih =>
    -- The place is in the first piece, or else so much further to the left in the others.
    rw [List.flatMap_cons, List.getElem?_append] at here
    split at here
    case isTrue inside =>
      refine ⟨0, ⟨piece, rfl, Nat.zero_le i, here⟩, ?_⟩
      rintro (_ | k) ⟨other, _, start, _⟩
      · rfl
      · rw [startOf_succ] at start
        omega
    case isFalse behind =>
      obtain ⟨k, ⟨found, at_k, start, char⟩, unique⟩ := ih here
      refine ⟨k + 1, ⟨found, at_k, ?_, ?_⟩, ?_⟩
      · rw [startOf_succ]
        omega
      · rwa [startOf_succ, ← Nat.sub_sub]
      · rintro (_ | j) ⟨other, at_j, startj, charj⟩
        · obtain rfl := Option.some.inj at_j
          obtain ⟨inside, _⟩ := List.getElem?_eq_some_iff.mp charj
          exact absurd inside behind
        · rw [startOf_succ] at startj charj
          rw [unique j ⟨other, at_j, by omega, by rwa [Nat.sub_sub]⟩]

theorem marked_piecesOf (t : Text) : Marked t (piecesOf t) where
  found := by rw [map_shown_piecesOf, findAll_eq]
  whole := flatMap_shown_piecesOf t
  still := by
    intro s member
    obtain ⟨_, same, blanks⟩ | ⟨_, other, _⟩ := cases_of_mem_piecesOf member
    · cases same
      exact blanks
    · cases other
  blinking := by
    intro s member
    obtain ⟨_, other, _⟩ | ⟨_, same, word⟩ := cases_of_mem_piecesOf member
    · cases other
    · cases same
      exact word
  inTurn := isChain_piecesOf t
  once := by
    intro i c here visible
    rw [← flatMap_shown_piecesOf t] at here
    obtain ⟨k, ⟨piece, at_k, start, char⟩, unique⟩ := existsUnique_piece here
    have member := List.mem_of_getElem? at_k
    -- A character that can be seen is in no piece of blanks.
    obtain ⟨s, rfl, _, blanks⟩ | ⟨s, rfl, _⟩ := cases_of_mem_piecesOf member
    · exact absurd (blanks c (List.mem_of_getElem? char)) visible
    · refine ⟨k, ⟨s, at_k, start, char⟩, ?_⟩
      rintro j ⟨other, at_j, startj, charj⟩
      exact unique j ⟨.blinking other, at_j, startj, charj⟩

/-- The HTML of pieces. All text is escaped, and each word that blinks has tags of its own. -/
inductive Emits : List Piece → Text → Prop where
  | nil : Emits [] []
  | still (s : Text) {pieces : List Piece} {rest : Text} (others : Emits pieces rest) :
      Emits (.still s :: pieces) (escape s ++ rest)
  | blinking (s : Text) {pieces : List Piece} {rest : Text} (others : Emits pieces rest) :
      Emits (.blinking s :: pieces)
        ("<span class='blink'>".toList ++ escape s ++ "</span>".toList ++ rest)

theorem emits_pieces (pieces : List Piece) : Emits pieces (pieces.flatMap Piece.toHtml) := by
  induction pieces with
  | nil => exact .nil
  | cons piece pieces ih =>
    rw [List.flatMap_cons]
    cases piece with
    | still s => exact .still s ih
    | blinking s => exact .blinking s ih

/-! ## Without the marks -/

def blinkTag : Bool → Text
  | false => "<span class='blink'>".toList
  | true => "</span>".toList

/-- What is left without the tags of words that blink: each one that starts a word, and the next one
that ends one. -/
def dropBlink : Text → Text := go false
where
  go (within : Bool) : Text → Text
    | [] => []
    | c :: t =>
      if blinkTag within <+: c :: t then go (!within) (t.drop ((blinkTag within).length - 1))
      else c :: go within t
  termination_by t => t.length
  decreasing_by
    · simp only [List.length_drop, List.length_cons]
      omega
    · simp

theorem exists_blinkTag (within : Bool) : ∃ tail, blinkTag within = '<' :: tail := by
  cases within with
  | false => exact ⟨_, rfl⟩
  | true => exact ⟨_, rfl⟩

theorem Piece.toHtml_tagged (t : Text) :
    (blinking t).toHtml = blinkTag false ++ escape t ++ blinkTag true := rfl

namespace dropBlink

theorem go_tag (within : Bool) (rest : Text) :
    go within (blinkTag within ++ rest) = go (!within) rest := by
  obtain ⟨tail, same⟩ := exists_blinkTag within
  have here : blinkTag within <+: '<' :: (tail ++ rest) := ⟨rest, by rw [same, List.cons_append]⟩
  conv => lhs; rw [same]
  rw [List.cons_append, go, if_pos here, same, List.length_cons, Nat.add_sub_cancel,
    List.drop_left]

theorem go_cons {within : Bool} {c : Char} {t : Text} (other : ¬ blinkTag within <+: c :: t) :
    go within (c :: t) = c :: go within t := by
  rw [go, if_neg other]

theorem go_append {t : Text} (free : '<' ∉ t) (within : Bool) (rest : Text) :
    go within (t ++ rest) = t ++ go within rest := by
  induction t with
  | nil => rfl
  | cons c t ih =>
    rw [List.mem_cons, not_or] at free
    have other : ¬ blinkTag within <+: c :: (t ++ rest) := by
      obtain ⟨tail, same⟩ := exists_blinkTag within
      rw [same, List.cons_prefix_cons]
      exact fun first => free.1 first.1
    rw [List.cons_append, go_cons other, ih free.2, List.cons_append]

theorem go_piece (piece : Piece) (rest : Text) :
    go false (piece.toHtml ++ rest) = escape piece.shown ++ go false rest := by
  cases piece with
  | still t => exact go_append (plainMarkup_escape t).not_mem false rest
  | blinking t =>
    have free : '<' ∉ escape t := (plainMarkup_escape t).not_mem
    rw [Piece.toHtml_tagged, List.append_assoc, List.append_assoc, go_tag, go_append free,
      Bool.not_false, go_tag, Bool.not_true, Piece.shown]

theorem go_other {tail rest : Text} (other : ¬ blinkTag false <+: '<' :: (tail ++ rest))
    (free : '<' ∉ tail) :
    go false ('<' :: tail ++ rest) = '<' :: tail ++ go false rest := by
  rw [List.cons_append, go_cons other, go_append free, List.cons_append]

theorem go_style (style : List Property) (rest : Text) :
    go false ("<span style='".toList ++ styleText style ++ "'>".toList ++ rest) =
      "<span style='".toList ++ styleText style ++ "'>".toList ++ go false rest := by
  have other : ¬ blinkTag false <+:
      '<' :: ("span style='".toList ++ styleText style ++ "'>".toList ++ rest) := by
    intro first
    -- The two tags are the same up to here.
    have behind : "class='blink'>".toList <+:
        "style='".toList ++ (styleText style ++ ("'>".toList ++ rest)) := by
      rw [List.append_assoc, List.append_assoc] at first
      exact (List.prefix_append_right_inj "<span ".toList).mp first
    exact absurd (List.cons_prefix_cons.mp behind).1 (by decide)
  have within : '<' ∉ styleText style :=
    not_mem_styleText (by decide) (by decide) (by decide) style
  have free : '<' ∉ "span style='".toList ++ styleText style ++ "'>".toList :=
    List.not_mem_append (List.not_mem_append (by decide) within) (by decide)
  exact go_other other free

theorem go_close : go false "</span>".toList = "</span>".toList := by
  have other : ¬ blinkTag false <+: '<' :: ("/span>".toList ++ []) := by decide
  have free : '<' ∉ "/span>".toList := by decide
  have closed := go_other other free
  rw [go] at closed
  exact closed

theorem length_go_le (within : Bool) (t : Text) : (go within t).length ≤ t.length := by
  fun_induction go within t with
  | case1 => exact Nat.le_refl 0
  | case2 within c t _ ih =>
    rw [List.length_drop] at ih
    rw [List.length_cons]
    omega
  | case3 within c t _ ih => exact Nat.succ_le_succ ih

end dropBlink

theorem still_pieces (pen : Pen) (t : Text) :
    (Run.of { pen with blink := false } t).pieces.flatMap Piece.toHtml = escape t :=
  List.append_nil (escape t)

theorem dropBlink_run (pen : Pen) (t : Text) : dropBlink (Run.of pen t).toHtml =
    (Run.of { pen with blink := false } t).toHtml := by
  have inner := drop_pieces dropBlink.go_piece (Run.of pen t).pieces
  rw [← Run.shown, shown_of] at inner
  have style : (Run.of { pen with blink := false } t).style = (Run.of pen t).style := rfl
  -- The tags of a style stay, only those of words go.
  by_cases bare : (Run.of pen t).style = []
  · rw [Run.toHtml_bare bare, Run.toHtml_bare (style.trans bare), still_pieces, dropBlink]
    have alone := inner []
    rwa [List.append_nil, dropBlink.go, List.append_nil] at alone
  · rw [Run.toHtml_styled bare, Run.toHtml_styled (style ▸ bare), still_pieces, dropBlink, style,
      List.append_assoc, dropBlink.go_style, inner, dropBlink.go_close,
      List.append_assoc _ (escape t)]

theorem length_dropBlink_lt {t : Text} (marked : blinkTag false <:+: t) :
    (dropBlink t).length < t.length := by
  obtain ⟨front, rest, rfl⟩ := marked
  rw [List.append_assoc, dropBlink]
  induction front with
  | nil =>
    obtain ⟨tail, tag⟩ := exists_blinkTag false
    have rest := dropBlink.length_go_le true rest
    rw [List.nil_append, dropBlink.go_tag, Bool.not_false, tag, List.length_append,
      List.length_cons]
    omega
  | cons c front ih =>
    -- A tag may begin further to the left, and then it is that one that goes.
    by_cases first : blinkTag false <+: c :: (front ++ (blinkTag false ++ rest))
    · have later := dropBlink.length_go_le true
        ((front ++ (blinkTag false ++ rest)).drop ((blinkTag false).length - 1))
      rw [List.length_drop] at later
      rw [List.cons_append, dropBlink.go, if_pos first, Bool.not_false, List.length_cons]
      omega
    · rw [List.cons_append, dropBlink.go_cons first]
      exact Nat.succ_lt_succ ih

theorem unmarked_run {pen : Pen} (still : pen.blink = false) (t : Text) :
    ¬ blinkTag false <:+: (Run.of pen t).toHtml := by
  intro marked
  have shorter := length_dropBlink_lt marked
  have same : { pen with blink := false } = pen := by rw [← still]
  rw [dropBlink_run, same] at shorter
  exact Nat.lt_irrefl _ shorter

/-! ## Art -/

theorem exists_run {front back : List Instruction} {t html : Text}
    (rendered : render (front ++ .text t :: back) = .ok html) :
    ∃ pen before behind, front.foldlM Pen.apply {} = .ok pen ∧ render front = .ok before ∧
      html = before ++ ((Run.of pen t).toHtml ++ behind) := by
  obtain ⟨runs, last, paints, rfl⟩ := exists_paints_of_render rendered
  obtain ⟨pen, before, behind, first, second, rfl⟩ := paints.split
  cases second with
  | text second =>
    exact ⟨pen, before.flatMap Run.toHtml, _, first.foldlM_eq, first.render_eq,
      List.flatMap_append⟩
  | silent other _ _ => cases other

/-- Wherever text stands in art that has its HTML, its words are marked one by one if the pen blinks
there, and the blanks between them never are. The style of the pen, if it has one, goes around all
of it. -/
theorem marks_words {is front back : List Instruction} {t html : Text}
    (rendered : render is = .ok html) (here : is = front ++ .text t :: back) :
    ∃ (pen : Pen) (before inner behind : Text),
      front.foldlM Pen.apply {} = .ok pen ∧ render front = .ok before ∧
      html = before ++ ((Run.of pen t).toHtml ++ behind) ∧
      (Run.of pen t).toHtml = (if pen.style = [] then inner
        else "<span style='".toList ++ styleText pen.style ++ "'>".toList ++ inner ++
          "</span>".toList) ∧
      (pen.blink = false → (Run.of pen t).pieces = [.still t] ∧ inner = escape t ∧
        ¬ "<span class='blink'>".toList <:+: (Run.of pen t).toHtml) ∧
      (pen.blink = true → Marked t (Run.of pen t).pieces ∧ Emits (Run.of pen t).pieces inner) ∧
      dropBlink (Run.of pen t).toHtml = (Run.of { pen with blink := false } t).toHtml := by
  subst here
  obtain ⟨pen, before, behind, followed, first, whole⟩ := exists_run rendered
  refine ⟨pen, before, (Run.of pen t).pieces.flatMap Piece.toHtml, behind, followed, first, whole,
    rfl, ?_, ?_, dropBlink_run pen t⟩
  · intro still
    have pieces : (Run.of pen t).pieces = [.still t] := by
      rw [Run.of, still]
      rfl
    refine ⟨pieces, ?_, unmarked_run still t⟩
    rw [pieces]
    exact List.append_nil (escape t)
  · intro blinks
    have pieces : (Run.of pen t).pieces = piecesOf t := by
      rw [Run.of, blinks]
      rfl
    rw [pieces]
    exact ⟨marked_piecesOf t, emits_pieces (piecesOf t)⟩

/-- A tab does not end a word, as a space does. -/
theorem marks_words_tab :
    render [.switch .blink, .text " a\tb".toList] =
      .ok " <span class='blink'>a\tb</span>".toList ∧
    Marked " a\tb".toList (Run.of { blink := true } " a\tb".toList).pieces := by
  have bare : (Run.of { blink := true } " a\tb".toList).style = [] := by decide
  have cut : stretches " a\tb".toList = [[' '], ['a', '\t', 'b']] := by cbv
  have run : (Run.of { blink := true } " a\tb".toList).toHtml =
      " <span class='blink'>a\tb</span>".toList := by
    rw [Run.toHtml_bare bare, Run.of, if_pos rfl, cut]
    rfl
  have rendered : render [.switch .blink, .text " a\tb".toList] =
      .ok " <span class='blink'>a\tb</span>".toList := by
    rw [← run, ← List.append_nil (Run.toHtml _)]
    rfl
  have here : [.switch .blink, .text " a\tb".toList] =
      [Instruction.switch .blink] ++ .text " a\tb".toList :: [] := rfl
  obtain ⟨pen, _, _, _, followed, _, _, _, _, words, _⟩ := marks_words rendered here
  obtain rfl : { blink := true } = pen := Except.ok.inj followed
  exact ⟨rendered, (words rfl).1⟩

end Textmode.Ansi.Html
