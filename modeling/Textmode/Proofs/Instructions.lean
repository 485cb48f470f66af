import Textmode.Ansi.Artwork
import Textmode.Proofs.EscapeSequence
import Mathlib.Data.List.Chain
import Mathlib.Data.List.TakeWhile

/-! Art text read by its parts: each run of text is shown, and each escape sequence is read by
itself. Every text has such parts, and only one choice of them.
-/

set_option autoImplicit false

namespace Textmode.Ansi

variable {t : Text} {f : Factors Char}

theorem eq_esc_iff {c : Char} : c = esc ↔ c.toNat = 0x1B :=
  ⟨fun same => same ▸ rfl, fun code => Char.toNat_inj.mp code⟩

theorem eq_bracket_iff {c : Char} : c = '[' ↔ c.toNat = 0x5B :=
  ⟨fun same => same ▸ rfl, fun code => Char.toNat_inj.mp code⟩

theorem codeIn_iff {low high : Nat} {c : Char} :
    codeIn low high c ↔ low ≤ c.toNat ∧ c.toNat ≤ high := by simp [codeIn]

/-! ## Tails of escape sequences -/

theorem splitTail_cases (t : Text) :
    (splitTail t = ([], t) ∧ ∀ c ∈ t.head?, ¬ isSingle c) ∨
    (∃ c u, t = c :: u ∧ splitTail t = ([c], u) ∧ c ≠ '[' ∧ isSingle c) ∨
    (∃ parameters final u, t = '[' :: (parameters ++ final :: u) ∧
      splitTail t = ('[' :: (parameters ++ [final]), u) ∧
      (∀ c ∈ parameters, isParameter c) ∧ isFinal final) ∨
    (∃ parameters u, t = '[' :: (parameters ++ u) ∧ splitTail t = ('[' :: parameters, u) ∧
      (∀ c ∈ parameters, isParameter c) ∧ ∀ c ∈ u.head?, ¬ isParameter c ∧ ¬ isFinal c) := by
  cases t with
  | nil => exact .inl ⟨rfl, by simp⟩
  | cons c t =>
    by_cases bracket : c = '['
    · subst bracket
      have whole := List.takeWhile_append_dropWhile (p := isParameter) (l := t)
      have inside : ∀ c ∈ t.takeWhile isParameter, isParameter c :=
        fun c member => List.mem_takeWhile_imp member
      have stop := List.head?_dropWhile_not isParameter t
      -- What ends the parameters belongs to the sequence if it is a final character.
      cases behind : t.dropWhile isParameter with
      | nil =>
        rw [behind] at whole
        refine .inr (.inr (.inr ⟨t.takeWhile isParameter, [], by rw [whole], ?_, inside, by simp⟩))
        simp [splitTail, behind]
      | cons next u =>
        rw [behind] at whole stop
        by_cases final : isFinal next
        · refine .inr (.inr (.inl ⟨t.takeWhile isParameter, next, u, by rw [whole], ?_, inside,
            final⟩))
          simp [splitTail, behind, final]
        · refine .inr (.inr (.inr ⟨t.takeWhile isParameter, next :: u, by rw [whole], ?_, inside,
            ?_⟩))
          · simp [splitTail, behind, final]
          · simpa [final] using stop
    · by_cases single : isSingle c
      · exact .inr (.inl ⟨c, t, rfl, by simp [splitTail, bracket, single], bracket, single⟩)
      · exact .inl ⟨by simp [splitTail, bracket, single], by simpa using single⟩

/-- What goes with an escape character is the longest sequence that it can begin. -/
theorem longestEscape_splitTail (t : Text) :
    LongestEscape Char.toNat (esc :: t) (esc :: (splitTail t).1) := by
  have control {parameters : Text} (inside : ∀ c ∈ parameters, isParameter c) :
      ∀ p ∈ parameters.map Char.toNat, 0x20 ≤ p ∧ p ≤ 0x3F := by
    intro p member
    obtain ⟨c, here, rfl⟩ := List.mem_map.mp member
    exact codeIn_iff.mp (inside c here)
  obtain ⟨split, stop⟩ | ⟨c, u, rfl, split, other, single⟩ |
    ⟨parameters, final, u, rfl, split, inside, closing⟩ |
    ⟨parameters, u, rfl, split, inside, stop⟩ := splitTail_cases t
  · rw [split]
    have alone : EscapeSequence ([esc].map Char.toNat) := .lone
    refine longestEscape_of_stop alone ?_
    intro c more front longer
    obtain ⟨_, rfl⟩ := front
    exact stop c rfl (codeIn_iff.mpr (longer.range_of_mem c.toNat (by simp)))
  · rw [split]
    obtain ⟨low, high⟩ := codeIn_iff.mp single
    have pair : EscapeSequence ([esc, c].map Char.toNat) :=
      .pair low high (mt eq_bracket_iff.mpr other)
    refine longestEscape_of_stop pair ?_
    intro d more _ longer
    exact other (eq_bracket_iff.mpr longer.second_eq)
  · rw [split]
    have codes : (esc :: '[' :: (parameters ++ [final])).map Char.toNat =
        0x1B :: 0x5B :: (parameters.map Char.toNat ++ (some final.toNat).toList) := by simp; rfl
    have whole : esc :: '[' :: (parameters ++ final :: u) =
        esc :: '[' :: (parameters ++ [final]) ++ u := by simp
    rw [whole]
    refine longestEscape_of_stop ?_ ?_
    · rw [codes]
      refine .control (control inside) ?_
      intro f member
      obtain rfl := Option.mem_some_iff.mp member
      exact codeIn_iff.mp closing
    · intro d more _ longer
      -- The final character would be a parameter.
      have whole : EscapeSequence (0x1B :: 0x5B ::
          (parameters.map Char.toNat ++ final.toNat :: (d :: more).map Char.toNat)) := by
        simpa [codes] using longer
      have := whole.parameter_of_append (by simp)
      have := codeIn_iff.mp closing
      omega
  · rw [split]
    have codes : (esc :: '[' :: parameters).map Char.toNat =
        0x1B :: 0x5B :: (parameters.map Char.toNat ++ Option.toList none) := by simp; rfl
    have whole : esc :: '[' :: (parameters ++ u) = esc :: '[' :: parameters ++ u := by simp
    rw [whole]
    refine longestEscape_of_stop ?_ ?_
    · rw [codes]
      exact .control (control inside) (by simp)
    · intro d more front longer
      obtain ⟨_, rfl⟩ := front
      obtain ⟨parameter, final⟩ := stop d rfl
      have within := longer.range_of_mem d.toNat (by simp)
      have := mt codeIn_iff.mpr parameter
      have := mt codeIn_iff.mpr final
      omega

/-! ## Renditions -/

namespace Rendition

open Decimal (isDigit)

variable {tail written : Text} {ns : List Nat} {i : Instruction}

theorem numbersText?_eq_some_iff : numbersText? tail = some written ↔
    tail = '[' :: (written ++ ['m']) ∧ ∀ c ∈ written, isDigit c ∨ c = ';' := by
  constructor
  · intro found
    cases tail with
    | nil => cases found
    | cons c t =>
      obtain ⟨⟨rfl, ends, digits⟩, same⟩ := Option.ite_none_right_eq_some.mp found
      obtain rfl := Option.some.inj same
      obtain ⟨written, rfl⟩ := List.getLast?_eq_some_iff.mp ends
      rw [List.dropLast_concat] at digits ⊢
      exact ⟨rfl, by simpa using digits⟩
  · rintro ⟨rfl, digits⟩
    have all : written.all fun c => isDigit c || c = ';' := by
      simpa only [List.all_eq_true, Bool.or_eq_true, decide_eq_true_eq] using digits
    rw [numbersText?, List.getLast?_concat, List.dropLast_concat, if_pos ⟨rfl, rfl, all⟩]

theorem numbers?_eq_some_iff : numbers? written = some ns ↔
    ns = (written.splitOn ';').map Decimal.value ∧ ∀ n ∈ ns, n ≤ maxNumber := by
  unfold numbers?
  rw [Option.ite_none_right_eq_some, List.all_eq_true]
  constructor
  · rintro ⟨small, same⟩
    obtain rfl := Option.some.inj same
    exact ⟨rfl, by simpa using small⟩
  · rintro ⟨rfl, small⟩
    exact ⟨by simpa using small, rfl⟩

theorem read_ne_nil (some : ns ≠ []) : read ns ≠ [] := by
  cases ns with
  | nil => exact absurd rfl some
  | cons n ns =>
    rw [read]
    split
    · simp
    · split <;> simp

theorem single_cases (n : Nat) :
    (∃ color, single n = .color .foreground color ∨ single n = .color .background color) ∨
      ∃ mode, single n = .switch mode := by
  unfold single
  split_ifs <;> simp

theorem read_cases (member : i ∈ read ns) :
    (∃ color, i = .color .foreground color ∨ i = .color .background color) ∨
      ∃ mode, i = .switch mode := by
  fun_induction read ns with
  | case1 => cases member
  | case2 n rest _ ih =>
    rcases List.mem_cons.mp member with rfl | later
    · exact single_cases n
    · exact ih later
  | case3 n rest role _ _ ih =>
    rcases List.mem_cons.mp member with rfl | later
    · exact .inr ⟨_, rfl⟩
    · exact ih later
  | case4 n rest role _ color rest' _ ih =>
    rcases List.mem_cons.mp member with rfl | later
    · cases role <;> simp [choose]
    · exact ih later

end Rendition

/-- What escape sequences are read as. A rendition has numbers between semicolons, none of them
too large; all others stay as they are. -/
inductive ReadAs : Text → List Instruction → Prop where
  | rendition {written : Text} : (∀ c ∈ written, Decimal.isDigit c ∨ c = ';') →
      (∀ number ∈ written.splitOn ';', Decimal.value number ≤ 65535) →
      ReadAs (esc :: '[' :: (written ++ ['m']))
        (Rendition.read ((written.splitOn ';').map Decimal.value))
  | unhandled {sequence : Text} :
      (∀ written, sequence = esc :: '[' :: (written ++ ['m']) →
        (∀ c ∈ written, Decimal.isDigit c ∨ c = ';') →
        ∃ number ∈ written.splitOn ';', 65535 < Decimal.value number) →
      ReadAs sequence [.unhandled sequence]

def readSequence (sequence : Text) : List Instruction :=
  (Segment.escape sequence.tail).instructions

def readRun (run : Text) : List Instruction := if run = [] then [] else [.text run]

theorem readAs_readSequence (tail : Text) : ReadAs (esc :: tail) (readSequence (esc :: tail)) := by
  cases found : (Rendition.numbersText? tail).bind Rendition.numbers? with
  | some ns =>
    simp only [readSequence, Segment.instructions, List.tail_cons, found]
    obtain ⟨written, shape, numbers⟩ := Option.bind_eq_some_iff.mp found
    obtain ⟨rfl, digits⟩ := Rendition.numbersText?_eq_some_iff.mp shape
    obtain ⟨rfl, small⟩ := Rendition.numbers?_eq_some_iff.mp numbers
    exact .rendition digits fun number member => small _ (List.mem_map_of_mem member)
  | none =>
    simp only [readSequence, Segment.instructions, List.tail_cons, found]
    refine .unhandled ?_
    intro written same digits
    obtain rfl := (List.cons.inj same).2
    rw [Rendition.numbersText?_eq_some_iff.mpr ⟨rfl, digits⟩, Option.bind_some] at found
    by_contra! small
    -- With numbers that small it would have been read.
    have numbers : Rendition.numbers? written = some ((written.splitOn ';').map Decimal.value) :=
      Rendition.numbers?_eq_some_iff.mpr ⟨rfl, by simpa [Rendition.maxNumber] using small⟩
    rw [found] at numbers
    cases numbers

theorem ReadAs.ne_nil {sequence : Text} {is : List Instruction} (reading : ReadAs sequence is) :
    is ≠ [] := by
  cases reading with
  | rendition _ _ => exact Rendition.read_ne_nil (by simp)
  | unhandled _ => simp

theorem ReadAs.cases {sequence : Text} {is : List Instruction} (reading : ReadAs sequence is) :
    is = [.unhandled sequence] ∨ ∃ ns, is = Rendition.read ns := by
  cases reading with
  | rendition _ _ => exact .inr ⟨_, rfl⟩
  | unhandled _ => exact .inl rfl

/-! ## Parts of art text -/

theorem instructions_esc (t : Text) : instructions (esc :: t) =
    readSequence (esc :: (splitTail t).1) ++ instructions (splitTail t).2 := by
  simp [instructions, Segment.split, readSequence]

theorem instructions_run_append {run : Text} (free : ∀ c ∈ run, c.toNat ≠ 0x1B)
    (starts : ∀ c ∈ t.head?, c = esc) :
    instructions (run ++ t) = readRun run ++ instructions t := by
  cases run with
  | nil => rfl
  | cons c run =>
    have plain : ∀ d ∈ c :: run, isPlain d := by
      intro d member
      simpa [isPlain, eq_esc_iff] using free d member
    have other : c ≠ esc := by simpa [isPlain] using plain c List.mem_cons_self
    have inside : ∀ d ∈ run, isPlain d := fun d member => plain d (List.mem_cons_of_mem c member)
    -- The run ends where `t` begins.
    have stop : t.takeWhile isPlain = [] ∧ t.dropWhile isPlain = t := by
      cases t with
      | nil => exact ⟨rfl, rfl⟩
      | cons e u =>
        obtain rfl := starts e rfl
        exact ⟨rfl, rfl⟩
    simp [instructions, Segment.split, Segment.instructions, readRun, other,
      List.takeWhile_append_of_pos inside, List.dropWhile_append_of_pos inside, stop]

theorem exists_factored (t : Text) : ∃ f, Factored Char.toNat t f := by
  fun_induction Segment.split t with
  | case1 => exact ⟨⟨[], []⟩, .run (by simp)⟩
  | case2 t ih =>
    obtain ⟨f, parts⟩ := ih
    have whole : esc :: t = esc :: (splitTail t).1 ++ (splitTail t).2 := by
      rw [List.cons_append, splitTail_append]
    refine ⟨⟨[], (esc :: (splitTail t).1, f.first) :: f.rest⟩, .sequence whole (by simp) ?_ parts⟩
    rw [← whole]
    exact longestEscape_splitTail t
  | case3 c t other ih =>
    obtain ⟨f, parts⟩ := ih
    have free : ∀ d ∈ c :: t.takeWhile isPlain, d.toNat ≠ 0x1B := by
      intro d member code
      rcases List.mem_cons.mp member with rfl | inside
      · exact other (eq_esc_iff.mpr code)
      · have := List.mem_takeWhile_imp inside
        simp [isPlain, eq_esc_iff.mpr code] at this
    have whole := parts.run_append free
    rw [List.cons_append, List.takeWhile_append_dropWhile] at whole
    exact ⟨_, whole⟩

def Factors.instructions (f : Factors Char) : List Instruction :=
  f.concat readRun readSequence

theorem Factored.instructions_eq (parts : Factored Char.toNat t f) :
    instructions t = f.instructions := by
  induction parts with
  | @run t free =>
    have := instructions_run_append (t := []) free (by simp)
    simpa [Factors.instructions, Factors.concat, instructions, Segment.split] using this
  | @sequence t run escape behind f whole free long _ ih =>
    obtain ⟨e, tail, rfl, code⟩ := long.exists_cons
    obtain rfl := eq_esc_iff.mpr code
    -- What is split off is the longest sequence, and there is one such only.
    have split : splitTail (tail ++ behind) = (tail, behind) := by
      have same := (longestEscape_splitTail (tail ++ behind)).unique long
      have front := (List.cons.inj same).2
      have both := splitTail_append (tail ++ behind)
      rw [front] at both
      exact Prod.ext front (List.append_cancel_left both)
    rw [whole, instructions_run_append free (by simp), List.cons_append, instructions_esc, split,
      ih]
    simp [Factors.instructions, Factors.concat]

example : instructions "a\x1b[1;38;5;4mb\x1b[2".toList =
    [.text ['a'], .switch .bold, .color .foreground (.indexed 4), .text ['b'],
      .unhandled [esc, '[', '2']] := by cbv

/-! ## What is read -/

def Instruction.isText : Instruction → Bool
  | text _ => true
  | _ => false

theorem readSequence_cases {tail : Text} {i : Instruction}
    (member : i ∈ readSequence (esc :: tail)) :
    (∃ color, i = .color .foreground color ∨ i = .color .background color) ∨
      (∃ mode, i = .switch mode) ∨ i = .unhandled (esc :: tail) := by
  obtain same | ⟨ns, same⟩ := (readAs_readSequence tail).cases
  · exact .inr (.inr (List.mem_singleton.mp (same ▸ member)))
  · rcases Rendition.read_cases (same ▸ member) with colored | switched
    · exact .inl colored
    · exact .inr (.inl switched)

/-- A sequence shows no text. -/
theorem shown_of_mem_readSequence {tail : Text} {i : Instruction}
    (member : i ∈ readSequence (esc :: tail)) : i.shown = [] ∧ i.isText = false := by
  obtain ⟨_, rfl | rfl⟩ | ⟨_, rfl⟩ | rfl := readSequence_cases member <;> exact ⟨rfl, rfl⟩

theorem flatMap_shown_readRun (run : Text) : (readRun run).flatMap Instruction.shown = run := by
  unfold readRun
  split <;> simp [Instruction.shown, *]

theorem Factored.exists_esc (parts : Factored Char.toNat t f) {part : Text × Text}
    (member : part ∈ f.rest) : ∃ tail, part.1 = esc :: tail := by
  obtain ⟨codes, cons⟩ := (parts.isSequence part member).exists_cons
  obtain ⟨e, tail, same, code, _⟩ := List.map_eq_cons_iff.mp cons
  exact ⟨tail, by rw [same, eq_esc_iff.mpr code]⟩

theorem Factored.plainText_eq (parts : Factored Char.toNat t f) :
    plainText t = f.first ++ f.rest.flatMap Prod.snd := by
  rw [plainText, parts.instructions_eq, Factors.instructions, Factors.concat, List.flatMap_append,
    flatMap_shown_readRun, List.flatMap_assoc]
  congr 1
  refine List.flatMap_congr fun part member => ?_
  obtain ⟨tail, same⟩ := parts.exists_esc member
  have silent : (readSequence part.1).flatMap Instruction.shown = [] := by
    rw [List.flatMap_eq_nil_iff, same]
    exact fun i inside => (shown_of_mem_readSequence inside).1
  rw [List.flatMap_append, silent, flatMap_shown_readRun, List.nil_append]

theorem Factored.cases_of_mem (parts : Factored Char.toNat t f) {i : Instruction}
    (member : i ∈ instructions t) :
    (∃ run ∈ f.first :: f.rest.map Prod.snd, run ≠ [] ∧ i = .text run) ∨
      ∃ part ∈ f.rest, i ∈ readSequence part.1 := by
  rw [parts.instructions_eq, Factors.instructions, Factors.concat] at member
  simp only [List.mem_append, List.mem_flatMap, readRun, List.mem_ite_nil_left,
    List.mem_singleton] at member
  obtain first | ⟨part, here, sequence | behind⟩ := member
  · exact .inl ⟨f.first, List.mem_cons_self, first⟩
  · exact .inr ⟨part, here, sequence⟩
  · exact .inl ⟨part.2, List.mem_cons_of_mem _ (List.mem_map_of_mem here), behind⟩

theorem isPaintable_of_mem_instructions {i : Instruction} (member : i ∈ instructions t) :
    i.isPaintable := by
  obtain ⟨f, parts⟩ := exists_factored t
  obtain ⟨run, _, _, rfl⟩ | ⟨part, here, read⟩ := parts.cases_of_mem member
  · rfl
  · obtain ⟨tail, same⟩ := parts.exists_esc here
    obtain ⟨_, rfl | rfl⟩ | ⟨_, rfl⟩ | rfl := readSequence_cases (same ▸ read) <;> rfl

def Spaced (is : List Instruction) : Prop := is.IsChain fun i j => ¬ (i.isText ∧ j.isText)

theorem Spaced.silent_append {is js : List Instruction} (silent : ∀ i ∈ is, i.isText = false)
    (spaced : Spaced js) : Spaced (is ++ js) := by
  induction is with
  | nil => exact spaced
  | cons i is ih =>
    refine List.isChain_cons.mpr ⟨?_, ih fun j later => silent j (List.mem_cons_of_mem i later)⟩
    simp [silent i List.mem_cons_self]

theorem spaced_instructions (parts : Factored Char.toNat t f) : Spaced f.instructions := by
  have sequences : ∀ part ∈ f.rest, ∃ tail, part.1 = esc :: tail := fun _ => parts.exists_esc
  obtain ⟨run, rest⟩ := f
  clear parts
  unfold Factors.instructions Factors.concat
  simp only at sequences ⊢
  induction rest generalizing run with
  | nil => unfold readRun; split <;> simp [Spaced]
  | cons part rest ih =>
    obtain ⟨tail, same⟩ := sequences part List.mem_cons_self
    have behind := ih part.2 fun other later => sequences other (List.mem_cons_of_mem part later)
    have silent : ∀ i ∈ readSequence part.1, i.isText = false := by
      rw [same]
      exact fun i member => (shown_of_mem_readSequence member).2
    have spaced := behind.silent_append silent
    rw [List.flatMap_cons, List.append_assoc]
    unfold readRun
    split
    · exact spaced
    · -- A sequence is read as something, so what follows the run is no text.
      obtain ⟨i, is, cons⟩ : ∃ i is, readSequence part.1 = i :: is :=
        List.exists_cons_of_ne_nil (same ▸ (readAs_readSequence tail).ne_nil)
      refine List.isChain_cons.mpr ⟨?_, spaced⟩
      simp [cons, silent i (cons ▸ List.mem_cons_self)]

/-- Every art text comes apart in one way, and its octets come apart in the same places. It is read
by its parts: each run that is not empty as a text, and each sequence by itself. -/
theorem instructions_of_parts (t : Text) : ∃ f : Factors Char,
    (∀ g, Factored Char.toNat t g ↔ g = f) ∧
    (∀ g, Factored UInt8.toNat (Utf8.encode t) g ↔ g = f.map Utf8.encode) ∧
    f.whole = t ∧ f.rest.length = t.count esc ∧
    instructions t =
      readRun f.first ++ (f.rest.flatMap fun part => readSequence part.1 ++ readRun part.2) ∧
    (∀ part ∈ f.rest, ReadAs part.1 (readSequence part.1) ∧ readSequence part.1 ≠ []) ∧
    plainText t = f.first ++ f.rest.flatMap Prod.snd ∧
    (∀ run, .text run ∈ instructions t → run ≠ [] ∧ esc ∉ run) ∧
    Spaced (instructions t) ∧
    ∀ sequence, .unhandled sequence ∈ instructions t →
      sequence ∈ f.rest.map Prod.fst ∧ sequence.head? = some esc := by
  obtain ⟨f, parts⟩ := exists_factored t
  refine ⟨f, ?_, ?_, parts.whole_eq, ?_, parts.instructions_eq, ?_, parts.plainText_eq, ?_, ?_, ?_⟩
  · exact fun g => ⟨fun other => other.unique parts, fun same => same ▸ parts⟩
  · exact fun g => ⟨fun other => other.unique parts.encode, fun same => same ▸ parts.encode⟩
  · rw [parts.length_rest, List.count_eq_countP]
    exact List.countP_congr fun c _ => by simp [← eq_esc_iff]
  · intro part here
    obtain ⟨tail, same⟩ := parts.exists_esc here
    rw [same]
    exact ⟨readAs_readSequence tail, (readAs_readSequence tail).ne_nil⟩
  -- Only runs are read as text, and only sequences are left unhandled.
  · intro run inside
    obtain ⟨other, here, some, same⟩ | ⟨part, here, read⟩ := parts.cases_of_mem inside
    · obtain rfl := Instruction.text.inj same
      exact ⟨some, fun starts => parts.free run here esc starts rfl⟩
    · obtain ⟨tail, same⟩ := parts.exists_esc here
      cases (shown_of_mem_readSequence (same ▸ read)).2
  · rw [parts.instructions_eq]
    exact spaced_instructions parts
  · intro sequence inside
    obtain ⟨run, _, _, other⟩ | ⟨part, here, read⟩ := parts.cases_of_mem inside
    · cases other
    · obtain ⟨tail, same⟩ := parts.exists_esc here
      obtain ⟨_, other | other⟩ | ⟨_, other⟩ | other := readSequence_cases (same ▸ read)
      · cases other
      · cases other
      · cases other
      · obtain rfl := Instruction.unhandled.inj other
        exact ⟨List.mem_map.mpr ⟨part, here, same⟩, rfl⟩

end Textmode.Ansi
