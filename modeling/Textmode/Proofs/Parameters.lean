import Textmode.Proofs.CutPoint
import Textmode.Proofs.Decimal

/-! The numbers of a rendition sequence in phrases, each of which is one instruction. There is one
way only to part them, and reading by an index that moves through the list comes to the same.
-/

set_option autoImplicit false

namespace Textmode.Ansi

namespace Rendition

/-- The numbers that describe a colour, behind the one that announces it. -/
inductive Describes : List Nat → Color → Prop where
  | indexed {code : Nat} : code ≤ 255 → Describes [5, code] (.indexed (UInt8.ofNat code))
  | mixed {red green blue : Nat} : red ≤ 255 → green ≤ 255 → blue ≤ 255 →
      Describes [2, red, green, blue]
        (.rgb (UInt8.ofNat red) (UInt8.ofNat green) (UInt8.ofNat blue))

/-- Numbers that are one instruction, in front of the others. -/
inductive Phrase (others : List Nat) : List Nat → Instruction → Prop where
  | foreground {tail : List Nat} {color : Color} : Describes tail color →
      Phrase others (38 :: tail) (.color .foreground color)
  | background {tail : List Nat} {color : Color} : Describes tail color →
      Phrase others (48 :: tail) (.color .background color)
  | underline {tail : List Nat} {color : Color} : Describes tail color →
      Phrase others (58 :: tail) (.switch (.other 58))
  | unfinished {n : Nat} : n = 38 ∨ n = 48 ∨ n = 58 →
      (∀ tail color, Describes tail color → ¬ tail <+: others) →
      Phrase others [n] (.switch (.other n))
  | alone {n : Nat} : n ≠ 38 → n ≠ 48 → n ≠ 58 → Phrase others [n] (single n)

/-- A list of numbers in phrases. Each number is in one of them, and their order is kept. -/
inductive Phrased : List Nat → List (List Nat × Instruction) → Prop where
  | nil : Phrased [] []
  | cons {phrase others : List Nat} {i : Instruction} {phrases : List (List Nat × Instruction)} :
      Phrase others phrase i → Phrased others phrases →
      Phrased (phrase ++ others) ((phrase, i) :: phrases)

variable {ns others phrase tail : List Nat} {color : Color} {i : Instruction}
  {phrases : List (List Nat × Instruction)}

/-! ## Phrases -/

theorem announced?_eq_none_iff {n : Nat} :
    announced? n = none ↔ n ≠ 38 ∧ n ≠ 48 ∧ n ≠ 58 := by
  unfold announced?
  grind

theorem extended?_eq_some_iff :
    extended? ns = some (color, others) ↔ ∃ tail, Describes tail color ∧ ns = tail ++ others := by
  constructor
  · intro found
    unfold extended? at found
    split at found
    · next code rest =>
      rw [Option.ite_none_right_eq_some] at found
      obtain ⟨small, same⟩ := found
      cases same
      exact ⟨[5, code], .indexed small, rfl⟩
    · next red green blue rest =>
      rw [Option.ite_none_right_eq_some] at found
      obtain ⟨⟨low, middle, high⟩, same⟩ := found
      cases same
      exact ⟨[2, red, green, blue], .mixed low middle high, rfl⟩
    · cases found
  · rintro ⟨tail, describes, rfl⟩
    cases describes with
    | indexed small => simp [extended?, small]
    | mixed low middle high => simp [extended?, low, middle, high]

theorem extended?_eq_none_iff :
    extended? ns = none ↔ ∀ tail color, Describes tail color → ¬ tail <+: ns := by
  constructor
  · rintro none tail color describes ⟨others, rfl⟩
    rw [extended?_eq_some_iff.mpr ⟨tail, describes, rfl⟩] at none
    cases none
  · intro absent
    cases found : extended? ns with
    | none => rfl
    | some result =>
      obtain ⟨tail, describes, rfl⟩ := extended?_eq_some_iff.mp found
      exact absurd (List.prefix_append tail _) (absent tail _ describes)

theorem read_cons_of_none {n : Nat} (plain : announced? n = none) :
    read (n :: ns) = single n :: read ns := by
  rw [read, plain]

theorem read_cons_of_unfinished {n : Nat} {role : Role} (announced : announced? n = some role)
    (absent : extended? ns = none) : read (n :: ns) = .switch (.other n) :: read ns := by
  rw [read, announced]
  dsimp only
  split
  · rfl
  · next found => cases absent.symm.trans found

theorem read_cons_of_color {n : Nat} {role : Role} (announced : announced? n = some role)
    (found : extended? ns = some (color, others)) :
    read (n :: ns) = choose n role color :: read others := by
  rw [read, announced]
  dsimp only
  split
  · next absent => cases absent.symm.trans found
  · next found' =>
    cases found.symm.trans found'
    rfl

theorem Phrase.cases (here : Phrase others phrase i) : ∃ n tail, phrase = n :: tail ∧
    ((announced? n = none ∧ tail = [] ∧ i = single n) ∨
      ∃ role, announced? n = some role ∧
        ((extended? others = none ∧ tail = [] ∧ i = .switch (.other n)) ∨ ∃ color,
          extended? (tail ++ others) = some (color, others) ∧ i = choose n role color)) := by
  have described {tail : List Nat} {color : Color} (describes : Describes tail color) :
      extended? (tail ++ others) = some (color, others) :=
    extended?_eq_some_iff.mpr ⟨tail, describes, rfl⟩
  cases here with
  | foreground describes =>
    exact ⟨38, _, rfl, .inr ⟨.foreground, rfl, .inr ⟨_, described describes, rfl⟩⟩⟩
  | background describes =>
    exact ⟨48, _, rfl, .inr ⟨.background, rfl, .inr ⟨_, described describes, rfl⟩⟩⟩
  | underline describes =>
    exact ⟨58, _, rfl, .inr ⟨.underline, rfl, .inr ⟨_, described describes, rfl⟩⟩⟩
  | unfinished announces absent =>
    have none := extended?_eq_none_iff.mpr absent
    rcases announces with rfl | rfl | rfl <;>
      exact ⟨_, [], rfl, .inr ⟨_, rfl, .inl ⟨none, rfl, rfl⟩⟩⟩
  | alone foreground background underline =>
    have plain := announced?_eq_none_iff.mpr ⟨foreground, background, underline⟩
    exact ⟨_, [], rfl, .inl ⟨plain, rfl, rfl⟩⟩

theorem Phrase.read_append (here : Phrase others phrase i) :
    read (phrase ++ others) = i :: read others := by
  obtain ⟨n, tail, rfl, ⟨plain, rfl, rfl⟩ | ⟨role, announced, ⟨absent, rfl, rfl⟩ |
    ⟨color, found, rfl⟩⟩⟩ := here.cases
  · exact read_cons_of_none plain
  · exact read_cons_of_unfinished announced absent
  · exact read_cons_of_color announced found

theorem Phrase.unique {phrase' others' : List Nat} {j : Instruction} (here : Phrase others phrase i)
    (there : Phrase others' phrase' j) (same : phrase ++ others = phrase' ++ others') :
    phrase = phrase' ∧ others = others' ∧ i = j := by
  -- The first number is the same, and if it announces a colour, so is what is found behind it.
  obtain ⟨n, tail, rfl, left⟩ := here.cases
  obtain ⟨n', tail', rfl, right⟩ := there.cases
  rw [List.cons_append, List.cons_append] at same
  obtain ⟨rfl, behind⟩ := List.cons_eq_cons.mp same
  obtain ⟨plain, rfl, rfl⟩ | ⟨role, announced, left⟩ := left
  · obtain ⟨_, rfl, rfl⟩ | ⟨_, announced, _⟩ := right
    · exact ⟨rfl, behind, rfl⟩
    · cases plain.symm.trans announced
  obtain ⟨plain, _, _⟩ | ⟨role', announced', right⟩ := right
  · cases plain.symm.trans announced
  cases announced.symm.trans announced'
  obtain ⟨absent, rfl, rfl⟩ | ⟨color, found, rfl⟩ := left
  · obtain ⟨_, rfl, rfl⟩ | ⟨_, found, _⟩ := right
    · exact ⟨rfl, behind, rfl⟩
    · rw [← behind, List.nil_append, absent] at found
      cases found
  · obtain ⟨absent, rfl, _⟩ | ⟨color', found', rfl⟩ := right
    · rw [behind, List.nil_append, absent] at found
      cases found
    · rw [behind] at found
      cases found.symm.trans found'
      exact ⟨by rw [List.append_cancel_right behind], rfl, rfl⟩

theorem Phrase.ne_nil (here : Phrase others phrase i) : phrase ≠ [] := by
  cases here <;> exact List.cons_ne_nil _ _

theorem exists_phrase {n : Nat} (ns : List Nat) :
    ∃ tail others i, ns = tail ++ others ∧ Phrase others (n :: tail) i := by
  cases announced : announced? n with
  | none =>
    obtain ⟨foreground, background, underline⟩ := announced?_eq_none_iff.mp announced
    exact ⟨[], ns, _, rfl, .alone foreground background underline⟩
  | some role =>
    have announces : n = 38 ∨ n = 48 ∨ n = 58 := by
      by_contra! plain
      rw [announced?_eq_none_iff.mpr plain] at announced
      cases announced
    cases found : extended? ns with
    | none => exact ⟨[], ns, _, rfl, .unfinished announces (extended?_eq_none_iff.mp found)⟩
    | some result =>
      obtain ⟨tail, describes, same⟩ := extended?_eq_some_iff.mp found
      rcases announces with rfl | rfl | rfl
      · exact ⟨tail, result.2, _, same, .foreground describes⟩
      · exact ⟨tail, result.2, _, same, .background describes⟩
      · exact ⟨tail, result.2, _, same, .underline describes⟩

theorem Phrased.unique {other : List (List Nat × Instruction)} (left : Phrased ns phrases)
    (right : Phrased ns other) : phrases = other := by
  induction left generalizing other with
  | nil =>
    generalize whole : ([] : List Nat) = ns at right
    cases right with
    | nil => rfl
    | cons here _ => exact absurd (List.append_eq_nil_iff.mp whole.symm).1 here.ne_nil
  | @cons phrase others i phrases here _ ih =>
    generalize whole : phrase ++ others = ns at right
    cases right with
    | nil => exact absurd (List.append_eq_nil_iff.mp whole).1 here.ne_nil
    | cons there right =>
      obtain ⟨rfl, rfl, rfl⟩ := here.unique there whole
      rw [ih right]

theorem Phrased.read_eq (phrased : Phrased ns phrases) : read ns = phrases.map Prod.snd := by
  induction phrased with
  | nil => rw [read, List.map_nil]
  | cons here _ ih => rw [here.read_append, ih, List.map_cons]

theorem Phrased.flatten_eq (phrased : Phrased ns phrases) :
    (phrases.map Prod.fst).flatten = ns := by
  induction phrased with
  | nil => rfl
  | cons _ _ ih => rw [List.map_cons, List.flatten_cons, ih]

theorem exists_phrased (ns : List Nat) : ∃ phrases, Phrased ns phrases := by
  cases ns with
  | nil => exact ⟨[], .nil⟩
  | cons n ns =>
    obtain ⟨tail, others, i, same, here⟩ := exists_phrase (n := n) ns
    obtain ⟨phrases, behind⟩ := exists_phrased others
    rw [same]
    exact ⟨_, .cons here behind⟩
termination_by ns.length
decreasing_by
  rw [same, List.length_cons, List.length_append]
  omega

/-- Numbers that announce nothing are read without a look at what follows. -/
theorem read_append {front : List Nat} (plain : ∀ n ∈ front, n ≠ 38 ∧ n ≠ 48 ∧ n ≠ 58)
    (others : List Nat) : read (front ++ others) = read front ++ read others := by
  induction front with
  | nil => rw [read, List.nil_append, List.nil_append]
  | cons n front ih =>
    have first := announced?_eq_none_iff.mpr (plain n List.mem_cons_self)
    rw [List.cons_append, read_cons_of_none first, read_cons_of_none first, List.cons_append,
      ih fun m member => plain m (List.mem_cons_of_mem n member)]

/-! ## Reading by an index -/

def octetAt? (ns : List Nat) (index : Nat) : Option UInt8 :=
  ns[index]?.bind fun n => if n ≤ 255 then some (UInt8.ofNat n) else none

def colorAt? (ns : List Nat) (index : Nat) : Option (Color × Nat) :=
  match ns[index]? with
  | some 5 => do return (.indexed (← octetAt? ns (index + 1)), index + 2)
  | some 2 => do
    let red ← octetAt? ns (index + 1)
    let green ← octetAt? ns (index + 2)
    let blue ← octetAt? ns (index + 3)
    return (.rgb red green blue, index + 4)
  | _ => none

/-- The instruction at an index, and the index that reading goes on with. -/
def stepAt? (ns : List Nat) (index : Nat) : Option (Instruction × Nat) :=
  ns[index]?.map fun n =>
    match announced? n with
    | none => (single n, index + 1)
    | some role =>
      match colorAt? ns (index + 1) with
      | none => (.switch (.other n), index + 1)
      | some (color, next) => (choose n role color, next)

theorem cons_prefix_drop_iff {n index : Nat} :
    n :: tail <+: ns.drop index ↔ ns[index]? = some n ∧ tail <+: ns.drop (index + 1) := by
  by_cases inside : index < ns.length
  · rw [List.drop_eq_getElem_cons inside, List.cons_prefix_cons, List.getElem?_eq_getElem inside,
      Option.some.injEq, eq_comm]
  · have past := Nat.le_of_not_lt inside
    rw [List.drop_eq_nil_of_le past, List.getElem?_eq_none past]
    simp

theorem octetAt?_eq_some_iff {index : Nat} {b : UInt8} : octetAt? ns index = some b ↔
    ∃ n ≤ 255, ns[index]? = some n ∧ b = UInt8.ofNat n := by
  simp only [octetAt?, Option.bind_eq_some_iff, Option.ite_none_right_eq_some, Option.some.injEq]
  grind

theorem colorAt?_eq_some_iff {index next : Nat} : colorAt? ns index = some (color, next) ↔
    ∃ tail, Describes tail color ∧ tail <+: ns.drop index ∧ next = index + tail.length := by
  constructor
  · intro found
    unfold colorAt? at found
    split at found
    · next first =>
      obtain ⟨b, octet, same⟩ := Option.bind_eq_some_iff.mp found
      obtain ⟨code, small, second, rfl⟩ := octetAt?_eq_some_iff.mp octet
      cases same
      refine ⟨[5, code], .indexed small, ?_, rfl⟩
      simp [cons_prefix_drop_iff, first, second]
    · next first =>
      obtain ⟨r, octet, found⟩ := Option.bind_eq_some_iff.mp found
      obtain ⟨red, low, second, rfl⟩ := octetAt?_eq_some_iff.mp octet
      obtain ⟨g, octet, found⟩ := Option.bind_eq_some_iff.mp found
      obtain ⟨green, middle, third, rfl⟩ := octetAt?_eq_some_iff.mp octet
      obtain ⟨b, octet, same⟩ := Option.bind_eq_some_iff.mp found
      obtain ⟨blue, high, fourth, rfl⟩ := octetAt?_eq_some_iff.mp octet
      cases same
      refine ⟨[2, red, green, blue], .mixed low middle high, ?_, rfl⟩
      simp [cons_prefix_drop_iff, first, second, third, fourth]
    · cases found
  · rintro ⟨tail, describes, front, rfl⟩
    cases describes with
    | indexed small =>
      simp only [cons_prefix_drop_iff] at front
      simp [colorAt?, octetAt?, front, small]
    | mixed low middle high =>
      simp only [cons_prefix_drop_iff] at front
      simp [colorAt?, octetAt?, front, low, middle, high]

theorem colorAt?_eq_none_iff {index : Nat} : colorAt? ns index = none ↔
    ∀ tail color, Describes tail color → ¬ tail <+: ns.drop index := by
  constructor
  · intro none tail color describes front
    rw [colorAt?_eq_some_iff.mpr ⟨tail, describes, front, rfl⟩] at none
    cases none
  · intro absent
    cases found : colorAt? ns index with
    | none => rfl
    | some result =>
      obtain ⟨tail, describes, front, _⟩ := colorAt?_eq_some_iff.mp found
      exact absurd front (absent tail _ describes)

/-- Within the list, a step takes a phrase and stops behind it, which is not behind the end. -/
theorem stepAt?_of_lt {index : Nat} (inside : index < ns.length) :
    ∃ phrase i, stepAt? ns index = some (i, index + phrase.length) ∧
      ns.drop index = phrase ++ ns.drop (index + phrase.length) ∧
      Phrase (ns.drop (index + phrase.length)) phrase i := by
  have cut := List.drop_eq_getElem_cons inside
  obtain ⟨tail, others, i, behind, here⟩ := exists_phrase (n := ns[index]) (ns.drop (index + 1))
  have length : (ns[index] :: tail).length = 1 + tail.length := Nat.add_comm ..
  have rest : ns.drop (index + (1 + tail.length)) = others := by
    rw [← Nat.add_assoc, ← List.drop_drop, behind, List.drop_left]
  refine ⟨ns[index] :: tail, i, ?_, ?_, ?_⟩
  · obtain ⟨n, tail', same, cases⟩ := here.cases
    obtain ⟨rfl, rfl⟩ := List.cons_eq_cons.mp same
    rw [stepAt?, List.getElem?_eq_getElem inside, Option.map_some, length]
    -- A number that stands alone, one that announces in vain, and one that announces a colour.
    obtain ⟨plain, rfl, rfl⟩ | ⟨role, announced, ⟨absent, rfl, rfl⟩ | ⟨color, found, rfl⟩⟩ := cases
    · rw [plain]
      rfl
    · rw [announced]
      have none : colorAt? ns (index + 1) = none := by
        rw [colorAt?_eq_none_iff, behind]
        exact extended?_eq_none_iff.mp absent
      rw [none]
      rfl
    · rw [announced]
      obtain ⟨tail', describes, same⟩ := extended?_eq_some_iff.mp found
      obtain rfl := List.append_cancel_right same
      have some : colorAt? ns (index + 1) = some (color, index + 1 + tail.length) := by
        rw [colorAt?_eq_some_iff, behind]
        exact ⟨tail, describes, List.prefix_append tail others, rfl⟩
      rw [some, Nat.add_assoc]
  · rw [length, rest, cut, behind, List.cons_append]
  · rw [length, rest]
    exact here

theorem lt_of_stepAt? {index next : Nat} (step : stepAt? ns index = some (i, next)) :
    index < next ∧ next ≤ ns.length := by
  have inside : index < ns.length := by
    by_contra outside
    rw [stepAt?, List.getElem?_eq_none (Nat.le_of_not_lt outside)] at step
    cases step
  obtain ⟨phrase, j, taken, cut, here⟩ := stepAt?_of_lt inside
  cases step.symm.trans taken
  have some := List.length_pos_of_ne_nil here.ne_nil
  have whole := congrArg List.length cut
  rw [List.length_append, List.length_drop, List.length_drop] at whole
  omega

def readAt (ns : List Nat) (index : Nat) : List Instruction :=
  match _h : stepAt? ns index with
  | none => []
  | some (i, next) => i :: readAt ns next
termination_by ns.length - index
decreasing_by
  have := lt_of_stepAt? _h
  omega

theorem readAt_eq (ns : List Nat) (index : Nat) : readAt ns index = read (ns.drop index) := by
  rw [readAt]
  split
  · next finished =>
    have past : ns.length ≤ index := by
      by_contra! inside
      obtain ⟨phrase, i, taken, _⟩ := stepAt?_of_lt inside
      cases finished.symm.trans taken
    rw [List.drop_eq_nil_of_le past, read]
  · next i next step =>
    have bounds := lt_of_stepAt? step
    obtain ⟨phrase, j, taken, cut, here⟩ := stepAt?_of_lt (Nat.lt_of_lt_of_le bounds.1 bounds.2)
    cases step.symm.trans taken
    rw [cut, here.read_append, readAt_eq]
termination_by ns.length - index

/-! ## Sequences -/

def sequence (written : Text) : Text := esc :: '[' :: (written ++ ['m'])

def AreNumbers (written : Text) : Prop := ∀ c ∈ written, Decimal.isDigit c ∨ c = ';'

variable {written : Text}

theorem numbers?_eq_none_iff :
    numbers? written = none ↔ ∃ number ∈ written.splitOn ';', 65535 < Decimal.value number := by
  constructor
  · intro none
    by_contra! small
    have some : numbers? written = some ((written.splitOn ';').map Decimal.value) :=
      numbers?_eq_some_iff.mpr ⟨rfl, by simpa [maxNumber] using small⟩
    cases none.symm.trans some
  · rintro ⟨number, member, large⟩
    cases numbers : numbers? written with
    | none => rfl
    | some ns =>
      obtain ⟨rfl, small⟩ := numbers?_eq_some_iff.mp numbers
      exact absurd (small _ (List.mem_map_of_mem member)) (Nat.not_le.mpr large)

theorem readSequence_of_numbers? (digits : AreNumbers written)
    (numbers : numbers? written = some ns) : readSequence (sequence written) = read ns := by
  have found := numbersText?_eq_some_iff.mpr ⟨rfl, digits⟩
  simp only [readSequence, sequence, List.tail_cons, Segment.instructions, found, Option.bind_some,
    numbers]

theorem readSequence_of_numbers?_eq_none (digits : AreNumbers written)
    (large : numbers? written = none) :
    readSequence (sequence written) = [.unhandled (sequence written)] := by
  have found := numbersText?_eq_some_iff.mpr ⟨rfl, digits⟩
  simp only [readSequence, sequence, List.tail_cons, Segment.instructions, found, Option.bind_some,
    large]

theorem instructions_sequence_append (digits : AreNumbers written) (rest : Text) :
    instructions (sequence written ++ rest) =
      readSequence (sequence written) ++ instructions rest := by
  have parameters : ∀ c ∈ written, isParameter c := by
    intro c member
    rcases digits c member with digit | rfl
    · have := Decimal.toNat_of_isDigit digit
      exact codeIn_iff.mpr (by omega)
    · rfl
  have taken : (written ++ 'm' :: rest).takeWhile isParameter = written := by
    rw [List.takeWhile_append_of_pos parameters, List.takeWhile_cons_of_neg (by decide),
      List.append_nil]
  have left : (written ++ 'm' :: rest).dropWhile isParameter = 'm' :: rest := by
    rw [List.dropWhile_append_of_pos parameters, List.dropWhile_cons_of_neg (by decide)]
  have split : splitTail ('[' :: (written ++ 'm' :: rest)) = ('[' :: (written ++ ['m']), rest) := by
    have final : isFinal 'm' := by decide
    simp [splitTail, left, taken, final]
  have whole : sequence written ++ rest = esc :: '[' :: (written ++ 'm' :: rest) := by
    simp [sequence]
  rw [whole, instructions_esc, split, sequence]

/-- Two sequences behind each other are read as one, if no number of the first announces what the
second goes on with. -/
theorem instructions_join {a b : Text} {ms : List Nat} (first : AreNumbers a)
    (second : AreNumbers b) (left : numbers? a = some ms) (right : numbers? b = some ns)
    (plain : ∀ n ∈ ms, n ≠ 38 ∧ n ≠ 48 ∧ n ≠ 58) (front back : Text) :
    instructions (front ++ (sequence (a ++ ';' :: b) ++ back)) =
      instructions (front ++ (sequence a ++ (sequence b ++ back))) := by
  have both : AreNumbers (a ++ ';' :: b) := by
    intro c member
    rcases List.mem_append.mp member with inside | later
    · exact first c inside
    · rcases List.mem_cons.mp later with rfl | inside
      · exact .inr rfl
      · exact second c inside
  have numbers : numbers? (a ++ ';' :: b) = some (ms ++ ns) := by
    obtain ⟨rfl, low⟩ := numbers?_eq_some_iff.mp left
    obtain ⟨rfl, high⟩ := numbers?_eq_some_iff.mp right
    rw [numbers?_eq_some_iff, List.splitOn_append_cons_self, List.map_append]
    exact ⟨rfl, fun n member => (List.mem_append.mp member).elim (low n) (high n)⟩
  have starts (written rest : Text) : (sequence written ++ rest).head? = some esc := rfl
  rw [instructions_append front (starts _ _), instructions_append front (starts _ _),
    instructions_sequence_append both, instructions_sequence_append first,
    instructions_sequence_append second, readSequence_of_numbers? both numbers,
    readSequence_of_numbers? first left, readSequence_of_numbers? second right,
    read_append plain, List.append_assoc]

/-- A rendition sequence is understood unless a number is too large, and then its numbers are read
once each and in order: in phrases, and there is no other way to part them. Reading by an index
takes one phrase at a time and never passes the end of the list. -/
theorem reads_numbers_once :
    (∀ written, AreNumbers written →
      (numbers? written = none ↔
        ∃ number ∈ written.splitOn ';', 65535 < Decimal.value number) ∧
      (numbers? written = none →
        readSequence (sequence written) = [.unhandled (sequence written)]) ∧
      ∀ ns, numbers? written = some ns →
        ns = (written.splitOn ';').map (fun number =>
          if number = [] then 0 else Decimal.value number) ∧
        readSequence (sequence written) = readAt ns 0) ∧
    (∀ ns, ∃ phrases, (∀ other, Phrased ns other ↔ other = phrases) ∧
      (phrases.map Prod.fst).flatten = ns ∧ readAt ns 0 = phrases.map Prod.snd ∧
      read ns = phrases.map Prod.snd) ∧
    (∀ ns index, index < ns.length → ∃ phrase i,
      stepAt? ns index = some (i, index + phrase.length) ∧
      ns.drop index = phrase ++ ns.drop (index + phrase.length) ∧
      Phrase (ns.drop (index + phrase.length)) phrase i ∧
      index < index + phrase.length ∧ index + phrase.length ≤ ns.length) ∧
    (∀ front others, (∀ n ∈ front, n ≠ 38 ∧ n ≠ 48 ∧ n ≠ 58) →
      readAt (front ++ others) 0 = readAt front 0 ++ readAt others 0) ∧
    ∀ a b ms ns, AreNumbers a → AreNumbers b → numbers? a = some ms → numbers? b = some ns →
      (∀ n ∈ ms, n ≠ 38 ∧ n ≠ 48 ∧ n ≠ 58) → ∀ front back,
        toHtml (front ++ (sequence (a ++ ';' :: b) ++ back)) =
          toHtml (front ++ (sequence a ++ (sequence b ++ back))) := by
  have whole (ns : List Nat) : readAt ns 0 = read ns := by rw [readAt_eq, List.drop_zero]
  refine ⟨?_, ?_, ?_, ?_, ?_⟩
  · intro written digits
    refine ⟨numbers?_eq_none_iff, readSequence_of_numbers?_eq_none digits, ?_⟩
    intro ns numbers
    rw [whole, readSequence_of_numbers? digits numbers]
    refine ⟨(numbers?_eq_some_iff.mp numbers).1.trans (List.map_congr_left ?_), rfl⟩
    intro number _
    split
    · next empty => rw [empty, Decimal.value, List.foldl_nil]
    · rfl
  · intro ns
    obtain ⟨phrases, phrased⟩ := exists_phrased ns
    refine ⟨phrases, ?_, phrased.flatten_eq, ?_, phrased.read_eq⟩
    · exact fun other => ⟨fun right => right.unique phrased, fun same => same ▸ phrased⟩
    · rw [whole, phrased.read_eq]
  · intro ns index inside
    obtain ⟨phrase, i, taken, cut, here⟩ := stepAt?_of_lt inside
    obtain ⟨further, bound⟩ := lt_of_stepAt? taken
    exact ⟨phrase, i, taken, cut, here, further, bound⟩
  · intro front others plain
    rw [whole, whole, whole, read_append plain]
  · intro a b ms ns first second left right plain front back
    rw [toHtml, toHtml, instructions_join first second left right plain]

theorem reads_numbers_once_boldGreen :
    toHtml (sequence "1;38;5;2".toList ++ ['x']) =
      toHtml (sequence ['1'] ++ (sequence "38;5;2".toList ++ ['x'])) :=
  reads_numbers_once.2.2.2.2 ['1'] "38;5;2".toList [1] [38, 5, 2] (by simp [AreNumbers]; decide)
    (by simp [AreNumbers]; decide) (by decide) (by decide) (by decide) [] ['x']

end Rendition

end Textmode.Ansi
