import Textmode.Proofs.Utf8
import Mathlib.Data.List.Basic

/-! Escape sequences as a grammar, for anything that stands for numbers: characters by their code
points, octets by themselves. What has them comes apart in one way only, if each sequence is to be
as long as it can be. Octets of a text come apart where its characters do.
-/

set_option autoImplicit false

namespace Textmode.Ansi

/-- The codes of escape sequences, unfinished ones included. -/
inductive EscapeSequence : List Nat → Prop where
  | lone : EscapeSequence [0x1B]
  | pair {second : Nat} : 0x20 ≤ second → second ≤ 0x7E → second ≠ 0x5B →
      EscapeSequence [0x1B, second]
  | control {parameters : List Nat} {final : Option Nat} :
      (∀ p ∈ parameters, 0x20 ≤ p ∧ p ≤ 0x3F) → (∀ f ∈ final, 0x40 ≤ f ∧ f ≤ 0x7E) →
      EscapeSequence (0x1B :: 0x5B :: (parameters ++ final.toList))

namespace EscapeSequence

variable {first second next : Nat} {front rest codes : List Nat}

theorem exists_cons (sequence : EscapeSequence codes) : ∃ rest, codes = 0x1B :: rest := by
  cases sequence <;> exact ⟨_, rfl⟩

theorem range_of_mem (sequence : EscapeSequence (first :: rest)) :
    ∀ c ∈ rest, 0x20 ≤ c ∧ c ≤ 0x7E := by
  intro c member
  cases sequence with
  | lone => cases member
  | pair low high _ =>
    obtain rfl := List.mem_singleton.mp member
    exact ⟨low, high⟩
  | control parameters final =>
    rcases List.mem_cons.mp member with rfl | later
    · decide
    rcases List.mem_append.mp later with inside | last
    · have := parameters c inside
      omega
    · have := final c (Option.mem_toList.mp last)
      omega

theorem le_of_mem (sequence : EscapeSequence codes) {c : Nat} (member : c ∈ codes) : c ≤ 0x7E := by
  obtain ⟨rest, rfl⟩ := sequence.exists_cons
  rcases List.mem_cons.mp member with rfl | inside
  · decide
  · exact (sequence.range_of_mem c inside).2

/-- Only control sequences have more than two characters. -/
theorem second_eq (sequence : EscapeSequence (first :: second :: next :: rest)) :
    second = 0x5B := by
  generalize whole : first :: second :: next :: rest = codes at sequence
  cases sequence with
  | lone => simp at whole
  | pair _ _ _ => simp at whole
  | control _ _ => exact (List.cons.inj (List.cons.inj whole).2).1

theorem parameter_of_append (sequence : EscapeSequence (first :: second :: (front ++ next :: rest)))
    (more : rest ≠ []) : 0x20 ≤ next ∧ next ≤ 0x3F := by
  -- The shape of the list is kept as an equation, as it is none that a constructor has.
  generalize whole : first :: second :: (front ++ next :: rest) = codes at sequence
  cases sequence with
  | lone => simp at whole
  | pair _ _ _ => simp at whole
  | @control parameters final inside _ =>
    simp only [List.cons.injEq] at whole
    obtain ⟨_, _, same⟩ := whole
    apply inside
    -- A final character is the last of the sequence, so `next` is not it.
    cases final with
    | none =>
      rw [Option.toList_none, List.append_nil] at same
      simp [← same]
    | some f =>
      have front := congrArg List.dropLast same
      rw [Option.toList_some, List.dropLast_concat, List.dropLast_append_of_ne_nil (by simp),
        List.dropLast_cons_of_ne_nil more] at front
      simp [← front]

end EscapeSequence

/-! ### Parts of a text -/

section Factors

variable {α : Type} (code : α → Nat)

structure LongestEscape (t sequence : List α) : Prop where
  isPrefix : sequence <+: t
  isSequence : EscapeSequence (sequence.map code)
  longest : ∀ other, other <+: t → EscapeSequence (other.map code) → other.length ≤ sequence.length

/-- A text in parts: what stands in front of the first escape sequence, and each sequence with what
stands behind it. -/
structure Factors (α : Type) where
  first : List α
  rest : List (List α × List α)

/-- A text comes apart into these parts: runs without an escape character, and sequences each of
which is as long as it can be where it stands. -/
inductive Factored : List α → Factors α → Prop where
  | run {t : List α} : (∀ c ∈ t, code c ≠ 0x1B) → Factored t ⟨t, []⟩
  | sequence {t run escape behind : List α} {f : Factors α} : t = run ++ (escape ++ behind) →
      (∀ c ∈ run, code c ≠ 0x1B) → LongestEscape code (escape ++ behind) escape →
      Factored behind f → Factored t ⟨run, (escape, f.first) :: f.rest⟩

variable {code}
variable {t rest sequence : List α} {f g : Factors α}

theorem longestEscape_of_stop (isSequence : EscapeSequence (sequence.map code))
    (stop : ∀ c more, c :: more <+: rest →
      ¬ EscapeSequence (sequence.map code ++ (c :: more).map code)) :
    LongestEscape code (sequence ++ rest) sequence := by
  refine ⟨List.prefix_append sequence rest, isSequence, ?_⟩
  intro other front longer
  by_contra more
  obtain ⟨behind, rfl⟩ :=
    List.prefix_of_prefix_length_le (List.prefix_append sequence rest) front (by omega)
  cases behind with
  | nil => simp at more
  | cons c behind =>
    -- A longer one goes on with the first character behind.
    rw [List.map_append] at longer
    exact stop c behind ((List.prefix_append_right_inj sequence).mp front) longer

theorem LongestEscape.unique {other : List α} (left : LongestEscape code t sequence)
    (right : LongestEscape code t other) : sequence = other := by
  have shorter := right.longest sequence left.isPrefix left.isSequence
  have longer := left.longest other right.isPrefix right.isSequence
  exact (List.prefix_of_prefix_length_le left.isPrefix right.isPrefix shorter).eq_of_length
    (Nat.le_antisymm shorter longer)

theorem LongestEscape.exists_cons (long : LongestEscape code t sequence) :
    ∃ e tail, sequence = e :: tail ∧ code e = 0x1B := by
  obtain ⟨codes, cons⟩ := long.isSequence.exists_cons
  obtain ⟨e, tail, rfl, same, _⟩ := List.map_eq_cons_iff.mp cons
  exact ⟨e, tail, rfl, same⟩

/-- What cannot belong to a sequence behind it leaves it as it is. -/
theorem LongestEscape.append (long : LongestEscape code t sequence)
    (apart : ∀ c ∈ rest.head?, code c < 0x20 ∨ 0x7E < code c) :
    LongestEscape code (t ++ rest) sequence := by
  refine ⟨long.isPrefix.trans (List.prefix_append t rest), long.isSequence, ?_⟩
  intro other front isSequence
  by_cases inside : other.length ≤ t.length
  · have before := List.prefix_of_prefix_length_le front (List.prefix_append t rest) inside
    exact long.longest other before isSequence
  · -- A longer one would go on with the character that cannot belong to it.
    exfalso
    have whole : t <+: other :=
      List.prefix_of_prefix_length_le (List.prefix_append t rest) front (by omega)
    obtain ⟨more, rfl⟩ := whole
    obtain ⟨e, tail, cons, _⟩ := long.exists_cons
    obtain ⟨u, rfl⟩ : ∃ u, t = e :: u := by
      obtain ⟨behind, same⟩ := long.isPrefix
      exact ⟨tail ++ behind, by rw [← same, cons, List.cons_append]⟩
    cases more with
    | nil => simp at inside
    | cons c more =>
      obtain ⟨last, same⟩ := (List.prefix_append_right_inj _).mp front
      have out := apart c (by simp [← same])
      have within := isSequence.range_of_mem (code c) (by simp)
      omega

theorem takeWhile_run {run : List α} {e : α} (free : ∀ c ∈ run, code c ≠ 0x1B)
    (starts : code e = 0x1B) (behind : List α) :
    (run ++ e :: behind).takeWhile (fun c => code c ≠ 0x1B) = run := by
  rw [List.takeWhile_append_of_pos fun c member => decide_eq_true (free c member),
    List.takeWhile_cons_of_neg (by simp [starts]), List.append_nil]

theorem Factored.unique (left : Factored code t f) (right : Factored code t g) : f = g := by
  induction left generalizing g with
  | run free =>
    cases right with
    | run _ => rfl
    | sequence whole _ long _ =>
      obtain ⟨e, tail, rfl, starts⟩ := long.exists_cons
      exact absurd starts (free e (by simp [whole]))
  | @sequence t run escape behind f whole free long _ ih =>
    obtain ⟨e, tail, rfl, starts⟩ := long.exists_cons
    cases right with
    | run none => exact absurd starts (none e (by simp [whole]))
    | @sequence _ other escape behind' g same free' long' right =>
      obtain ⟨e', tail', rfl, starts'⟩ := long'.exists_cons
      -- Both runs reach to the first escape character, and from there both sequences are longest.
      have runs : run = other := by
        rw [← takeWhile_run free starts (tail ++ behind), ← List.cons_append, ← whole, same,
          List.cons_append, takeWhile_run free' starts']
      subst runs
      have behinds : e :: tail ++ behind = e' :: tail' ++ behind' :=
        List.append_cancel_left (whole.symm.trans same)
      rw [← behinds] at long'
      have escapes := long.unique long'
      rw [escapes] at behinds
      obtain rfl := List.append_cancel_left behinds
      rw [escapes, ih right]

theorem Factored.isSequence (parts : Factored code t f) :
    ∀ part ∈ f.rest, EscapeSequence (part.1.map code) := by
  induction parts with
  | run _ => simp
  | sequence _ _ long _ ih =>
    intro part member
    rcases List.mem_cons.mp member with rfl | later
    · exact long.isSequence
    · exact ih part later

theorem Factored.free (parts : Factored code t f) :
    ∀ run ∈ f.first :: f.rest.map Prod.snd, ∀ c ∈ run, code c ≠ 0x1B := by
  induction parts with
  | run free => simpa using free
  | sequence _ free _ _ ih =>
    intro other member
    rcases List.mem_cons.mp member with rfl | later
    · exact free
    · exact ih other (by simpa using later)

def Factors.concat {β : Type} (ofRun ofSequence : List α → List β) (f : Factors α) : List β :=
  ofRun f.first ++ f.rest.flatMap fun part => ofSequence part.1 ++ ofRun part.2

def Factors.whole (f : Factors α) : List α := f.concat id id

theorem Factored.whole_eq (parts : Factored code t f) : f.whole = t := by
  induction parts with
  | run _ => simp [Factors.whole, Factors.concat]
  | sequence whole _ _ _ ih => rw [whole, ← ih]; simp [Factors.whole, Factors.concat]

theorem Factored.length_rest (parts : Factored code t f) :
    f.rest.length = t.countP (code · = 0x1B) := by
  have none {u : List α} (free : ∀ c ∈ u, code c ≠ 0x1B) : u.countP (code · = 0x1B) = 0 := by
    simpa [List.countP_eq_zero] using free
  induction parts with
  | run free => rw [none free]; rfl
  | sequence whole free long _ ih =>
    obtain ⟨e, tail, rfl, starts⟩ := long.exists_cons
    have inside : ∀ c ∈ tail, code c ≠ 0x1B := by
      intro c member
      have := long.isSequence.range_of_mem (code c) (List.mem_map_of_mem member)
      omega
    rw [whole, List.countP_append, List.countP_append, none free, List.countP_cons, none inside,
      List.length_cons, ih]
    simp [starts, Nat.add_comm]

/-! ### Texts behind each other -/

theorem Factored.run_append {run : List α} (free : ∀ c ∈ run, code c ≠ 0x1B)
    (parts : Factored code t f) : Factored code (run ++ t) ⟨run ++ f.first, f.rest⟩ := by
  have both {u : List α} (other : ∀ c ∈ u, code c ≠ 0x1B) : ∀ c ∈ run ++ u, code c ≠ 0x1B := by
    intro c member
    exact (List.mem_append.mp member).elim (free c) (other c)
  cases parts with
  | run other => exact .run (both other)
  | sequence whole other long behind =>
    exact .sequence (by rw [whole, List.append_assoc]) (both other) long behind

/-- Parts behind each other. The last run of the first goes on with the first run of the second. -/
def Factors.append (f g : Factors α) : Factors α :=
  go f.first f.rest
where
  go (run : List α) : List (List α × List α) → Factors α
    | [] => ⟨run ++ g.first, g.rest⟩
    | (escape, next) :: more => ⟨run, (escape, (go next more).first) :: (go next more).rest⟩

theorem Factors.concat_append {β : Type} {ofRun : List α → List β} (ofSequence : List α → List β)
    (joins : ∀ run, ofRun (run ++ g.first) = ofRun run ++ ofRun g.first) :
    (f.append g).concat ofRun ofSequence =
      f.concat ofRun ofSequence ++ g.concat ofRun ofSequence := by
  -- By induction on the sequences. The texts meet in the last run.
  have go (rest : List (List α × List α)) : ∀ run, (append.go g run rest).concat ofRun ofSequence =
      concat ofRun ofSequence ⟨run, rest⟩ ++ g.concat ofRun ofSequence := by
    induction rest with
    | nil => simp [append.go, concat, joins]
    | cons part rest ih =>
      intro run
      have behind := ih part.2
      simp only [concat] at behind
      simp [append.go, concat, behind]
  exact go f.rest f.first

/-- A text that begins with what cannot belong to a sequence comes apart by itself. -/
theorem Factored.append (left : Factored code t f) (right : Factored code rest g)
    (apart : ∀ c ∈ rest.head?, code c < 0x20 ∨ 0x7E < code c) :
    Factored code (t ++ rest) (f.append g) := by
  induction left with
  | run free => exact right.run_append free
  | sequence whole free long _ ih =>
    refine .sequence ?_ free ?_ ih
    -- The sequence is still the longest, as nothing in `rest` goes on with it.
    · rw [whole, List.append_assoc, List.append_assoc]
    · rw [← List.append_assoc]
      exact long.append apart

end Factors

/-! ### Texts and their octets -/

def Factors.map {α β : Type} (g : List α → List β) (f : Factors α) : Factors β :=
  ⟨g f.first, f.rest.map fun part => (g part.1, g part.2)⟩

section Octets

variable {t sequence : Text} {f : Factors Char}

theorem toNat_encode_ne {run : Text} (free : ∀ c ∈ run, c.toNat ≠ 0x1B) :
    ∀ b ∈ Utf8.encode run, b.toNat ≠ 0x1B := by
  intro b member starts
  apply free _ (Utf8.mem_of_mem_encode member (by omega))
  rw [starts]
  rfl

theorem LongestEscape.small (long : LongestEscape Char.toNat t sequence) :
    ∀ c ∈ sequence, c.toNat < 0x80 := by
  intro c member
  have := long.isSequence.le_of_mem (List.mem_map_of_mem member)
  omega

theorem LongestEscape.encode (long : LongestEscape Char.toNat t sequence) :
    LongestEscape UInt8.toNat (Utf8.encode t) (Utf8.encode sequence) := by
  constructor
  · obtain ⟨behind, rfl⟩ := long.isPrefix
    rw [Utf8.encode_append]
    exact List.prefix_append _ _
  · rw [Utf8.map_toNat_encode long.small]
    exact long.isSequence
  · intro other front isSequence
    -- Its octets are below 0x80, so it is made of whole characters.
    have small : ∀ b ∈ other, b.toNat < 0x80 := by
      intro b member
      have := isSequence.le_of_mem (List.mem_map_of_mem member)
      omega
    obtain ⟨s, before, rfl, low⟩ := Utf8.exists_isPrefix_of_small front small
    rw [Utf8.map_toNat_encode low] at isSequence
    have shorter := long.longest s before isSequence
    rwa [Utf8.length_encode, Utf8.length_encode, Utf8.size_eq_length low,
      Utf8.size_eq_length long.small]

/-- The octets of a text come apart where its characters do. -/
theorem Factored.encode (parts : Factored Char.toNat t f) :
    Factored UInt8.toNat (Utf8.encode t) (f.map Utf8.encode) := by
  induction parts with
  | run free => exact .run (toNat_encode_ne free)
  | sequence whole free long _ ih =>
    refine .sequence ?_ (toNat_encode_ne free) ?_ ih
    · rw [whole, Utf8.encode_append, Utf8.encode_append]
    · rw [← Utf8.encode_append]
      exact long.encode

end Octets

/-! ### Letters for letters -/

section Letters

variable {α β : Type} {code : α → Nat} {code' : β → Nat} {letter : α → β}

/-- Letters in place of others leave the codes alone that sequences are made of, and bring none of
these in. -/
def KeepsCodes (code : α → Nat) (code' : β → Nat) (letter : α → β) : Prop :=
  ∀ a, code' (letter a) = code a ∨ 0x7E < code a ∧ 0x7E < code' (letter a)

theorem KeepsCodes.isSequence_iff (keeps : KeepsCodes code code' letter) {sequence : List α} :
    EscapeSequence ((sequence.map letter).map code') ↔ EscapeSequence (sequence.map code) := by
  have same (low : ∀ a ∈ sequence, code a ≤ 0x7E ∨ code' (letter a) ≤ 0x7E) :
      (sequence.map letter).map code' = sequence.map code := by
    rw [List.map_map]
    refine List.map_congr_left fun a member => ?_
    rcases keeps a with kept | ⟨high, high'⟩
    · exact kept
    · have := low a member
      omega
  constructor
  · intro isSequence
    rwa [same fun a member => .inr (isSequence.le_of_mem (by simpa using ⟨a, member, rfl⟩))]
      at isSequence
  · intro isSequence
    rwa [same fun a member => .inl (isSequence.le_of_mem (List.mem_map_of_mem member))]

theorem LongestEscape.of_map (keeps : KeepsCodes code code' letter) {sequence behind : List α}
    (long : LongestEscape code' ((sequence ++ behind).map letter) (sequence.map letter)) :
    LongestEscape code (sequence ++ behind) sequence := by
  refine ⟨List.prefix_append sequence behind, keeps.isSequence_iff.mp long.isSequence, ?_⟩
  intro other front isSequence
  simpa using long.longest _ (front.map letter) (keeps.isSequence_iff.mpr isSequence)

theorem Factored.of_map (keeps : KeepsCodes code code' letter) {u : List β} {f : Factors β}
    (parts : Factored code' u f) {t : List α} (same : t.map letter = u) :
    ∃ g, Factored code t g ∧ g.map (List.map letter) = f := by
  have free {run : List α} (other : ∀ c ∈ run.map letter, code' c ≠ 0x1B) :
      ∀ a ∈ run, code a ≠ 0x1B := by
    intro a member
    have := other (letter a) (List.mem_map_of_mem member)
    have := keeps a
    omega
  induction parts generalizing t with
  | run none =>
    subst same
    exact ⟨⟨t, []⟩, .run (free none), rfl⟩
  | sequence whole none long _ ih =>
    obtain ⟨run, rest, rfl, rfl, split⟩ := List.map_eq_append_iff.mp (same.trans whole)
    obtain ⟨escape, behind, rfl, rfl, rfl⟩ := List.map_eq_append_iff.mp split
    obtain ⟨g, parts, rfl⟩ := ih rfl
    rw [← List.map_append] at long
    exact ⟨⟨run, (escape, g.first) :: g.rest⟩,
      .sequence rfl (free none) (long.of_map keeps) parts, rfl⟩

end Letters

end Textmode.Ansi
