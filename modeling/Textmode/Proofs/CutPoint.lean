import Textmode.Proofs.Lines
import Textmode.Proofs.Painting
import Mathlib.Data.List.Flatten

/-! Places where art text can be cut. Nothing that could still belong to an escape sequence stands
there, so both halves are read as if the other were not there.
-/

set_option autoImplicit false

namespace Textmode.Ansi

variable {t rest : Text}

theorem apart_of_control {first : Char} (control : first.toNat < 0x20)
    (starts : rest.head? = some first) : ∀ c ∈ rest.head?, c.toNat < 0x20 ∨ 0x7E < c.toNat := by
  intro c member
  obtain rfl := Option.some.inj (starts.symm.trans member)
  exact .inl control

/-- An unfinished sequence ends where the next one begins. -/
theorem instructions_append (t : Text) (starts : rest.head? = some esc) :
    instructions (t ++ rest) = instructions t ++ instructions rest := by
  obtain ⟨f, parts⟩ := exists_factored t
  obtain ⟨g, behind⟩ := exists_factored rest
  have whole := parts.append behind (apart_of_control (by decide) starts)
  -- No run goes on behind the first text, as the second has none in front of its first sequence.
  have first : g.first = [] := by
    obtain ⟨u, rfl⟩ := List.head?_eq_some_iff.mp starts
    have free := behind.free g.first List.mem_cons_self
    cases run : g.first with
    | nil => rfl
    | cons c run =>
      have same := behind.whole_eq
      rw [Factors.whole, Factors.concat, id, run, List.cons_append] at same
      exact absurd (eq_esc_iff.mp (List.cons.inj same).1) (free c (by simp [run]))
  rw [whole.instructions_eq, parts.instructions_eq, behind.instructions_eq]
  exact Factors.concat_append readSequence fun run => by simp [first, readRun]

theorem plainText_append (t : Text) (apart : ∀ c ∈ rest.head?, c.toNat < 0x20 ∨ 0x7E < c.toNat) :
    plainText (t ++ rest) = plainText t ++ plainText rest := by
  obtain ⟨f, parts⟩ := exists_factored t
  obtain ⟨g, behind⟩ := exists_factored rest
  rw [(parts.append behind apart).plainText_eq, parts.plainText_eq, behind.plainText_eq]
  have joins : ∀ run, id (run ++ g.first) = id run ++ id g.first := fun _ => rfl
  exact Factors.concat_append (fun _ => []) joins

/-! ## Lines -/

theorem plainText_run_append {run : Text} (free : ∀ c ∈ run, c.toNat ≠ 0x1B) (t : Text) :
    plainText (run ++ t) = run ++ plainText t := by
  obtain ⟨f, parts⟩ := exists_factored t
  rw [(parts.run_append free).plainText_eq, parts.plainText_eq, List.append_assoc]

theorem plainText_sublist (t : Text) : (plainText t).Sublist t := by
  obtain ⟨f, parts⟩ := exists_factored t
  rw [parts.plainText_eq]
  conv_rhs => rw [← parts.whole_eq]
  exact (List.Sublist.refl f.first).append
    (List.Sublist.flatMap_right f.rest fun part _ => List.sublist_append_right part.1 part.2)

theorem plainText_unlines (ls : List Text) :
    plainText (Text.unlines ls) = Text.unlines (ls.map plainText) := by
  induction ls with
  | nil => simp [Text.unlines, plainText, instructions, Segment.split]
  | cons line ls ih =>
    cases ls with
    | nil => simp [Text.unlines]
    | cons next ls =>
      have free : ∀ c ∈ ['\n'], c.toNat ≠ 0x1B := by
        intro c member
        obtain rfl := List.mem_singleton.mp member
        decide
      have feed := plainText_run_append free (Text.unlines (next :: ls))
      rw [List.singleton_append, List.singleton_append] at feed
      rw [Text.unlines_cons_cons, plainText_append line (apart_of_control (by decide) rfl), feed, ih]
      simp only [List.map_cons, Text.unlines_cons_cons]

theorem lines_plainText (t : Text) :
    Text.lines (plainText t) = (Text.lines t).map plainText := by
  have whole : Text.unlines (Text.lines t) = t := List.intercalate_splitOn '\n'
  have apart : ∀ line ∈ (Text.lines t).map plainText, '\n' ∉ line := by
    intro line member feed
    obtain ⟨source, here, rfl⟩ := List.mem_map.mp member
    exact Text.not_mem_lineFeed_of_mem_lines here ((plainText_sublist source).subset feed)
  have some : (Text.lines t).map plainText ≠ [] := by simp [Text.lines, List.splitOn_ne_nil]
  conv_lhs => rw [← whole, plainText_unlines]
  exact List.splitOn_intercalate '\n' apart some

/-! ## Resets -/

def reset : Text := [esc, '[', '0', 'm']

theorem instructions_reset_append (t : Text) :
    instructions (reset ++ t) = .switch .normal :: instructions t := by
  have split : splitTail ('[' :: '0' :: 'm' :: t) = (['[', '0', 'm'], t) := rfl
  have read : readSequence [esc, '[', '0', 'm'] = [.switch .normal] := by
    have numbers : (Rendition.numbersText? ['[', '0', 'm']).bind Rendition.numbers? = some [0] := by
      decide
    simp only [readSequence, Segment.instructions, List.tail_cons, numbers]
    simp [Rendition.read, Rendition.announced?, Rendition.single, Attribute.ofCode, Attribute.named]
  change instructions (esc :: '[' :: '0' :: 'm' :: t) = _
  rw [instructions_esc, split, read, List.singleton_append]

theorem toHtml_append_reset (t rest : Text) : ∃ front back, toHtml t = .ok front ∧
    toHtml rest = .ok back ∧ toHtml (t ++ reset ++ rest) = .ok (front ++ back) := by
  obtain ⟨runs, middle, paints⟩ := exists_paints_instructions t {}
  obtain ⟨more, last, behind⟩ := exists_paints_instructions rest {}
  refine ⟨_, _, paints.toHtml_eq, behind.toHtml_eq, ?_⟩
  -- Whatever pen the first text left, the reset puts a new one in its place.
  have switched : Paints middle (.switch .normal :: instructions rest) more last :=
    .silent rfl rfl behind
  have whole := paints.append switched
  rw [← instructions_reset_append, ← instructions_append t (by rfl), ← List.append_assoc] at whole
  rw [whole.toHtml_eq, List.flatMap_append]

/-- Both halves of a text are read as if the other were not there. -/
theorem reads_apart :
    (∀ t rest : Text, rest.head? = some esc →
      instructions (t ++ rest) = instructions t ++ instructions rest) ∧
    (∀ t rest : Text, ∃ front back, toHtml t = .ok front ∧ toHtml rest = .ok back ∧
      toHtml (t ++ [esc, '[', '0', 'm'] ++ rest) = .ok (front ++ back)) ∧
    (∀ t rest : Text, (∀ c ∈ rest.head?, c.toNat < 0x20 ∨ 0x7E < c.toNat) →
      plainText (t ++ rest) = plainText t ++ plainText rest) ∧
    ∀ t, Text.lines (plainText t) = (Text.lines t).map plainText ∧
      (Text.lines (plainText t)).length = (Text.lines t).length :=
  ⟨fun t _ => instructions_append t, toHtml_append_reset, fun t _ => plainText_append t,
    fun t => ⟨lines_plainText t, by rw [lines_plainText, List.length_map]⟩⟩

end Textmode.Ansi
