import Textmode.Proofs.Instructions

/-! Instructions followed with a pen. What a text is read as can always be followed to its end, and
what follows a reset does not depend on what was shown before.
-/

set_option autoImplicit false

namespace Textmode.Ansi

open Html (Run)

/-- With the first pen, the instructions come to these runs and leave the last pen. -/
inductive Paints : Pen → List Instruction → List Run → Pen → Prop where
  | done {pen : Pen} : Paints pen [] [] pen
  | text {pen last : Pen} {t : Text} {is : List Instruction} {runs : List Run} :
      Paints pen is runs last → Paints pen (.text t :: is) (Run.of pen t :: runs) last
  | silent {pen next last : Pen} {i : Instruction} {is : List Instruction} {runs : List Run} :
      i.isText = false → pen.apply i = .ok next → Paints next is runs last →
      Paints pen (i :: is) runs last

variable {pen middle last : Pen} {is js : List Instruction} {runs more : List Run}

theorem Paints.runs_eq (paints : Paints pen is runs last) : Html.runs pen is = .ok runs := by
  induction paints with
  | done => rfl
  | text _ ih =>
    simp only [Html.runs, Pen.apply, bind, Except.bind, ih]
    rfl
  | @silent _ _ _ i _ _ other follows _ ih =>
    cases i with
    | text _ => cases other
    | _ =>
      simp only [Html.runs, follows, bind, Except.bind, ih]
      rfl

theorem Paints.append (front : Paints pen is runs middle) (back : Paints middle js more last) :
    Paints pen (is ++ js) (runs ++ more) last := by
  induction front with
  | done => exact back
  | text _ ih => exact .text (ih back)
  | silent other follows _ ih => exact .silent other follows (ih back)

theorem Paints.split {front back : List Instruction}
    (paints : Paints pen (front ++ back) runs last) :
    ∃ middle before behind, Paints pen front before middle ∧
      Paints middle back behind last ∧ runs = before ++ behind := by
  induction front generalizing pen runs with
  | nil => exact ⟨pen, [], runs, .done, paints, rfl⟩
  | cons i front ih =>
    cases paints with
    | text paints =>
      obtain ⟨middle, before, behind, first, second, rfl⟩ := ih paints
      exact ⟨middle, _ :: before, behind, .text first, second, rfl⟩
    | silent other follows paints =>
      obtain ⟨middle, before, behind, first, second, rfl⟩ := ih paints
      exact ⟨middle, before, behind, .silent other follows first, second, rfl⟩

theorem Paints.foldlM_eq (paints : Paints pen is runs last) :
    is.foldlM Pen.apply pen = .ok last := by
  induction paints with
  | done => rfl
  | text _ ih => exact ih
  | silent _ follows _ ih =>
    rw [List.foldlM_cons, follows]
    exact ih

theorem exists_paints_of_runs (found : Html.runs pen is = .ok runs) :
    ∃ last, Paints pen is runs last := by
  induction is generalizing pen runs with
  | nil =>
    obtain rfl := Except.ok.inj found
    exact ⟨pen, .done⟩
  | cons i is ih =>
    rw [Html.runs] at found
    cases follows : pen.apply i with
    | error e => cases follows ▸ found
    | ok next =>
      cases later : Html.runs next is with
      | error e =>
        simp only [follows, later, bind, Except.bind, reduceCtorEq] at found
      | ok more =>
        obtain ⟨last, paints⟩ := ih later
        simp only [follows, later, bind, Except.bind] at found
        -- Nothing but a text adds a run.
        cases shape : i.isText with
        | false =>
          have same : more = runs := by
            cases i with
            | text _ => cases shape
            | _ => exact Except.ok.inj found
          exact ⟨last, .silent shape follows (same ▸ paints)⟩
        | true =>
          cases i with
          | text t =>
            obtain rfl := Except.ok.inj follows
            obtain rfl := Except.ok.inj found
            exact ⟨last, .text paints⟩
          | _ => cases shape

theorem Pen.exists_apply {i : Instruction} (paintable : i.isPaintable) (pen : Pen) :
    ∃ next, pen.apply i = .ok next := by
  cases i with
  | color role _ =>
    cases role with
    | underline => cases paintable
    | _ => exact ⟨_, rfl⟩
  | _ => exact ⟨_, rfl⟩

theorem exists_paints (paintable : ∀ i ∈ is, i.isPaintable) (pen : Pen) :
    ∃ runs last, Paints pen is runs last := by
  induction is generalizing pen with
  | nil => exact ⟨[], pen, .done⟩
  | cons i is ih =>
    have later := ih fun j member => paintable j (List.mem_cons_of_mem i member)
    obtain ⟨next, follows⟩ := Pen.exists_apply (paintable i List.mem_cons_self) pen
    obtain ⟨runs, last, paints⟩ := later next
    cases shape : i.isText with
    | false => exact ⟨runs, last, .silent shape follows paints⟩
    | true =>
      cases i with
      | text t =>
        obtain rfl := Except.ok.inj follows
        exact ⟨_, last, .text paints⟩
      | _ => cases shape

theorem exists_paints_instructions (t : Text) (pen : Pen) :
    ∃ runs last, Paints pen (instructions t) runs last :=
  exists_paints (fun _ => isPaintable_of_mem_instructions) pen

theorem Paints.render_eq (paints : Paints {} is runs last) :
    Html.render is = .ok (runs.flatMap Run.toHtml) := by
  rw [Html.render, paints.runs_eq]
  rfl

theorem exists_paints_of_render {html : Text} (rendered : Html.render is = .ok html) :
    ∃ runs last, Paints {} is runs last ∧ html = runs.flatMap Run.toHtml := by
  rw [Html.render] at rendered
  cases found : Html.runs {} is with
  | error e =>
    rw [found] at rendered
    cases rendered
  | ok runs =>
    rw [found] at rendered
    obtain ⟨last, paints⟩ := exists_paints_of_runs found
    exact ⟨runs, last, paints, (Except.ok.inj rendered).symm⟩

theorem Paints.toHtml_eq {t : Text} (paints : Paints {} (instructions t) runs last) :
    toHtml t = .ok (runs.flatMap Run.toHtml) := paints.render_eq

/-- What every step keeps holds of the last pen. -/
theorem Paints.keeps {property : Pen → Prop}
    (step : ∀ i ∈ is, ∀ pen next : Pen, property pen → pen.apply i = .ok next → property next)
    (paints : Paints pen is runs last) (start : property pen) : property last := by
  induction paints with
  | done => exact start
  | text _ ih => exact ih (fun i later => step i (List.mem_cons_of_mem _ later)) start
  | silent _ follows _ ih =>
    exact ih (fun i later => step i (List.mem_cons_of_mem _ later))
      (step _ List.mem_cons_self _ _ start follows)

theorem Paints.mem_runs_iff (paints : Paints pen is runs last) {run : Run} :
    run ∈ runs ↔ ∃ front t back middle, is = front ++ .text t :: back ∧
      front.foldlM Pen.apply pen = .ok middle ∧ run = Run.of middle t := by
  induction paints with
  | done =>
    refine iff_of_false List.not_mem_nil ?_
    rintro ⟨front, t, back, middle, same, _⟩
    cases front <;> cases same
  | @text pen _ t is runs _ ih =>
    rw [List.mem_cons, ih]
    constructor
    · rintro (rfl | ⟨front, u, back, middle, rfl, fold, rfl⟩)
      · exact ⟨[], t, is, pen, rfl, rfl, rfl⟩
      · exact ⟨.text t :: front, u, back, middle, rfl, fold, rfl⟩
    · rintro ⟨front, u, back, middle, same, fold, rfl⟩
      cases front with
      | nil =>
        cases same
        cases fold
        exact .inl rfl
      | cons i front =>
        cases same
        exact .inr ⟨front, u, back, middle, rfl, fold, rfl⟩
  | @silent pen next _ i is runs other follows _ ih =>
    rw [ih]
    constructor
    · rintro ⟨front, u, back, middle, rfl, fold, rfl⟩
      refine ⟨i :: front, u, back, middle, rfl, ?_, rfl⟩
      rw [List.foldlM_cons, follows]
      exact fold
    · rintro ⟨front, u, back, middle, same, fold, rfl⟩
      cases front with
      | nil =>
        cases same
        cases other
      | cons j front =>
        cases same
        rw [List.foldlM_cons, follows] at fold
        exact ⟨front, u, back, middle, rfl, fold, rfl⟩

/-! ## Colours -/

structure Pen.Standard (pen : Pen) : Prop where
  foreground : pen.foreground < 8
  background : pen.background < 8

theorem Pen.standard_new : ({} : Pen).Standard := ⟨by decide, by decide⟩

theorem Pen.chosen_cases (present preset : UInt8) (color : Color) :
    chosen present preset color = present ∨ chosen present preset color = preset ∨
      (chosen present preset color < 8 ∧ color = .indexed (chosen present preset color)) := by
  cases color with
  | indexed code =>
    rw [chosen]
    split
    · next low => exact .inr (.inr ⟨low, rfl⟩)
    · exact .inl rfl
  | rgb _ _ _ => exact .inl rfl
  | default => exact .inr (.inl rfl)

/-- What a step can do to the colours: each stays, is preset again, or is the standard one that the
instruction chooses. -/
theorem Pen.colors_of_apply {next : Pen} {i : Instruction} (follows : pen.apply i = .ok next) :
    (next.foreground = pen.foreground ∨ next.foreground = 7 ∨
      (next.foreground < 8 ∧ i = .color .foreground (.indexed next.foreground))) ∧
    (next.background = pen.background ∨ next.background = 0 ∨
      (next.background < 8 ∧ i = .color .background (.indexed next.background))) := by
  cases i with
  | text _ =>
    obtain rfl := Except.ok.inj follows
    exact ⟨.inl rfl, .inl rfl⟩
  | unhandled _ =>
    obtain rfl := Except.ok.inj follows
    exact ⟨.inl rfl, .inl rfl⟩
  | switch mode =>
    -- Attributes leave the colours, or put those of a new pen.
    obtain rfl := Except.ok.inj follows
    cases mode with
    | normal => exact ⟨.inr (.inl rfl), .inr (.inl rfl)⟩
    | _ => exact ⟨.inl rfl, .inl rfl⟩
  | color role color =>
    cases role with
    | foreground =>
      obtain rfl := Except.ok.inj follows
      refine ⟨?_, .inl rfl⟩
      obtain stays | preset | ⟨low, same⟩ := chosen_cases pen.foreground 7 color
      · exact .inl stays
      · exact .inr (.inl preset)
      · exact .inr (.inr ⟨low, congrArg (Instruction.color .foreground) same⟩)
    | background =>
      obtain rfl := Except.ok.inj follows
      refine ⟨.inl rfl, ?_⟩
      obtain stays | preset | ⟨low, same⟩ := chosen_cases pen.background 0 color
      · exact .inl stays
      · exact .inr (.inl preset)
      · exact .inr (.inr ⟨low, congrArg (Instruction.color .background) same⟩)
    | underline => cases follows

theorem Pen.Standard.apply {next : Pen} {i : Instruction} (standard : pen.Standard)
    (follows : pen.apply i = .ok next) : next.Standard := by
  obtain ⟨foreground, background⟩ := Pen.colors_of_apply follows
  constructor
  · obtain stays | preset | ⟨low, _⟩ := foreground
    · exact stays ▸ standard.foreground
    · exact preset ▸ by decide
    · exact low
  · obtain stays | preset | ⟨low, _⟩ := background
    · exact stays ▸ standard.background
    · exact preset ▸ by decide
    · exact low

end Textmode.Ansi
