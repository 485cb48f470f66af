import Textmode.Proofs.Painting

/-! Which instructions have their HTML. A colour for underlines is the only thing that a pen cannot
follow, wherever it stands, and no text is ever read as one. What a pen has no use for leaves it as it
is, and what stands behind instructions takes nothing of their HTML back.
-/

set_option autoImplicit false

namespace Textmode.Ansi

variable {is : List Instruction} {i : Instruction} {pen : Pen} {e : RoleError}

/-! ## One instruction -/

theorem Instruction.isPaintable_iff : i.isPaintable ↔ ∀ color, i ≠ .color .underline color := by
  constructor
  · rintro paintable color rfl
    cases paintable
  · intro other
    cases i with
    | color role color =>
      cases role with
      | underline => exact absurd rfl (other color)
      | _ => rfl
    | _ => rfl

theorem Pen.apply_eq_error_iff :
    pen.apply i = .error e ↔ e = ⟨.underline⟩ ∧ ∃ color, i = .color .underline color := by
  constructor
  · intro fails
    cases i with
    | color role color =>
      cases role with
      | underline => exact ⟨(Except.error.inj fails).symm, color, rfl⟩
      | _ => cases fails
    | _ => cases fails
  · rintro ⟨rfl, color, rfl⟩
    rfl

def Color.isBeyond : Color → Bool
  | indexed code => 8 ≤ code
  | rgb _ _ _ => true
  | default => false

theorem Pen.chosen_of_isBeyond {color : Color} (beyond : color.isBeyond) (present preset : UInt8) :
    chosen present preset color = present := by
  cases color with
  | indexed code => exact if_neg (UInt8.not_lt.mpr (of_decide_eq_true beyond))
  | rgb _ _ _ => rfl
  | default => cases beyond

theorem Color.isBeyond_of_chosen_eq {color : Color} (preset : UInt8)
    (kept : ∀ present, Pen.chosen present preset color = present) : color.isBeyond := by
  cases color with
  | indexed code =>
    refine decide_eq_true (UInt8.not_lt.mp fun low => ?_)
    -- The same colour would be chosen whatever there was before.
    have same (present : UInt8) : code = present := (if_pos low).symm.trans (kept present)
    exact absurd ((same 0).symm.trans (same 1)) (by decide)
  | rgb _ _ _ => rfl
  | default => exact absurd ((kept 0).symm.trans (kept 1)) (by decide)

/-- Instructions that no pen has a use for: text, which it only shows, colours and attributes that
it does not have, and sequences that are not understood. -/
inductive Ignored : Instruction → Prop where
  | text {run : Text} : Ignored (.text run)
  | color {role : Role} {color : Color} : role ≠ .underline → color.isBeyond →
      Ignored (.color role color)
  | switch {mode : Attribute} : mode ∉ [.normal, .bold, .underline, .notUnderline, .blink] →
      Ignored (.switch mode)
  | unhandled {sequence : Text} : Ignored (.unhandled sequence)

theorem Ignored.apply_eq (ignored : Ignored i) (pen : Pen) : pen.apply i = .ok pen := by
  cases ignored with
  | text => rfl
  | @color role color paintable beyond =>
    cases role with
    | foreground => rw [Pen.apply, Pen.chosen_of_isBeyond beyond]
    | background => rw [Pen.apply, Pen.chosen_of_isBeyond beyond]
    | underline => exact absurd rfl paintable
  | @switch mode other =>
    cases mode with
    | normal => exact absurd (by decide) other
    | bold => exact absurd (by decide) other
    | underline => exact absurd (by decide) other
    | notUnderline => exact absurd (by decide) other
    | blink => exact absurd (by decide) other
    | _ => rfl
  | unhandled => rfl

/-- Every other instruction changes some pen, or cannot be followed. -/
theorem ignored_of_apply_eq (same : ∀ pen : Pen, pen.apply i = .ok pen) : Ignored i := by
  have kept (pen : Pen) {next : Pen} (follows : pen.apply i = .ok next) : next = pen :=
    Except.ok.inj (follows.symm.trans (same pen))
  cases i with
  | text run => exact .text
  | unhandled sequence => exact .unhandled
  | switch mode =>
    refine .switch fun member => ?_
    simp only [List.mem_cons, List.not_mem_nil, or_false] at member
    -- Each attribute that a pen has changes one of these pens.
    rcases member with rfl | rfl | rfl | rfl | rfl
    · exact absurd (kept { bold := true } rfl) (by decide)
    · exact absurd (kept {} rfl) (by decide)
    · exact absurd (kept {} rfl) (by decide)
    · exact absurd (kept { underline := true } rfl) (by decide)
    · exact absurd (kept {} rfl) (by decide)
  | color role color =>
    cases role with
    | foreground =>
      refine .color (by decide) (Color.isBeyond_of_chosen_eq 7 fun present => ?_)
      exact congrArg Pen.foreground (kept { foreground := present } rfl)
    | background =>
      refine .color (by decide) (Color.isBeyond_of_chosen_eq 0 fun present => ?_)
      exact congrArg Pen.background (kept { background := present } rfl)
    | underline => cases same {}

/-! ## Lists of instructions -/

namespace Html

theorem runs_of_mem {color : Color} (member : .color .underline color ∈ is) (pen : Pen) :
    runs pen is = .error ⟨.underline⟩ := by
  induction is generalizing pen with
  | nil => cases member
  | cons i is ih =>
    rw [runs]
    cases follows : pen.apply i with
    | error e =>
      obtain ⟨rfl, _⟩ := Pen.apply_eq_error_iff.mp follows
      rfl
    | ok next =>
      have later : .color .underline color ∈ is := by
        obtain rfl | later := List.mem_cons.mp member
        · cases follows
        · exact later
      simp only [bind, Except.bind, ih later]

theorem render_of_mem {color : Color} (member : .color .underline color ∈ is) :
    render is = .error ⟨.underline⟩ := by
  rw [render, runs_of_mem member]
  rfl

theorem exists_render (none : ∀ color, .color .underline color ∉ is) :
    ∃ html, render is = .ok html := by
  have paintable : ∀ i ∈ is, i.isPaintable := fun i member =>
    Instruction.isPaintable_iff.mpr fun color same => none color (same ▸ member)
  obtain ⟨runs, last, paints⟩ := exists_paints paintable {}
  exact ⟨_, paints.render_eq⟩

theorem render_eq_error_iff :
    render is = .error e ↔ e = ⟨.underline⟩ ∧ ∃ color, .color .underline color ∈ is := by
  constructor
  · intro fails
    by_cases none : ∀ color, .color .underline color ∉ is
    · obtain ⟨html, rendered⟩ := exists_render none
      cases rendered.symm.trans fails
    · simp only [not_forall, not_not] at none
      obtain ⟨color, member⟩ := none
      exact ⟨(Except.error.inj ((render_of_mem member).symm.trans fails)).symm, color, member⟩
  · rintro ⟨rfl, color, member⟩
    exact render_of_mem member

theorem render_eq_ok_iff :
    (∃ html, render is = .ok html) ↔ ∀ color, .color .underline color ∉ is := by
  refine ⟨?_, exists_render⟩
  rintro ⟨html, rendered⟩ color member
  cases (render_of_mem member).symm.trans rendered

theorem render_append {front back : List Instruction} {html : Text}
    (rendered : render (front ++ back) = .ok html) :
    ∃ before, render front = .ok before ∧ before <+: html := by
  obtain ⟨runs, last, paints, rfl⟩ := exists_paints_of_render rendered
  obtain ⟨pen, before, behind, first, _, rfl⟩ := paints.split
  exact ⟨_, first.render_eq, by rw [List.flatMap_append]; exact List.prefix_append _ _⟩

end Html

theorem not_mem_instructions (t : Text) (color : Color) :
    .color .underline color ∉ instructions t :=
  fun member => Instruction.isPaintable_iff.mp (isPaintable_of_mem_instructions member) color rfl

/-- Instructions have no HTML exactly if one of them chooses a colour for underlines, and every text
has its HTML. -/
theorem renders_unless_underline :
    (∀ is e, Html.render is = .error e ↔
      e = ⟨.underline⟩ ∧ ∃ color, .color .underline color ∈ is) ∧
    (∀ is, (∃ html, Html.render is = .ok html) ↔ ∀ color, .color .underline color ∉ is) ∧
    (∀ (pen : Pen) i e, pen.apply i = .error e ↔
      e = ⟨.underline⟩ ∧ ∃ color, i = .color .underline color) ∧
    (∀ i, Ignored i ↔ ∀ pen : Pen, pen.apply i = .ok pen) ∧
    (∀ t role color, .color role color ∈ instructions t → role ≠ .underline) ∧
    (∀ t, ∃ html, toHtml t = .ok html) ∧
    ∀ xs ys html, Html.render (xs ++ ys) = .ok html →
      ∃ before, Html.render xs = .ok before ∧ before <+: html := by
  refine ⟨fun _ _ => Html.render_eq_error_iff, fun _ => Html.render_eq_ok_iff,
    fun _ _ _ => Pen.apply_eq_error_iff, fun _ => ⟨Ignored.apply_eq, ignored_of_apply_eq⟩, ?_,
    fun t => Html.exists_render (not_mem_instructions t), fun _ _ _ => Html.render_append⟩
  rintro t role color member rfl
  exact not_mem_instructions t color member

end Textmode.Ansi
