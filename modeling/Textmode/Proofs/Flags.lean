import Textmode.Sauce.Flags
import Mathlib.Data.Fintype.Basic

/-! The flags octet in its four parts: three that mean something, and the bits that do not. Putting
one part leaves the others, and together they are the octet.
-/

set_option autoImplicit false

namespace Textmode.Sauce.Flags

def spare (flags : Flags) : UInt8 := flags.bits &&& 0xE0

theorem eq_of_bits_eq {flags other : Flags} (same : flags.bits = other.bits) : flags = other := by
  cases flags
  cases other
  exact congrArg Flags.mk same

/-- There are only 256 flags, so what holds of all of them can be decided. -/
theorem forall_iff {P : Flags → Prop} : (∀ flags, P flags) ↔ ∀ n : Fin 256, P ⟨UInt8.ofFin n⟩ := by
  constructor
  · intro all n
    exact all _
  · intro all flags
    exact all flags.bits.toFin

theorem parts_withIceColors (flags : Flags) (on : Bool) :
    (flags.withIceColors on).iceColors = on ∧
    (flags.withIceColors on).letterSpacing = flags.letterSpacing ∧
    (flags.withIceColors on).aspectRatio = flags.aspectRatio ∧
    (flags.withIceColors on).spare = flags.spare := by
  revert flags
  rw [forall_iff]
  cases on <;> decide +kernel

theorem parts_withLetterSpacing (flags : Flags) (spacing : LetterSpacing) :
    (flags.withLetterSpacing spacing).iceColors = flags.iceColors ∧
    (flags.withLetterSpacing spacing).letterSpacing = spacing ∧
    (flags.withLetterSpacing spacing).aspectRatio = flags.aspectRatio ∧
    (flags.withLetterSpacing spacing).spare = flags.spare := by
  revert flags
  rw [forall_iff]
  cases spacing <;> decide +kernel

theorem parts_withAspectRatio (flags : Flags) (ratio : AspectRatio) :
    (flags.withAspectRatio ratio).iceColors = flags.iceColors ∧
    (flags.withAspectRatio ratio).letterSpacing = flags.letterSpacing ∧
    (flags.withAspectRatio ratio).aspectRatio = ratio ∧
    (flags.withAspectRatio ratio).spare = flags.spare := by
  revert flags
  rw [forall_iff]
  cases ratio <;> decide +kernel

theorem bits_eq_parts (flags : Flags) :
    flags.bits = flags.spare ||| (flags.aspectRatio.bits <<< (3 : UInt8)) |||
      (flags.letterSpacing.bits <<< (1 : UInt8)) ||| (if flags.iceColors then 1 else 0) := by
  revert flags
  rw [forall_iff]
  decide +kernel

end Textmode.Sauce.Flags
