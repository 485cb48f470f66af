/-! The flags octet of a record. Bit 0 says that blinking shows as a bright background,
bits 1 and 2 hold the letter spacing, bits 3 and 4 the aspect ratio. The other bits have
no meaning and are kept. -/

set_option autoImplicit false

namespace Textmode.Sauce

inductive LetterSpacing where
  | legacy
  | eightPixel
  | ninePixel
  | reserved
  deriving DecidableEq, Repr

inductive AspectRatio where
  | legacy
  /-- The display stretches the picture vertically. -/
  | legacyDevice
  | square
  | reserved
  deriving DecidableEq, Repr

/-- Only the low two bits count. -/
def LetterSpacing.ofBits (bits : UInt8) : LetterSpacing :=
  match (bits &&& 3).toNat with
  | 0 => legacy
  | 1 => eightPixel
  | 2 => ninePixel
  | _ => reserved

def LetterSpacing.bits : LetterSpacing → UInt8
  | legacy => 0
  | eightPixel => 1
  | ninePixel => 2
  | reserved => 3

def AspectRatio.ofBits (bits : UInt8) : AspectRatio :=
  match (bits &&& 3).toNat with
  | 0 => legacy
  | 1 => legacyDevice
  | 2 => square
  | _ => reserved

def AspectRatio.bits : AspectRatio → UInt8
  | legacy => 0
  | legacyDevice => 1
  | square => 2
  | reserved => 3

structure Flags where
  bits : UInt8 := 0
  deriving DecidableEq, Repr

namespace Flags

def iceColors (flags : Flags) : Bool := flags.bits &&& 1 != 0

def letterSpacing (flags : Flags) : LetterSpacing := .ofBits (flags.bits >>> 1)

def aspectRatio (flags : Flags) : AspectRatio := .ofBits (flags.bits >>> 3)

def withIceColors (flags : Flags) (on : Bool) : Flags :=
  ⟨(flags.bits &&& 0xFE) ||| (if on then 1 else 0)⟩

def withLetterSpacing (flags : Flags) (spacing : LetterSpacing) : Flags :=
  ⟨(flags.bits &&& (0xF9 : UInt8)) ||| (spacing.bits <<< (1 : UInt8))⟩

def withAspectRatio (flags : Flags) (ratio : AspectRatio) : Flags :=
  ⟨(flags.bits &&& (0xE7 : UInt8)) ||| (ratio.bits <<< (3 : UInt8))⟩

def ofParts (iceColors : Bool) (spacing : LetterSpacing) (ratio : AspectRatio) : Flags :=
  ((({} : Flags).withIceColors iceColors).withLetterSpacing spacing).withAspectRatio ratio

end Flags

end Textmode.Sauce
