import Textmode.Ansi.Instruction
import Textmode.Decimal
import Textmode.Notice

/-! The pen that text is shown with: two colours of the standard palette and three
attributes. Other colours and attributes leave it as it is. -/

set_option autoImplicit false

namespace Textmode.Ansi

structure Pen where
  foreground : UInt8 := 7
  background : UInt8 := 0
  bold : Bool := false
  underline : Bool := false
  blink : Bool := false
  deriving DecidableEq, Repr

/-- A colour was chosen for a role that a pen does not have. -/
structure RoleError where
  role : Role
  deriving DecidableEq, Repr

def RoleError.message (e : RoleError) : String :=
  "Invalid color role for rendering: " ++ e.role.name

inductive Property where
  | color (code : Nat)
  | background (code : Nat)
  | underlined
  deriving DecidableEq, Repr

def Instruction.isPaintable : Instruction → Bool
  | color .underline _ => false
  | _ => true

def Instruction.notice? : Instruction → Option Notice
  | text _ => none
  | color .underline _ => none
  | color _ .default => none
  | color role (.indexed code) => if code < 8 then none else some (.colorIgnored role (.indexed code))
  | color role mixed => some (.colorIgnored role mixed)
  | switch .normal | switch .bold | switch .underline | switch .notUnderline | switch .blink => none
  | switch mode => some (.attributeIgnored mode)
  | unhandled sequence => some (.sequenceIgnored sequence)

namespace Pen

def chosen (present preset : UInt8) : Color → UInt8
  | .indexed code => if code < 8 then code else present
  | .rgb _ _ _ => present
  | .default => preset

def switch (pen : Pen) : Attribute → Pen
  | .normal => {}
  | .bold => { pen with bold := true }
  | .underline => { pen with underline := true }
  | .notUnderline => { pen with underline := false }
  | .blink => { pen with blink := true }
  | _ => pen

def apply (pen : Pen) : Instruction → Except RoleError Pen
  | .text _ => .ok pen
  | .color .foreground color => .ok { pen with foreground := chosen pen.foreground 7 color }
  | .color .background color => .ok { pen with background := chosen pen.background 0 color }
  | .color .underline _ => .error ⟨.underline⟩
  | .switch mode => .ok (pen.switch mode)
  | .unhandled _ => .ok pen

/-- The palette entry text is drawn with; bold chooses the bright half of the palette. -/
def foregroundCode (pen : Pen) : Nat := pen.foreground.toNat + if pen.bold then 8 else 0

/-- Only what differs from a new pen. -/
def style (pen : Pen) : List Property :=
  (if pen.foregroundCode = 7 then [] else [.color pen.foregroundCode]) ++
    (if pen.background = 0 then [] else [.background pen.background.toNat]) ++
    (if pen.underline then [.underlined] else [])

end Pen

def Property.text : Property → Text
  | color code => "color: var(--c".toList ++ Decimal.digits code ++ [')']
  | background code => "background-color: var(--c".toList ++ Decimal.digits code ++ [')']
  | underlined => "text-decoration: underline".toList

def styleText (style : List Property) : Text := "; ".toList.intercalate (style.map Property.text)

end Textmode.Ansi
