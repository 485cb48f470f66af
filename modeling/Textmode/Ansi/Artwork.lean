import Textmode.Ansi.Html
import Textmode.Ansi.Rendition
import Textmode.Text.Indent

/-! What there is to take from art: its HTML, its text, the prose in its text, its colours,
and the place for another text under it. -/

set_option autoImplicit false

namespace Textmode.Ansi

def toHtml (art : Text) : Except RoleError Text := Html.render (instructions art)

def plainText (art : Text) : Text := (instructions art).flatMap Instruction.shown

def prose (art : Text) : Text := Text.prose (plainText art)

def Instruction.chooses (code : Nat) : Instruction → Bool
  | color _ (.indexed chosen) => chosen.toNat = code
  | _ => false

def palette (art : Text) : List Nat :=
  (List.range 8).filter fun code => (instructions art).any (·.chooses code)

def indentUnder (measure : Text → Nat) (art t : Text) : Text :=
  Text.indent measure (plainText art) t

end Textmode.Ansi
