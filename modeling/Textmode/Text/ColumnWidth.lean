import Textmode.Charset.Encode
import Textmode.Text.DisplayWidth

/-! The columns of text on a screen, which depend on how the screen counts them. -/

set_option autoImplicit false

namespace Textmode

inductive ColumnWidth where
  | singleByte
  /-- One column for each octet that is written, as double-byte characters are two columns
  wide. -/
  | octets (encoder : Charset.Encoder)
  | unicode

namespace ColumnWidth

/-- The columns of one character where octets are counted: those that are written for it
alone. A character that the set lacks is shown as on a Unicode display, whatever is written for
it. -/
def charColumns (encoder : Charset.Encoder) (c : Char) : Nat :=
  if (encoder [c]).lacksSome then (Text.charColumns? c).getD 0 else (encoder [c]).octets

def eachColumns (encoder : Charset.Encoder) : Text → Nat
  | [] => 0
  | c :: t => charColumns encoder c + eachColumns encoder t

def octetColumns (encoder : Charset.Encoder) (t : Text) : Nat :=
  if (encoder t).lacksSome then eachColumns encoder t else (encoder t).octets

def measure (width : ColumnWidth) (t : Text) : Nat :=
  match width with
  | singleByte => t.length
  | unicode => Text.displayColumns t
  | octets encoder => octetColumns encoder t

def encoded (charset : Charset) : ColumnWidth := octets charset.write

end ColumnWidth

end Textmode
