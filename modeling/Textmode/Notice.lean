import Textmode.Sauce.DataType
import Textmode.Ansi.Instruction
import Textmode.Text.Visible

/-! What the library has to say about an input that it nevertheless reads. Every function
that may have something to say has a companion that gives the notices for the same
arguments. -/

set_option autoImplicit false

namespace Textmode

open Sauce (DataType)
open Ansi (Role Color Attribute)

inductive Notice where
  /-- The record counts more comment lines than there is room for in front of it. -/
  | commentsDoNotFit (lines : Nat)
  /-- The mark of the comment block is not where the count of lines puts it. -/
  | commentsUnmarked
  /-- The comments take more lines than a record can count. -/
  | commentsCut (lines : Nat)
  | dateUnreadable (date : Text)
  | dataTypeUnknown (code : UInt8)
  | fileTypeInvalid (code : UInt8) (dataType : DataType)
  | listedNumberIgnored
  | lineCountsDiffer (lines expected : Nat)
  | colorIgnored (role : Role) (color : Color)
  | attributeIgnored (mode : Attribute)
  | sequenceIgnored (sequence : Text)
  | malformedReplaced (charset : String)
  deriving DecidableEq

inductive Level where
  | warning
  | debug
  deriving DecidableEq, Repr

namespace Notice

/-- Losses of data are warnings; what a display may leave out is for debugging. -/
def level : Notice → Level
  | colorIgnored _ _ | attributeIgnored _ | sequenceIgnored _ | malformedReplaced _ => .debug
  | _ => .warning

def colorText : Color → String
  | .indexed code => s!"Indexed({code})"
  | .rgb red green blue => s!"Rgb({red}, {green}, {blue})"
  | .default => "Default"

def attributeText : Attribute → String
  | .other code => s!"Other({code})"
  | named => named.name

def message : Notice → String
  | commentsDoNotFit lines =>
    s!"SAUCE comment block of {lines} lines does not fit - ignoring comments"
  | commentsUnmarked => "SAUCE comment block missing COMNT ID - ignoring comments"
  | commentsCut lines => s!"SAUCE comments need {lines} lines, truncating to 255"
  | dateUnreadable date => "Invalid SAUCE date '" ++ String.ofList date ++ "' - ignoring"
  | dataTypeUnknown code => s!"Unknown SAUCE data type {code} - file type left undefined"
  | fileTypeInvalid code dataType =>
    s!"Invalid SAUCE file type {code} for data type " ++ dataType.label
  | listedNumberIgnored => "Remote SAUCE field out of range - ignoring"
  | lineCountsDiffer lines expected =>
    s!"Translated text has {lines} lines, original has {expected}"
  | colorIgnored role color => "Unhandled ANSI color: " ++ role.name ++ " " ++ colorText color
  | attributeIgnored a => "Unhandled ANSI attribute: " ++ attributeText a
  | sequenceIgnored sequence => "Unhandled ANSI: " ++ String.ofList (Text.visible sequence)
  | malformedReplaced charset => s!"Malformed {charset} sequences replaced"

end Notice

end Textmode
