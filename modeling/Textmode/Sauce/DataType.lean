/-! The coarse category of a file. It decides how the other type-dependent fields of a
record are read. -/

set_option autoImplicit false

namespace Textmode.Sauce

inductive DataType where
  | none
  | character
  | bitmap
  | vector
  | audio
  /-- Raw screen memory; its file type octet holds half the number of columns. -/
  | binaryText
  | xBin
  | archive
  | executable
  /-- A code that has no meaning yet. It is kept so that it can be written back. -/
  | undefined (code : UInt8)
  deriving DecidableEq, Repr

namespace DataType

def ofCode (code : UInt8) : DataType :=
  match code.toNat with
  | 0 => none
  | 1 => character
  | 2 => bitmap
  | 3 => vector
  | 4 => audio
  | 5 => binaryText
  | 6 => xBin
  | 7 => archive
  | 8 => executable
  | _ => undefined code

def code : DataType → UInt8
  | none => 0
  | character => 1
  | bitmap => 2
  | vector => 3
  | audio => 4
  | binaryText => 5
  | xBin => 6
  | archive => 7
  | executable => 8
  | undefined code => code

@[simp] theorem code_ofCode (code : UInt8) : (ofCode code).code = code := by
  rw [ofCode]
  split
  -- The last case keeps the code itself.
  case h_10 => rfl
  all_goals
    next known => exact UInt8.toNat_inj.mp known.symm

/-- A code below 9 can also be marked as undefined, but no octet is read that way. -/
theorem ofCode_code_iff {kind : DataType} :
    ofCode kind.code = kind ↔ ∃ code, kind = ofCode code := by
  constructor
  · exact fun same => ⟨kind.code, same.symm⟩
  · rintro ⟨code, rfl⟩
    rw [code_ofCode]

theorem coded_of_binaryText {kind : DataType} (binary : kind = binaryText) :
    ofCode kind.code = kind := by
  rw [binary]
  rfl

def label : DataType → String
  | none => "None"
  | character => "Character"
  | bitmap => "Bitmap"
  | vector => "Vector"
  | audio => "Audio"
  | binaryText => "BinaryText"
  | xBin => "XBin"
  | archive => "Archive"
  | executable => "Executable"
  | undefined _ => "Undefined"

end DataType

end Textmode.Sauce
