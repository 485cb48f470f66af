import Textmode.Notice

/-! The formats of the standard. A file type code has a meaning only together with a data
type: code 1 is ANSi among the character formats and PCX among the bitmaps. -/

set_option autoImplicit false

namespace Textmode.Sauce

inductive FileType where
  | none
  | ascii | ansi | ansiMation | ripScript | pcBoard | avatar | html | source | tundraDraw
  | gif | pcx | lbmIff | tga | fli | flc | bmp | gl | dl | wpgBitmap | png | jpg | mpg | avi
  | dxf | dwg | wpgVector | threeDs
  | mod | composer669 | stm | s3m | mtm | far | ult | amf | dmf | okt | rol | cmf | midi | sadt
  | voc | wav | smp8 | smp8s | smp16 | smp16s | patch8 | patch16 | xm | hsc | it
  | binaryText | xBin
  | zip | arj | lzh | arc | tar | zoo | rar | uc2 | pak | sqz
  | executable
  deriving DecidableEq

namespace FileType

def inOrder : DataType → List FileType
  | .character => [ascii, ansi, ansiMation, ripScript, pcBoard, avatar, html, source, tundraDraw]
  | .bitmap => [gif, pcx, lbmIff, tga, fli, flc, bmp, gl, dl, wpgBitmap, png, jpg, mpg, avi]
  | .vector => [dxf, dwg, wpgVector, threeDs]
  | .audio =>
    [mod, composer669, stm, s3m, mtm, far, ult, amf, dmf, okt, rol, cmf, midi, sadt, voc, wav,
     smp8, smp8s, smp16, smp16s, patch8, patch16, xm, hsc, it]
  | .archive => [zip, arj, lzh, arc, tar, zoo, rar, uc2, pak, sqz]
  | .none | .binaryText | .xBin | .executable | .undefined _ => []

/-- The format that a pair of codes names. Some data types have one format only and give
the file type octet no meaning, or another one. -/
def resolve? (dataType : DataType) (code : UInt8) : Option FileType :=
  match dataType with
  | .none => some none
  | .binaryText => some binaryText
  | .xBin => some xBin
  | .executable => some executable
  | _ => (inOrder dataType)[code.toNat]?

def notices (dataType : DataType) (code : UInt8) : List Notice :=
  match resolve? dataType code, dataType with
  | .some _, _ => []
  | .none, .undefined unknown => [.dataTypeUnknown unknown]
  | .none, _ => [.fileTypeInvalid code dataType]

def dataType : FileType → DataType
  | none => .none
  | ascii | ansi | ansiMation | ripScript | pcBoard | avatar | html | source | tundraDraw =>
    .character
  | gif | pcx | lbmIff | tga | fli | flc | bmp | gl | dl | wpgBitmap | png | jpg | mpg | avi =>
    .bitmap
  | dxf | dwg | wpgVector | threeDs => .vector
  | mod | composer669 | stm | s3m | mtm | far | ult | amf | dmf | okt | rol | cmf | midi | sadt
  | voc | wav | smp8 | smp8s | smp16 | smp16s | patch8 | patch16 | xm | hsc | it => .audio
  | binaryText => .binaryText
  | xBin => .xBin
  | zip | arj | lzh | arc | tar | zoo | rar | uc2 | pak | sqz => .archive
  | executable => .executable

theorem dataType_of_mem_inOrder (kind : DataType) :
    ∀ fileType ∈ inOrder kind, fileType.dataType = kind := by
  cases kind with
  | undefined => simp [inOrder]
  | _ => decide

/-- Formats that keep their columns and lines in the first two type-dependent numbers. -/
def hasCharacterSize : FileType → Bool
  | ascii | ansi | ansiMation | pcBoard | avatar | tundraDraw | xBin => true
  | _ => false

def hasFontName : FileType → Bool
  | ascii | ansi | ansiMation | xBin => true
  | _ => false

def isSample : FileType → Bool
  | smp8 | smp8s | smp16 | smp16s => true
  | _ => false

def label : FileType → String
  | none => "None"
  | ascii => "ASCII"
  | ansi => "ANSi"
  | ansiMation => "ANSiMation"
  | ripScript => "RIP script"
  | pcBoard => "PCBoard"
  | avatar => "Avatar"
  | html => "HTML"
  | source => "Source"
  | tundraDraw => "TundraDraw"
  | gif => "GIF"
  | pcx => "PCX"
  | lbmIff => "LBM/IFF"
  | tga => "TGA"
  | fli => "FLI"
  | flc => "FLC"
  | bmp => "BMP"
  | gl => "GL"
  | dl => "DL"
  | wpgBitmap | wpgVector => "WPG"
  | png => "PNG"
  | jpg => "JPG"
  | mpg => "MPG"
  | avi => "AVI"
  | dxf => "DXF"
  | dwg => "DWG"
  | threeDs => "3DS"
  | mod => "MOD"
  | composer669 => "669"
  | stm => "STM"
  | s3m => "S3M"
  | mtm => "MTM"
  | far => "FAR"
  | ult => "ULT"
  | amf => "AMF"
  | dmf => "DMF"
  | okt => "OKT"
  | rol => "ROL"
  | cmf => "CMF"
  | midi => "MIDI"
  | sadt => "SADT"
  | voc => "VOC"
  | wav => "WAV"
  | smp8 => "SMP8"
  | smp8s => "SMP8S"
  | smp16 => "SMP16"
  | smp16s => "SMP16S"
  | patch8 => "PATCH8"
  | patch16 => "PATCH16"
  | xm => "XM"
  | hsc => "HSC"
  | it => "IT"
  | binaryText => "BinaryText"
  | xBin => "XBin"
  | zip => "ZIP"
  | arj => "ARJ"
  | lzh => "LZH"
  | arc => "ARC"
  | tar => "TAR"
  | zoo => "ZOO"
  | rar => "RAR"
  | uc2 => "UC2"
  | pak => "PAK"
  | sqz => "SQZ"
  | executable => "Executable"

end FileType

end Textmode.Sauce
