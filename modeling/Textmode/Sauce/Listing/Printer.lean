import Textmode.Sauce.Listing.Reader

/-! Listings as JSON: an object with every key of a listing in their order, without blanks,
and `null` for what is missing. -/

set_option autoImplicit false

namespace Textmode.Sauce.Listing

def null : Text := "null".toList

def printText (t : Option Text) : Text := (t.map Json.quote).getD null

def printNat (n : Option Nat) : Text := (n.map Decimal.digits).getD null

def printSwitch : Option Bool → Text
  | some true => "true".toList
  | some false => "false".toList
  | none => null

def printDate : Option ListedDate → Text
  | some (.number n) => Decimal.digits n.toNat
  | some (.text t) => Json.quote t
  | none => null

def printObject (members : List (Text × Text)) : Text :=
  '\x7b' :: [','].intercalate (members.map fun (key, value) => Json.quote key ++ ':' :: value) ++
    ['\x7d']

def SplitFlags.print (flags : SplitFlags) : FlagField → Text
  | .iceColors => printSwitch flags.iceColors
  | .letterSpacing => printNat (flags.letterSpacing.map UInt8.toNat)
  | .aspectRatio => printNat (flags.aspectRatio.map UInt8.toNat)

def SplitFlags.toJson (flags : SplitFlags) : Text :=
  printObject (FlagField.all.map fun field => (field.key, SplitFlags.print flags field))

def print (l : Listing) : Field → Text
  | .title => printText l.title
  | .author => printText l.author
  | .group => printText l.group
  | .date => printDate l.date
  | .fileSize => printNat (l.fileSize.map UInt32.toNat)
  | .dataType => printNat (l.dataType.map UInt8.toNat)
  | .fileType => printNat (l.fileType.map UInt8.toNat)
  | .tinfo1 => printNat (l.tinfo1.map UInt16.toNat)
  | .tinfo2 => printNat (l.tinfo2.map UInt16.toNat)
  | .tinfo3 => printNat (l.tinfo3.map UInt16.toNat)
  | .tinfo4 => printNat (l.tinfo4.map UInt16.toNat)
  | .flags => printNat (l.flags.map UInt8.toNat)
  | .fontName => printText l.fontName
  | .comments => printText l.comments
  | .splitFlags => (l.splitFlags.map SplitFlags.toJson).getD null

def toJson (l : Listing) : Text :=
  printObject (Field.all.map fun field => (field.key, l.print field))

end Textmode.Sauce.Listing
