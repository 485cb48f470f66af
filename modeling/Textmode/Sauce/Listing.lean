import Textmode.Sauce.Details

/-! Records as an archive lists them: the fields of a record, any of which may be missing.
A date may come as a number, and the flags may come in their parts. -/

set_option autoImplicit false

namespace Textmode.Sauce

inductive ListedDate where
  | number (n : UInt64)
  | text (t : Text)
  deriving DecidableEq

structure SplitFlags where
  iceColors : Option Bool := none
  letterSpacing : Option UInt8 := none
  aspectRatio : Option UInt8 := none
  deriving DecidableEq

structure Listing where
  title : Option Text := none
  author : Option Text := none
  group : Option Text := none
  date : Option ListedDate := none
  fileSize : Option UInt32 := none
  dataType : Option UInt8 := none
  fileType : Option UInt8 := none
  tinfo1 : Option UInt16 := none
  tinfo2 : Option UInt16 := none
  tinfo3 : Option UInt16 := none
  tinfo4 : Option UInt16 := none
  /-- The flags in one octet, which count where `splitFlags` is missing. -/
  flags : Option UInt8 := none
  fontName : Option Text := none
  comments : Option Text := none
  splitFlags : Option SplitFlags := none
  deriving DecidableEq

def ListedDate.toText : ListedDate → Text
  | number n => Decimal.digits n.toNat
  | text t => t

namespace Listing

def flagParts (l : Listing) : Option Bool × Option LetterSpacing × Option AspectRatio :=
  match l.splitFlags, l.flags with
  | some parts, _ =>
    (parts.iceColors, parts.letterSpacing.map .ofBits, parts.aspectRatio.map .ofBits)
  | none, some bits =>
    (some (Flags.mk bits).iceColors, some (Flags.mk bits).letterSpacing,
      some (Flags.mk bits).aspectRatio)
  | none, none => (none, none, none)

def details (l : Listing) : Details where
  title := l.title.getD []
  author := l.author.getD []
  group := l.group.getD []
  comments := l.comments.getD []
  dateText := (l.date.map ListedDate.toText).getD []
  fileSize := l.fileSize.getD 0
  dataType := l.dataType.map .ofCode
  fileType := l.dataType.bind fun kind => l.fileType.bind (FileType.resolve? (.ofCode kind))
  tinfo1 := l.tinfo1
  tinfo2 := l.tinfo2
  tinfo3 := l.tinfo3
  tinfo4 := l.tinfo4
  tinfoText := l.fontName.getD []
  iceColors := l.flagParts.1
  letterSpacing := l.flagParts.2.1
  aspectRatio := l.flagParts.2.2

end Listing

end Textmode.Sauce
