import Textmode.Sauce.Date
import Textmode.Sauce.FileType
import Textmode.Sauce.Record

/-! The meaning of a record. What a number or text stands for depends on the format, so
each question has an answer only for the formats that define one. The same questions can
be asked of records that an archive lists, where any field may be missing. -/

set_option autoImplicit false

namespace Textmode.Sauce

structure Details where
  title : Text := []
  author : Text := []
  group : Text := []
  comments : Text := []
  dateText : Text := []
  fileSize : UInt32 := 0
  dataType : Option DataType := none
  fileType : Option FileType := none
  tinfo1 : Option UInt16 := none
  tinfo2 : Option UInt16 := none
  tinfo3 : Option UInt16 := none
  tinfo4 : Option UInt16 := none
  /-- The type-dependent text, whatever it names. -/
  tinfoText : Text := []
  iceColors : Option Bool := none
  letterSpacing : Option LetterSpacing := none
  aspectRatio : Option AspectRatio := none
  deriving DecidableEq

namespace Details

def ofRecord (r : Record) : Details where
  title := r.title
  author := r.author
  group := r.group
  comments := r.comments
  dateText := r.date
  fileSize := r.fileSize
  dataType := some r.dataType
  fileType := FileType.resolve? r.dataType r.fileType
  tinfo1 := some r.tinfo1
  tinfo2 := some r.tinfo2
  tinfo3 := some r.tinfo3
  tinfo4 := some r.tinfo4
  tinfoText := r.fontName
  iceColors := some r.flags.iceColors
  letterSpacing := some r.flags.letterSpacing
  aspectRatio := some r.flags.aspectRatio

def date (d : Details) : Option Date := Date.ofText? d.dateText

def dateNotices (d : Details) : List Notice := Date.notices d.dateText

def isPixelBased (d : Details) : Bool :=
  d.dataType = some .bitmap || d.fileType = some .ripScript

def hasCharacterSize (d : Details) : Bool := d.fileType.any FileType.hasCharacterSize

def pixelWidth (d : Details) : Option UInt16 := if d.isPixelBased then d.tinfo1 else none

def pixelHeight (d : Details) : Option UInt16 := if d.isPixelBased then d.tinfo2 else none

/-- Bits for each pixel. Drawing scripts have pixels, but no depth. -/
def pixelDepth (d : Details) : Option UInt16 :=
  if d.dataType = some .bitmap then d.tinfo3 else none

def sampleRate (d : Details) : Option UInt16 :=
  if d.fileType.any FileType.isSample then d.tinfo1 else none

def characterWidth (d : Details) : Option UInt16 := if d.hasCharacterSize then d.tinfo1 else none

def lineCount (d : Details) : Option UInt16 := if d.hasCharacterSize then d.tinfo2 else none

def fontName (d : Details) : Text := if d.fileType.any FileType.hasFontName then d.tinfoText else []

end Details

end Textmode.Sauce
