import Textmode.Text.Blank

/-! The character sets that art comes in, and the labels that name them. -/

set_option autoImplicit false

namespace Textmode

inductive Charset where
  | utf8
  | utf16le
  | utf16be
  | windows1252
  | ibm866
  | koi8R
  | gbk
  | gb18030
  | big5
  | shiftJis
  | eucKr
  /-- ASCII, with the upper octets in the private use area. -/
  | userDefined
  /-- Stands for sets that are not safe to read: nothing in them is read. -/
  | replacement
  deriving DecidableEq, Repr

namespace Charset

def name : Charset → String
  | utf8 => "UTF-8"
  | utf16le => "UTF-16LE"
  | utf16be => "UTF-16BE"
  | windows1252 => "windows-1252"
  | ibm866 => "IBM866"
  | koi8R => "KOI8-R"
  | gbk => "GBK"
  | gb18030 => "gb18030"
  | big5 => "Big5"
  | shiftJis => "Shift_JIS"
  | eucKr => "EUC-KR"
  | userDefined => "x-user-defined"
  | replacement => "replacement"

/-- The labels of Latin-1 and ASCII name windows-1252, which has all of their characters. -/
def labels : List (Charset × List String) :=
  [(utf8, ["unicode-1-1-utf-8", "unicode11utf8", "unicode20utf8", "utf-8", "utf8",
      "x-unicode20utf8"]),
   (utf16le, ["csunicode", "iso-10646-ucs-2", "ucs-2", "unicode", "unicodefeff", "utf-16",
      "utf-16le"]),
   (utf16be, ["unicodefffe", "utf-16be"]),
   (windows1252, ["ansi_x3.4-1968", "ascii", "cp1252", "cp819", "csisolatin1", "ibm819",
      "iso-8859-1", "iso-ir-100", "iso8859-1", "iso88591", "iso_8859-1", "iso_8859-1:1987", "l1",
      "latin1", "us-ascii", "windows-1252", "x-cp1252"]),
   (ibm866, ["866", "cp866", "csibm866", "ibm866"]),
   (koi8R, ["cskoi8r", "koi", "koi8", "koi8-r", "koi8_r"]),
   (gbk, ["chinese", "csgb2312", "csiso58gb231280", "gb2312", "gb_2312", "gb_2312-80", "gbk",
      "iso-ir-58", "x-gbk"]),
   (gb18030, ["gb18030"]),
   (big5, ["big5", "big5-hkscs", "cn-big5", "csbig5", "x-x-big5"]),
   (shiftJis, ["csshiftjis", "ms932", "ms_kanji", "shift-jis", "shift_jis", "sjis",
      "windows-31j", "x-sjis"]),
   (eucKr, ["cseuckr", "csksc56011987", "euc-kr", "iso-ir-149", "korean", "ks_c_5601-1987",
      "ks_c_5601-1989", "ksc5601", "ksc_5601", "windows-949"]),
   (replacement, ["csiso2022kr", "hz-gb-2312", "iso-2022-cn", "iso-2022-cn-ext", "iso-2022-kr",
      "replacement"]),
   (userDefined, ["x-user-defined"])]

def isLabelBlank (c : Char) : Bool :=
  c = ' ' || c = '\t' || c = '\n' || c = '\x0c' || c = '\r'

/-- Letter case and blanks around the label do not matter. -/
def ofLabel? (label : Text) : Option Charset :=
  let plain := (dropTrailing isLabelBlank (label.dropWhile isLabelBlank)).map Char.toLower
  (labels.find? fun (_, names) => names.any (·.toList = plain)).map Prod.fst

end Charset

end Textmode
