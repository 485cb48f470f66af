import Textmode.Bytes
import Textmode.Decimal
import Textmode.Charset.Utf8
import Textmode.Notice
import Textmode.Sink

/-! The date of a record: eight digits, four for the year and two each for month and day.
Files hold anything there, so the digits are read as they stand; whether such a day exists
is a question of its own. -/

set_option autoImplicit false

namespace Textmode.Sauce

structure Date where
  year : Int
  month : UInt8
  day : UInt8
  deriving DecidableEq, Repr

namespace Date

def isDigitOctet (b : UInt8) : Bool := 0x30 ≤ b && b ≤ 0x39

def number (octets : Bytes) : Nat := octets.foldl (fun n b => 10 * n + (b.toNat - 0x30)) 0

/-- Reads exactly eight digits, whatever month and day they give. -/
def ofBytes? (bytes : Bytes) : Option Date :=
  if bytes.length = 8 ∧ bytes.all isDigitOctet then
    some
      { year := number (slice 0 4 bytes)
        month := UInt8.ofNat (number (slice 4 2 bytes))
        day := UInt8.ofNat (number (slice 6 2 bytes)) }
  else none

def ofText? (t : Text) : Option Date := ofBytes? (Utf8.encode t)

/-- An empty date is no date and needs no notice. -/
def notices (t : Text) : List Notice :=
  if t ≠ [] ∧ ofText? t = none then [.dateUnreadable t] else []

/-- A year that four digits cannot hold becomes the nearest one that they can, and so do month and
day. -/
def stamp (date : Date) : Text :=
  Decimal.padded 4 (min date.year.toNat 9999) ++ Decimal.padded 2 (min date.month.toNat 99) ++
    Decimal.padded 2 (min date.day.toNat 99)

def write (date : Date) (sink : Sink) : Sink × Option WriteError :=
  let (sink, fault) := sink.writeAll (Utf8.encode date.stamp)
  (sink, fault.map (⟨"<date>", ·⟩))

def display (date : Date) : Text :=
  (if 0 ≤ date.year ∧ date.year < 10000 then Decimal.padded 4 date.year.toNat
    else Decimal.signed date.year) ++
  '/' :: Decimal.padded 2 date.month.toNat ++ '/' :: Decimal.padded 2 date.day.toNat

/-- The leap years of the Gregorian rule, which is also applied to years before it was made. -/
def isLeap (year : Int) : Bool := year % 4 = 0 && (year % 100 ≠ 0 || year % 400 = 0)

def daysInMonth (year : Int) : Nat → Nat
  | 1 | 3 | 5 | 7 | 8 | 10 | 12 => 31
  | 4 | 6 | 9 | 11 => 30
  | 2 => if isLeap year then 29 else 28
  | _ => 0

/-- Whether the calendar has this day. Its years run from 262143 before the year 0 to
262142 after it. -/
def isOnCalendar (date : Date) : Bool :=
  -262143 ≤ date.year && date.year ≤ 262142 &&
    1 ≤ date.day.toNat && date.day.toNat ≤ daysInMonth date.year date.month.toNat

end Date

end Textmode.Sauce
