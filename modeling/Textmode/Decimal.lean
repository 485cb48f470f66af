/-! Natural numbers in decimal digits, as short as they go or filled up with zeros. -/

set_option autoImplicit false

namespace Textmode.Decimal

def isDigit (c : Char) : Bool := '0' ≤ c && c ≤ '9'

def digit (n : Nat) : Char := Char.ofNat ('0'.toNat + n % 10)

def digitValue (c : Char) : Nat := c.toNat - '0'.toNat

def digits (n : Nat) : List Char :=
  if n < 10 then [digit n] else digits (n / 10) ++ [digit n]
termination_by n

def padded (width n : Nat) : List Char :=
  List.replicate (width - (digits n).length) '0' ++ digits n

def value (ds : List Char) : Nat := ds.foldl (fun n c => 10 * n + digitValue c) 0

def signed (n : Int) : List Char :=
  if n < 0 then '-' :: digits n.natAbs else digits n.natAbs

end Textmode.Decimal
