/-!
# Decimal digits

The digits from 0 to 9, and the number that a row of them writes.
-/
namespace Parley.Decimal

def isDigit (c : Char) : Bool := '0' ≤ c && c ≤ '9'

def value (digits : List Char) : Nat :=
  digits.foldl (fun value c => 10 * value + (c.toNat - '0'.toNat)) 0

end Parley.Decimal
