import DatagramShell.Bytes

/-!
# Decimal numerals

Whole numbers are read from ASCII digits.  A numeral has at least one digit and may start with
zeros; a plus sign may stand in front, a minus sign only where negative numbers are meant.  A number
outside the range of its type is refused.
-/

namespace DatagramShell
namespace Numeral

def isDigit (character : Char) : Bool :=
  '0' ≤ character && character ≤ '9'

def digitValue (character : Char) : Nat :=
  character.toNat - '0'.toNat

/-- The value of a row of digits, most significant first. -/
def value (digits : List Char) : Nat :=
  digits.foldl (fun total digit => total * 10 + digitValue digit) 0

/-- A row of at least one digit. -/
def natural? (text : List Char) : Option Nat :=
  if text ≠ [] ∧ text.all isDigit then some (value text) else none

/-- A row of digits after an optional plus sign. -/
def unsigned? : List Char → Option Nat
  | '+' :: text => natural? text
  | text => natural? text

/-- A row of digits after an optional sign. -/
def signed? : List Char → Option Int
  | '-' :: text => (natural? text).map fun magnitude => -(magnitude : Int)
  | text => (unsigned? text).map fun magnitude => (magnitude : Int)

/-- An unsigned numeral that is at most `high`. -/
def upTo? (high : Nat) (text : List Char) : Option Nat :=
  (unsigned? text).filter (· ≤ high)

/-- A signed numeral between `low` and `high`. -/
def between? (low high : Int) (text : List Char) : Option Int :=
  (signed? text).filter fun number => low ≤ number && number ≤ high

def int32? (text : List Char) : Option Int32 :=
  (between? (-2147483648) 2147483647 text).map Int32.ofInt

/-- The digits of a natural number, without leading zeros. -/
def ofNat (number : Nat) : List Char :=
  Nat.toDigits 10 number

/-- The shortest spelling: a minus sign for a negative number, and no plus sign. -/
def ofInt : Int → List Char
  | .ofNat number => ofNat number
  | .negSucc number => '-' :: ofNat (number + 1)

end Numeral
end DatagramShell
