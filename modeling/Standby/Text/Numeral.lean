/-!
# Decimal numerals

Numbers written with the ten ASCII digits.
-/
namespace Standby.Text

/-- The number that decimal digits write. -/
def decimalValue (digits : List Char) : Nat :=
  digits.foldl (fun value digit => value * 10 + (digit.toNat - 48)) 0

/-- The number of a text of digits alone. -/
def natural? (chars : List Char) : Option Nat :=
  if !chars.isEmpty && chars.all Char.isDigit then some (decimalValue chars) else none

/-- The number of a text of digits that a plus sign may precede. -/
def unsigned? : List Char → Option Nat
  | '+' :: digits => natural? digits
  | digits => natural? digits

/-- The number of a text of digits that a sign may precede. -/
def signed? : List Char → Option Int
  | '-' :: digits => (natural? digits).map fun value => -(value : Int)
  | chars => (unsigned? chars).map Int.ofNat

/-- The digits of a number, after the sign of a negative one. -/
def decimalText : Int → List Char
  | .ofNat value => Nat.toDigits 10 value
  | .negSucc value => '-' :: Nat.toDigits 10 (value + 1)

end Standby.Text
