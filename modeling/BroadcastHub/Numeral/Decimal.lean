/-!
# Decimal numbers in text

The number that a row of ASCII digits stands for, with an optional plus sign in
front of it.
-/

namespace BroadcastHub.Numeral

/-- The number that digits stand for; nothing if there are none or one of them
is not a digit. -/
def ofDigits? (digits : List Char) : Option Nat :=
  if digits.isEmpty ∨ ¬ digits.all Char.isDigit then none
  else
    some (digits.foldl (fun value digit => value * 10 + (digit.toNat - 48)) 0)

/-- The number that a text stands for, which may start with a plus sign. -/
def ofText? (text : String) : Option Nat :=
  match text.toList with
  | '+' :: digits => ofDigits? digits
  | digits => ofDigits? digits

end BroadcastHub.Numeral
