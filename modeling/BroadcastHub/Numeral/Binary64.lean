import BroadcastHub.Numeral.Power

/-!
# Binary floating point

A finite 64-bit floating-point number is a sign and a significand below `2 ^ 53`
times a power of two.  All arithmetic here is exact arithmetic on natural
numbers followed by one rounding to the nearest such number, a half to the even
significand.
-/

namespace BroadcastHub.Numeral

/-- The size of a finite number: `significand * 2 ^ exponent`.  The exponent is
the least one, or the significand uses all its 53 bits. -/
structure Magnitude where
  significand : Nat
  exponent : Int
deriving DecidableEq, Repr

/-- A finite number; zero has a sign as well. -/
structure Binary64 where
  negative : Bool
  magnitude : Magnitude
deriving DecidableEq, Repr

/-- The quotient rounded to the nearest integer, a half to the even
neighbour. -/
def roundedQuotient (numerator denominator : Nat) : Nat :=
  let whole := numerator / denominator
  let twice := 2 * (numerator % denominator)
  if twice < denominator then whole
  else if denominator < twice then whole + 1
  else if whole % 2 = 0 then whole else whole + 1

namespace Magnitude

def leastExponent : Int := -1074

def greatestExponent : Int := 971

def zero : Magnitude := ⟨0, leastExponent⟩

/-- The numerator of the magnitude as a fraction. -/
def numerator (magnitude : Magnitude) : Nat :=
  magnitude.significand * twoTo magnitude.exponent.toNat

/-- The denominator of the magnitude as a fraction, a power of two. -/
def denominator (magnitude : Magnitude) : Nat :=
  twoTo (-magnitude.exponent).toNat

/-- The exponent at which the significand of a positive fraction has 53 bits, or
the least one. -/
def scale (numerator denominator : Nat) : Int :=
  let guess : Int := numerator.log2 - denominator.log2
  let reached :=
    if denominator * twoTo guess.toNat ≤ numerator * twoTo (-guess).toNat
      then guess else guess - 1
  max (reached - 52) leastExponent

/-- The magnitude nearest to a fraction; nothing if that is past the greatest
one. -/
def nearest? (numerator denominator : Nat) : Option Magnitude :=
  if numerator = 0 then some zero
  else
    let exponent := scale numerator denominator
    let significand :=
      roundedQuotient (numerator * twoTo (-exponent).toNat)
        (denominator * twoTo exponent.toNat)
    let rounded : Magnitude :=
      if significand = twoTo 53 then ⟨twoTo 52, exponent + 1⟩
        else ⟨significand, exponent⟩
    if rounded.exponent ≤ greatestExponent then some rounded else none

/-- The product of two magnitudes, rounded once. -/
def mul? (first second : Magnitude) : Option Magnitude :=
  nearest? (first.numerator * second.numerator)
    (first.denominator * second.denominator)

/-- The quotient of two magnitudes, rounded once. -/
def div? (first second : Magnitude) : Option Magnitude :=
  nearest? (first.numerator * second.denominator)
    (first.denominator * second.numerator)

end Magnitude

end BroadcastHub.Numeral
