import BroadcastHub.Numeral.Binary64

/-!
# Shortest decimals

A floating-point number is written with the fewest significant digits that read
back to it; among decimals of that length the one nearest to the number is
taken.  `Magnitude.shortest` tries one digit, two digits and so on.  On each
grid only the two neighbours of the number can be candidates, because the
decimals that read back form an interval around it.
-/

namespace BroadcastHub.Numeral

/-- The decimal `digits * 10 ^ power`. -/
structure ShortDecimal where
  digits : Nat
  power : Int
deriving DecidableEq, Repr

namespace Magnitude

/-- Whether a decimal is read as this magnitude. -/
def readsBack (magnitude : Magnitude) (decimal : ShortDecimal) : Bool :=
  nearest? (decimal.digits * tenTo decimal.power.toNat)
    (tenTo (-decimal.power).toNat) =
    some magnitude

/-- The power of ten of a positive magnitude's first digit, at most one too
small. -/
def decimalScale (magnitude : Magnitude) : Int :=
  let binary : Int := magnitude.numerator.log2 - magnitude.denominator.log2
  (binary - 1) * 30103 / 100000

/-- The two neighbours of a magnitude among the multiples of `10 ^ power`, the
nearer one first and on a tie the even one. -/
def neighbours (magnitude : Magnitude) (power : Int) : List ShortDecimal :=
  let numerator := magnitude.numerator * tenTo (-power).toNat
  let denominator := magnitude.denominator * tenTo power.toNat
  let below := numerator / denominator
  let nearer := roundedQuotient numerator denominator
  [⟨nearer, power⟩, ⟨if nearer = below then below + 1 else below, power⟩]

/-- The neighbour that reads back on the coarsest of at most `count` grids, from
`10 ^ power` downwards. -/
def search (magnitude : Magnitude) :
    (count : Nat) → (power : Int) → Option ShortDecimal
  | 0, _ => none
  | count + 1, power =>
      match (magnitude.neighbours power).find? fun decimal =>
          decimal.digits ≠ 0 && magnitude.readsBack decimal with
      | some decimal => some decimal
      | none => search magnitude count (power - 1)

/-- The shortest decimal that reads back to a positive magnitude. -/
def shortest (magnitude : Magnitude) : ShortDecimal :=
  (magnitude.search 20 (magnitude.decimalScale + 2)).getD ⟨0, 0⟩

end Magnitude

/-- How numbers with digits `d₁d₂…` and a decimal point after `point` of them
are laid out. -/
structure NumberLayout where
  /-- The greatest point position that is still written in full. -/
  widest : Int
  /-- Point positions above this one are still written with leading zeros. -/
  narrowest : Int

/-- JSON numbers are written in full from `0.00001` up to sixteen digits before
the point. -/
def jsonLayout : NumberLayout := ⟨16, -5⟩

def signedText (value : Int) : String :=
  if value < 0 then "-" ++ Nat.repr value.natAbs
    else "+" ++ Nat.repr value.natAbs

/-- Lays out digits with the decimal point after `point` of them.  A number
written in full has at least one digit on both sides of the point. -/
def NumberLayout.apply
    (layout : NumberLayout) (digits : List Char) (point : Int) : String :=
  let count : Int := digits.length
  if layout.narrowest < point ∧ point ≤ layout.widest then
    if point ≤ 0 then
      "0." ++ String.ofList (List.replicate (-point).toNat '0' ++ digits)
    else if count ≤ point then
      String.ofList (digits ++ List.replicate (point - count).toNat '0') ++ ".0"
    else
      String.ofList (digits.take point.toNat) ++ "." ++ String.ofList
        (digits.drop point.toNat)
  else
    let mantissa :=
      match digits with
      | first :: second :: rest =>
          String.ofList (first :: '.' :: second :: rest)
      | short => String.ofList short
    mantissa ++ "e" ++ signedText (point - 1)

/-- The shortest text of a floating-point number. -/
def Binary64.text (value : Binary64) : String :=
  let sign := if value.negative then "-" else ""
  if value.magnitude.significand = 0 then sign ++ "0.0"
  else
    let decimal := value.magnitude.shortest
    let digits := Nat.toDigits 10 decimal.digits
    sign ++ jsonLayout.apply digits (decimal.power + digits.length)

end BroadcastHub.Numeral
