import EntitySearch.Numeric.BinaryFormat

/-!
# Shortest decimals

Among the decimals that read back as a given member of a binary format, the
shortest ones have the fewest digits; of two with equally few digits the nearer
one is taken.  The search tries the two neighbours of the value on the decimal
grids of one digit, two digits, and so on.
-/

namespace EntitySearch.Numeric

/-- A positive decimal: a coefficient and the power of ten that it is multiplied with. -/
structure Decimal where
  coefficient : Nat
  exponent : Int
deriving Repr, DecidableEq

namespace BinaryFormat

/-- The decimal exponent of the first digit of a positive number of units. -/
def leadingExponent (format : BinaryFormat) (units : Nat) : Int :=
  (digitCount (units * Nat.pow 10 format.unitPlaces / format.unitsOfOne) : Int) - 1 -
    format.unitPlaces

/-- The decimal of a grid of `count` digits, where a coefficient with one digit more is a
power of ten. -/
def onGrid (count coefficient : Nat) (exponent : Int) : Decimal :=
  if coefficient = Nat.pow 10 count then ⟨Nat.pow 10 (count - 1), exponent + 1⟩
  else ⟨coefficient, exponent⟩

/-- The neighbour of a member on the grid of `count` digits that reads back as the member;
the nearer one if both do. -/
def readBackOn? (format : BinaryFormat) (position count : Nat) : Option Decimal :=
  let units := format.units position
  let raise := (count : Int) - 1 - format.leadingExponent units
  let numerator := units * Nat.pow 10 raise.toNat
  let denominator := format.unitsOfOne * Nat.pow 10 (-raise).toNat
  let lower := numerator / denominator
  let readsBack := fun coefficient => format.nearestDecimal coefficient (-raise) = position
  let lowerIsNearer := 2 * (numerator % denominator) ≤ denominator
  if readsBack lower && (lowerIsNearer || !readsBack (lower + 1)) then
    some (onGrid count lower (-raise))
  else if readsBack (lower + 1) then some (onGrid count (lower + 1) (-raise))
  else none

/-- The shortest decimal that reads back as a member, searched on grids of at least
`count` digits. -/
def shortestFrom (format : BinaryFormat) (position : Nat) : Nat → Nat → Decimal
  | 0, count => (format.readBackOn? position count).getD ⟨0, 0⟩
  | tries + 1, count =>
      match format.readBackOn? position count with
      | some decimal => decimal
      | none => shortestFrom format position tries (count + 1)

/-- The shortest decimal that reads back as a positive finite member. -/
def shortest (format : BinaryFormat) (position : Nat) : Decimal :=
  format.shortestFrom position format.precision 1

end BinaryFormat

/-- The number of digits before the point; below zero, the number of zeros between the point
and the first digit. -/
def Decimal.point (decimal : Decimal) : Int :=
  digitCount decimal.coefficient + decimal.exponent

/-- A decimal without exponent: the digits with zeros behind or before them, and a point
where there are places behind it. -/
def Decimal.plain (decimal : Decimal) : List Char :=
  let digits := Nat.toDigits 10 decimal.coefficient
  if 0 ≤ decimal.exponent then digits ++ List.replicate decimal.exponent.toNat '0'
  else
    let places := (-decimal.exponent).toNat
    let padded := List.replicate (places + 1 - digits.length) '0' ++ digits
    let whole := padded.length - places
    padded.take whole ++ '.' :: padded.drop whole

end EntitySearch.Numeric
