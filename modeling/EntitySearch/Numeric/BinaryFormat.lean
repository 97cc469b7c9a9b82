import EntitySearch.Numeric.Rounding

/-!
# Binary floating-point formats

The non-negative members of a binary interchange format are numbered in
ascending order by their bit patterns: zero is 0, the least positive number is
1, and infinity follows the largest finite number.  A finite member is a whole
multiple of the least positive one, which is called its number of units, so
that every exact operation on members is one on natural numbers.
-/

namespace EntitySearch.Numeric

/-- A binary format: how many significant bits its numbers have, how many binades they
span, and the place of the least positive number, `2 ^ -unitPlaces`. -/
structure BinaryFormat where
  precision : Nat
  binades : Nat
  unitPlaces : Nat
deriving Repr, DecidableEq

namespace BinaryFormat

/-- The 32-bit format. -/
def single : BinaryFormat := ⟨24, 254, 149⟩

/-- The 64-bit format. -/
def double : BinaryFormat := ⟨53, 2046, 1074⟩

variable (format : BinaryFormat)

def binadeSize : Nat := Nat.pow 2 (format.precision - 1)

def unitsOfOne : Nat := Nat.pow 2 format.unitPlaces

/-- The position of infinity among the non-negative members. -/
def infinity : Nat := (format.binades + 1) * format.binadeSize

/-- The value of the finite member at a position, in units. -/
def units (position : Nat) : Nat :=
  if position < format.binadeSize then position
  else
    (format.binadeSize + position % format.binadeSize) *
      Nat.pow 2 (position / format.binadeSize - 1)

/-- The position of the member nearest to `numerator / denominator` units, with ties to
the even position; infinity when the value is beyond every finite member. -/
def nearest (numerator denominator : Nat) : Nat :=
  let whole := numerator / denominator
  let shift := whole.log2 + 1 - format.precision
  min format.infinity
    (shift * format.binadeSize + roundHalfEven numerator (denominator * Nat.pow 2 shift))

/-- Beyond this many decimal places before or after the point every decimal is infinite
or zero in the format. -/
def decimalReach : Nat := format.unitPlaces + 60

/-- The position of the member nearest to `coefficient * 10 ^ exponent`. -/
def nearestDecimal (coefficient : Nat) (exponent : Int) : Nat :=
  let size := digitCount coefficient + exponent
  if coefficient = 0 then 0
  else if size > format.decimalReach then format.infinity
  else if size < -(format.decimalReach : Int) then 0
  else
    format.nearest (coefficient * Nat.pow 10 exponent.toNat * format.unitsOfOne)
      (Nat.pow 10 (-exponent).toNat)

end BinaryFormat

end EntitySearch.Numeric
