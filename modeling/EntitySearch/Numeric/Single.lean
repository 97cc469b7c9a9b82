import EntitySearch.Numeric.BinaryFormat

/-!
# Single-precision numbers

Relevance scores are 32-bit binary floating-point numbers.  A number is its
sign together with its position among the non-negative members of the format,
so the standard's total order is a comparison of integers and every operation
rounds one exact rational value.
-/

namespace EntitySearch.Numeric

/-- A 32-bit floating-point number. -/
structure Single where
  negative : Bool
  magnitude : Nat
  magnitude_lt : magnitude < 0x80000000 := by decide
deriving DecidableEq

namespace Single

/-- The number with a sign and a magnitude; a magnitude beyond the format is not a
number. -/
def ofMagnitude (negative : Bool) (magnitude : Nat) : Single :=
  if bounded : magnitude < 0x80000000 then ⟨negative, magnitude, bounded⟩
  else ⟨negative, 0x7FFFFFFF, by decide⟩

def zero : Single := ofMagnitude false 0

def infinity : Single := ofMagnitude false BinaryFormat.single.infinity

/-- The quiet value that stands for no number. -/
def notANumber : Single :=
  ofMagnitude false (BinaryFormat.single.infinity + BinaryFormat.single.binadeSize / 2)

instance : Inhabited Single := ⟨zero⟩

def isNaN (value : Single) : Bool :=
  BinaryFormat.single.infinity < value.magnitude

def isInfinite (value : Single) : Bool :=
  value.magnitude == BinaryFormat.single.infinity

def isFinite (value : Single) : Bool :=
  value.magnitude < BinaryFormat.single.infinity

/-- The absolute value of a finite number, in units of `2 ^ -149`. -/
def units (value : Single) : Nat :=
  BinaryFormat.single.units value.magnitude

/-- The value of a finite number, in units of `2 ^ -149`. -/
def signedUnits (value : Single) : Int :=
  if value.negative then -(value.units : Int) else value.units

/-- The number nearest to `numerator / denominator` units with the given sign. -/
def ofUnits (negative : Bool) (numerator denominator : Nat) : Single :=
  ofMagnitude negative (BinaryFormat.single.nearest numerator denominator)

def ofNat (number : Nat) : Single :=
  ofUnits false (number * BinaryFormat.single.unitsOfOne) 1

def ofRatio (numerator denominator : Nat) : Single :=
  ofUnits false (numerator * BinaryFormat.single.unitsOfOne) denominator

/-- The sum; opposite infinities have none. -/
def add (left right : Single) : Single :=
  if left.isNaN || right.isNaN then notANumber
  else if left.isInfinite then
    if right.isInfinite && left.negative != right.negative then notANumber else left
  else if right.isInfinite then right
  else
    let total := left.signedUnits + right.signedUnits
    if total = 0 then ofMagnitude (left.negative && right.negative) 0
    else ofUnits (total < 0) total.natAbs 1

/-- The product; zero times infinity is not a number. -/
def mul (left right : Single) : Single :=
  let negative := left.negative != right.negative
  if left.isNaN || right.isNaN then notANumber
  else if left.isInfinite || right.isInfinite then
    if left.magnitude = 0 || right.magnitude = 0 then notANumber
    else ofMagnitude negative BinaryFormat.single.infinity
  else
    ofUnits negative (left.units * right.units) BinaryFormat.single.unitsOfOne

/-- The quotient; zero by zero and infinity by infinity are not numbers. -/
def div (left right : Single) : Single :=
  let negative := left.negative != right.negative
  if left.isNaN || right.isNaN then notANumber
  else if left.isInfinite then
    if right.isInfinite then notANumber
    else ofMagnitude negative BinaryFormat.single.infinity
  else if right.isInfinite then ofMagnitude negative 0
  else if right.magnitude = 0 then
    if left.magnitude = 0 then notANumber
    else ofMagnitude negative BinaryFormat.single.infinity
  else
    ofUnits negative (left.units * BinaryFormat.single.unitsOfOne) right.units

instance : Add Single := ⟨add⟩
instance : Mul Single := ⟨mul⟩
instance : Div Single := ⟨div⟩

/-- The place of a value in the standard's total order: from the negative values that
are no numbers, through negative infinity, the numbers with negative zero below positive
zero, and positive infinity, to the positive values that are no numbers. -/
def rank (value : Single) : Int :=
  if value.negative then -1 - (value.magnitude : Int) else value.magnitude

/-- Whether the first value is greater in the sense of numbers: zeros are equal and a
value that is no number is not greater than any other. -/
def exceeds (left right : Single) : Bool :=
  !left.isNaN && !right.isNaN &&
    !(left.magnitude == 0 && right.magnitude == 0) && right.rank < left.rank

/-- The larger of two values, where a value that is no number gives way to the other.  Zeros of
both signs are equal, and of equal values the first is given. -/
def larger (left right : Single) : Single :=
  if left.isNaN || right.exceeds left then right else left

/-- What the larger of two values may be when of two zeros either may be given. -/
def MayBeLarger (left right value : Single) : Prop :=
  value = left.larger right ∨ left.magnitude = 0 ∧ right.magnitude = 0 ∧ value = right

/-- The number nearest to an unsigned decimal. -/
def ofDecimal (coefficient : Nat) (exponent : Int) : Single :=
  ofMagnitude false (BinaryFormat.single.nearestDecimal coefficient exponent)

/-- The number nearest to the double-precision number nearest to a decimal, or nothing
when the decimal is beyond double precision. -/
def ofDoubleDecimal? (negative : Bool) (coefficient : Nat) (exponent : Int) : Option Single :=
  let position := BinaryFormat.double.nearestDecimal coefficient exponent
  if position = BinaryFormat.double.infinity then none
  else
    some (ofUnits negative
      (BinaryFormat.double.units position * BinaryFormat.single.unitsOfOne)
      BinaryFormat.double.unitsOfOne)

/-- Cancels common factors of two between a number of units and the unit. -/
def cancelTwos : Nat → Nat → Nat × Nat
  | 0, units => (units, 0)
  | places + 1, units =>
      if units % 2 = 0 then cancelTwos places (units / 2) else (units, places + 1)

/-- The absolute value of a finite number as an exact decimal: a coefficient and the
number of places after the point. -/
def exactDecimal (value : Single) : Nat × Nat :=
  let (odd, places) := cancelTwos BinaryFormat.single.unitPlaces value.units
  (odd * Nat.pow 5 places, places)

end Single

end EntitySearch.Numeric
