import EntitySearch.Numeric.Single

/-!
# Scientific notation

A single-precision number is shown with a fixed number of significant decimal
digits: one before the point, the rest after it, and a decimal exponent without
plus sign or padding.  The digits are those of the exact value, rounded to
nearest with ties to even.
-/

namespace EntitySearch.Numeric

/-- Decimal places by which a positive number is raised so that it has a whole part. -/
def scientificReach : Nat := 60

/-- The decimal exponent of `numerator / denominator`, which must be at least
`10 ^ -scientificReach`. -/
def decimalExponent (numerator denominator : Nat) : Int :=
  (digitCount (numerator * Nat.pow 10 scientificReach / denominator) : Int) - 1 - scientificReach

/-- The first digits of a positive quotient as a whole number with `count` digits, and the
decimal exponent of the first of them. -/
def significantDigits (count numerator denominator : Nat) : Nat × Int :=
  let exponent := decimalExponent numerator denominator
  let raise := (count : Int) - 1 - exponent
  let rounded :=
    roundHalfEven (numerator * Nat.pow 10 raise.toNat) (denominator * Nat.pow 10 (-raise).toNat)
  if rounded = Nat.pow 10 count then (Nat.pow 10 (count - 1), exponent + 1)
  else (rounded, exponent)

def pointAfterFirst : List Char → List Char
  | first :: second :: rest => first :: '.' :: second :: rest
  | digits => digits

/-- The number in scientific notation with `count` significant digits. -/
def Single.scientific (count : Nat) (value : Single) : String :=
  let sign := if value.negative then "-" else ""
  if value.isNaN then "NaN"
  else if value.isInfinite then sign ++ "inf"
  else if value.magnitude = 0 then
    sign ++ String.ofList (pointAfterFirst (List.replicate (max count 1) '0')) ++ "e0"
  else
    let (digits, exponent) :=
      significantDigits (max count 1) value.units BinaryFormat.single.unitsOfOne
    sign ++ String.ofList (pointAfterFirst (Nat.toDigits 10 digits)) ++ "e" ++ toString exponent

end EntitySearch.Numeric
