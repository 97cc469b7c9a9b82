import EntitySearch.Numeric.Single

/-!
# The natural logarithm

The logarithm of a single-precision number is evaluated in fixed-point
arithmetic with 128 places after the binary point and rounded once, so its
error is the rounding error.  With `value = 2 ^ exponent * mantissa` the
mantissa between one and two contributes twice the area hyperbolic tangent of
`(mantissa - 1) / (mantissa + 1)`, which is at most one third.
-/

namespace EntitySearch.Numeric

/-- The number one in the fixed-point evaluation. -/
def fixedOne : Nat := Nat.pow 2 128

/-- The first terms of the series `t + t³/3 + t⁵/5 + …`, given the current power of `t`,
its square and the current odd divisor, all but the last in fixed point. -/
def areaTangentTerms : Nat → Nat → Nat → Nat → Nat
  | 0, _, _, _ => 0
  | count + 1, power, square, divisor =>
      power / divisor +
        areaTangentTerms count (power * square / fixedOne) square (divisor + 2)

/-- The logarithm of `(denominator + numerator) / (denominator - numerator)` in fixed
point, for a quotient `numerator / denominator` of at most one third. -/
def areaTangentDoubled (numerator denominator : Nat) : Nat :=
  let quotient := numerator * fixedOne / denominator
  2 * areaTangentTerms 42 quotient (quotient * quotient / fixedOne) 1

def Single.naturalLogarithm (value : Single) : Single :=
  if value.isNaN then Single.notANumber
  else if value.magnitude = 0 then Single.ofMagnitude true BinaryFormat.single.infinity
  else if value.negative then Single.notANumber
  else if value.isInfinite then value
  else
    let top := value.units.log2
    let power := Nat.pow 2 top
    let exponent : Int := top - (BinaryFormat.single.unitPlaces : Int)
    let fraction := areaTangentDoubled (value.units - power) (value.units + power)
    let total : Int := fraction + exponent * areaTangentDoubled 1 3
    Single.ofUnits (total < 0) (total.natAbs * BinaryFormat.single.unitsOfOne)
      fixedOne

end EntitySearch.Numeric
