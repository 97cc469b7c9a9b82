/-!
# Rounding a quotient

Binary and decimal output both end in the same step: an exact quotient of two
natural numbers is replaced by the nearest natural number, and a quotient
halfway between two of them by the even one.
-/

namespace EntitySearch.Numeric

/-- The natural number nearest to `numerator / denominator`; a tie goes to the even
neighbour. -/
def roundHalfEven (numerator denominator : Nat) : Nat :=
  let whole := numerator / denominator
  let remainder := numerator % denominator
  if 2 * remainder < denominator then whole
  else if denominator < 2 * remainder then whole + 1
  else whole + whole % 2

theorem roundHalfEven_mul_self (whole denominator : Nat) (positive : 0 < denominator) :
    roundHalfEven (whole * denominator) denominator = whole := by
  simp [roundHalfEven, Nat.mul_div_cancel _ positive, positive]

/-- The number of decimal digits of a natural number; zero has one. -/
def digitCount (number : Nat) : Nat :=
  (Nat.toDigits 10 number).length

end EntitySearch.Numeric
