import EntitySearch.Numeric.Shortest

/-!
# Double-precision numbers

Numbers in settings are 64-bit binary floating-point numbers.  They are read
from decimals, turned into integers by rounding, and shown without exponent by
the shortest digits that read back.
-/

namespace EntitySearch.Numeric

/-- A 64-bit floating-point number: its sign and its place among the non-negative
members of the format; places behind infinity stand for no number. -/
structure Double where
  negative : Bool
  magnitude : Nat
deriving Repr, DecidableEq

namespace Double

def infinity (negative : Bool) : Double := ⟨negative, BinaryFormat.double.infinity⟩

/-- The value that stands for no number. -/
def notANumber : Double :=
  ⟨false, BinaryFormat.double.infinity + BinaryFormat.double.binadeSize / 2⟩

def ofDecimal (negative : Bool) (coefficient : Nat) (exponent : Int) : Double :=
  ⟨negative, BinaryFormat.double.nearestDecimal coefficient exponent⟩

def isNaN (value : Double) : Bool :=
  BinaryFormat.double.infinity < value.magnitude

def isInfinite (value : Double) : Bool :=
  value.magnitude == BinaryFormat.double.infinity

def isZero (value : Double) : Bool :=
  value.magnitude == 0

/-- The nearest unsigned 64-bit integer, halves away from zero; what is below the range
becomes zero, what is above it the greatest integer, and no number becomes zero. -/
def toUnsigned (value : Double) : UInt64 :=
  if value.isNaN || value.negative then 0
  else if value.isInfinite then -1
  else
    let units := BinaryFormat.double.units value.magnitude
    let unit := BinaryFormat.double.unitsOfOne
    let rounded := (2 * units + unit) / (2 * unit)
    if rounded < UInt64.size then UInt64.ofNat rounded else -1

/-- The number without exponent. -/
def plainText (value : Double) : String :=
  let sign := if value.negative then "-" else ""
  if value.isNaN then "NaN"
  else if value.isInfinite then sign ++ "inf"
  else if value.isZero then sign ++ "0"
  else
    sign ++ String.ofList (BinaryFormat.double.shortest value.magnitude).plain

end Double

end EntitySearch.Numeric
