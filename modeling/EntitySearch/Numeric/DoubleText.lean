import EntitySearch.Numeric.Double

/-!
# Reading double-precision numbers

A number is written with an optional sign, digits with an optional point among,
before or behind them, and an optional exponent; or it is one of the words for
infinity and for no number, in letters of either case.
-/

namespace EntitySearch.Numeric.Double

/-- The text without a sign at its front, and whether that was a minus. -/
def dropSign : List Char → Bool × List Char
  | '-' :: rest => (true, rest)
  | '+' :: rest => (false, rest)
  | rest => (false, rest)

def digitsValue (digits : List Char) : Nat :=
  digits.foldl (fun value digit => 10 * value + (digit.toNat - '0'.toNat)) 0

/-- The digits behind a point, if there is one, and what follows them. -/
def spanFraction : List Char → List Char × List Char
  | '.' :: rest => (rest.takeWhile Char.isDigit, rest.dropWhile Char.isDigit)
  | rest => ([], rest)

/-- The exponent that makes up the rest of a number; zero for no rest. -/
def exponent? : List Char → Option Int
  | [] => some 0
  | letter :: rest =>
      let (negative, digits) := dropSign rest
      if (letter == 'e' || letter == 'E') && !digits.isEmpty && digits.all Char.isDigit then
        some (if negative then -(digitsValue digits : Int) else digitsValue digits)
      else none

/-- The number that a text denotes. -/
def ofText? (source : List Char) : Option Double :=
  let (negative, body) := dropSign source
  let word := body.map Char.toLower
  if word = "inf".toList ∨ word = "infinity".toList then some (infinity negative)
  else if word = "nan".toList then some notANumber
  else
    let whole := body.takeWhile Char.isDigit
    let (fraction, rest) := spanFraction (body.dropWhile Char.isDigit)
    if whole.isEmpty && fraction.isEmpty then none
    else
      (exponent? rest).map fun exponent =>
        ofDecimal negative (digitsValue (whole ++ fraction)) (exponent - fraction.length)

end EntitySearch.Numeric.Double
