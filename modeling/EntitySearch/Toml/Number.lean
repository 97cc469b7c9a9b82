import EntitySearch.Numeric.DoubleText
import EntitySearch.Toml.Value

/-!
# Numbers in TOML

Digits may be separated by single underscores.  A decimal integer has no leading
zero; hexadecimal, octal and binary integers have a mark in front and no sign.
Integers have 64 bits.  A float has a fraction, an exponent or both, or it is one
of the words for infinity and for no number.
-/

namespace EntitySearch.TomlNumber

/-- The digits at the front of a text, separated by single underscores, and the rest; none
where the text does not begin with a digit or an underscore is not followed by one. -/
def separatedDigits? (isDigit : Char → Bool) : List Char → Option (List Char × List Char)
  | [] => none
  | digit :: rest =>
      if isDigit digit then
        match rest with
        | '_' :: behind =>
            (separatedDigits? isDigit behind).map fun (digits, rest) => (digit :: digits, rest)
        | next :: behind =>
            if isDigit next then
              (separatedDigits? isDigit (next :: behind)).map fun (digits, rest) =>
                (digit :: digits, rest)
            else some ([digit], next :: behind)
        | [] => some ([digit], [])
      else none

/-- The value of a digit of any base up to sixteen. -/
def digitValue (digit : Char) : Nat :=
  if digit.isDigit then digit.toNat - '0'.toNat
  else digit.toLower.toNat - 'a'.toNat + 10

def isDigitOf (base : Nat) (digit : Char) : Bool :=
  (digit.isDigit || ('a' ≤ digit.toLower && digit.toLower ≤ 'f')) && digitValue digit < base

def digitsValue (base : Nat) (digits : List Char) : Nat :=
  digits.foldl (fun value digit => base * value + digitValue digit) 0

/-- An integer of 64 bits. -/
def integer? (value : Int) : Option Toml :=
  if Int64.minValue.toInt ≤ value ∧ value ≤ Int64.maxValue.toInt then some (.integer value) else none

/-- An integer of a base behind its mark. -/
def basedInteger? (base : Nat) (source : List Char) : Option (Toml × List Char) := do
  let (digits, rest) ← separatedDigits? (isDigitOf base) source
  return (← integer? (digitsValue base digits), rest)

/-- The digits of a whole part: a zero, or digits that do not begin with one. -/
def wholePart? : List Char → Option (List Char × List Char)
  | '0' :: rest => some (['0'], rest)
  | source => separatedDigits? Char.isDigit source

/-- The exponent behind its letter, sign included, and the rest. -/
def exponentPart? : List Char → Option (List Char × List Char)
  | letter :: rest =>
      if letter == 'e' || letter == 'E' then
        let sign := rest.takeWhile fun character => character == '+' || character == '-'
        if 1 < sign.length then none
        else
          (separatedDigits? Char.isDigit (rest.drop sign.length)).map fun (digits, rest) =>
            ('e' :: sign ++ digits, rest)
      else none
  | [] => none

/-- The fraction behind its point, point included, and the rest. -/
def fractionPart? : List Char → Option (List Char × List Char)
  | '.' :: rest =>
      (separatedDigits? Char.isDigit rest).map fun (digits, rest) => ('.' :: digits, rest)
  | _ => none

/-- A float; one beyond the greatest number is refused. -/
def float? (sign : List Char) (number : List Char) : Option Toml :=
  match Numeric.Double.ofText? (sign ++ number) with
  | some value =>
      if value.isInfinite && !value.negative then none else some (.float value)
  | none => none

/-- A number without the sign in front of it. -/
def readUnsigned? (sign : List Char) (source : List Char) : Option (Toml × List Char) :=
  match source with
  | 'i' :: 'n' :: 'f' :: rest => some (.float (Numeric.Double.infinity (sign == ['-'])), rest)
  | 'n' :: 'a' :: 'n' :: rest => some (.float Numeric.Double.notANumber, rest)
  | _ => do
      let (whole, rest) ← wholePart? source
      match fractionPart? rest with
      | some (fraction, behind) =>
          match exponentPart? behind with
          | some (exponent, rest) =>
              return (← float? sign (whole ++ fraction ++ exponent), rest)
          | none => return (← float? sign (whole ++ fraction), behind)
      | none =>
          match exponentPart? rest with
          | some (exponent, rest) => return (← float? sign (whole ++ exponent), rest)
          | none =>
              let value : Int := digitsValue 10 whole
              return (← integer? (if sign == ['-'] then -value else value), rest)

def read? : List Char → Option (Toml × List Char)
  | '0' :: 'x' :: rest => basedInteger? 16 rest
  | '0' :: 'o' :: rest => basedInteger? 8 rest
  | '0' :: 'b' :: rest => basedInteger? 2 rest
  | '+' :: rest => readUnsigned? ['+'] rest
  | '-' :: rest => readUnsigned? ['-'] rest
  | source => readUnsigned? [] source

end EntitySearch.TomlNumber
