import EntitySearch.Json.QuotedText
import EntitySearch.Json.Value
import EntitySearch.Numeric.Scientific
import EntitySearch.Numeric.Shortest

/-!
# Writing JSON

A value is written without blanks.  A decimal has a point among its digits, such
as `1.5` or `0.001`, unless the point is far from them; then it stands behind the
first digit and an exponent follows, such as `1.5e-7` or `1e30`.
-/

namespace EntitySearch

namespace JsonNumber

def sign (negative : Bool) : List Char :=
  if negative then ['-'] else []

/-- A decimal is written without an exponent where at most so many digits stand before its
point. -/
def wholeReach : Int := 13

/-- A decimal is written with an exponent where at least so many zeros would stand between
its point and its first digit. -/
def zeroReach : Int := 6

/-- The decimal has places behind the point, and the point is near its digits. -/
def isPlain (decimal : Numeric.Decimal) : Bool :=
  decimal.exponent < 0 && -zeroReach < decimal.point && decimal.point ≤ wholeReach

/-- A decimal with the point behind its first digit. -/
def writeScientific (decimal : Numeric.Decimal) : List Char :=
  Numeric.pointAfterFirst (Nat.toDigits 10 decimal.coefficient) ++
    'e' :: sign (decimal.point - 1 < 0) ++ Nat.toDigits 10 (decimal.point - 1).natAbs

def writeDecimal (decimal : Numeric.Decimal) : List Char :=
  if isPlain decimal then decimal.plain else writeScientific decimal

def write : JsonNumber → List Char
  | .integer negative value => sign negative ++ Nat.toDigits 10 value
  | .decimal negative coefficient exponent =>
      sign negative ++ writeDecimal ⟨coefficient, exponent⟩

end JsonNumber

namespace Json

mutual

def write : Json → List Char
  | .null => "null".toList
  | .bool true => "true".toList
  | .bool false => "false".toList
  | .number value => value.write
  | .text written => '"' :: written ++ ['"']
  | .array elements => '[' :: writeElements elements
  | .object members => '\x7b' :: writeMembers members

/-- The elements of an array with its closing bracket. -/
def writeElements : List Json → List Char
  | [] => [']']
  | [element] => write element ++ [']']
  | element :: next :: rest => write element ++ ',' :: writeElements (next :: rest)

/-- The members of an object with its closing brace. -/
def writeMembers : List (List Char × Json) → List Char
  | [] => ['\x7d']
  | [(name, value)] => '"' :: name ++ '"' :: ':' :: write value ++ ['\x7d']
  | (name, value) :: next :: rest =>
      '"' :: name ++ '"' :: ':' :: write value ++ ',' :: writeMembers (next :: rest)

end

def ofString (value : String) : Json :=
  .text (QuotedText.quote value.toList)

def ofNat (value : Nat) : Json :=
  .number (.integer false value)

def ofInt (value : Int) : Json :=
  .number (.integer (value < 0) value.natAbs)

def ofMembers (members : List (String × Json)) : Json :=
  .object (members.map fun (name, value) => (QuotedText.quote name.toList, value))

def asString? : Json → Option String
  | .text written => (QuotedText.unquote? written).map String.ofList
  | _ => none

/-- The value of an unsigned integer literal of 64 bits; a zero with a minus sign is a
decimal. -/
def asUnsigned? : Json → Option UInt64
  | .number (.integer false value) =>
      if value < UInt64.size then some (UInt64.ofNat value) else none
  | _ => none

/-- The value of a signed integer literal of 64 bits. -/
def asSigned? : Json → Option Int64
  | .number (.integer false value) =>
      if value < UInt64.size / 2 then some (Int64.ofInt value) else none
  | .number (.integer true value) =>
      if 0 < value && value ≤ UInt64.size / 2 then some (Int64.ofInt (-(value : Int))) else none
  | _ => none

def asBool? : Json → Option Bool
  | .bool value => some value
  | _ => none

def asArray? : Json → Option (List Json)
  | .array elements => some elements
  | _ => none

def asMembers? : Json → Option (List (List Char × Json))
  | .object members => some members
  | _ => none

/-- The member of an object with the given name; the last one if the name is repeated. -/
def member? (value : Json) (name : String) : Option Json := do
  let members ← value.asMembers?
  let found ← members.reverse.find? fun entry =>
    QuotedText.unquote? entry.1 == some name.toList
  return found.2

end Json

end EntitySearch
