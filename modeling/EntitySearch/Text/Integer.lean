/-!
# Integers in text

Decimal integers of 64 bits.  A plus sign is allowed before an unsigned integer,
either sign before a signed one; leading zeros are allowed, and a text with no
digit, with any other character or with a value outside the 64-bit range is no
integer.
-/

namespace EntitySearch.Text

/-- The value of a digit string, most significant digit first, after `value`. -/
def digitsValue? (value : Nat) : List Char → Option Nat
  | [] => some value
  | digit :: rest =>
      if digit.isDigit then digitsValue? (10 * value + (digit.toNat - '0'.toNat)) rest
      else none

/-- The value of a non-empty digit string. -/
def natural? : List Char → Option Nat
  | [] => none
  | digits => digitsValue? 0 digits

/-- The unsigned 64-bit integer that the text denotes. -/
def unsigned? (text : List Char) : Option UInt64 :=
  let digits := match text with
    | '+' :: digits => digits
    | digits => digits
  match natural? digits with
  | some value => if value < UInt64.size then some (UInt64.ofNat value) else none
  | none => none

/-- The signed 64-bit integer that the text denotes. -/
def signed? (text : List Char) : Option Int64 :=
  let (negative, digits) := match text with
    | '-' :: digits => (true, digits)
    | '+' :: digits => (false, digits)
    | digits => (false, digits)
  match natural? digits with
  | some value =>
      if negative then
        if value ≤ UInt64.size / 2 then some (Int64.ofInt (-(value : Int))) else none
      else if value < UInt64.size / 2 then some (Int64.ofInt value) else none
  | none => none

end EntitySearch.Text
