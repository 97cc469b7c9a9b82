/-!
# JSON values

A JSON value as it is written.  Numbers keep the difference between an integer
and a decimal, texts keep their escapes, and objects keep every member in order,
repeated names included, because the readers of messages and settings judge all
of these.
-/

namespace EntitySearch

/-- A number as it is written: an integer literal, or a decimal with a point or an
exponent. -/
inductive JsonNumber
  | integer (negative : Bool) (value : Nat)
  | decimal (negative : Bool) (coefficient : Nat) (exponent : Int)
deriving Repr, DecidableEq

/-- A JSON value.  Texts and member names are the characters between the quotes. -/
inductive Json
  | null
  | bool (value : Bool)
  | number (value : JsonNumber)
  | text (written : List Char)
  | array (elements : List Json)
  | object (members : List (List Char × Json))
deriving Repr, Inhabited

end EntitySearch
