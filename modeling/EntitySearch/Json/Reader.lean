import EntitySearch.Json.QuotedText
import EntitySearch.Json.Value

/-!
# Reading JSON

Readers take the characters of a text and give back a value together with the
characters behind it.  Nesting is bounded by an allowance that starts at the
length of the text, which no text exceeds.
-/

namespace EntitySearch.Json

/-- Blanks between the parts of a JSON text. -/
def isBlank (character : Char) : Bool :=
  character == ' ' || character == '\n' || character == '\r' || character == '\t'

def digitsValue (digits : List Char) : Nat :=
  digits.foldl (fun value digit => 10 * value + (digit.toNat - '0'.toNat)) 0

/-- The digits at the front of a text and what follows them. -/
def spanDigits (source : List Char) : List Char × List Char :=
  (source.takeWhile Char.isDigit, source.dropWhile Char.isDigit)

/-- The whole part of a number: a zero, or digits that do not begin with one. -/
def wholePart? (source : List Char) : Option (List Char × List Char) :=
  match spanDigits source with
  | ([], _) => none
  | ('0' :: _ :: _, _) => none
  | parts => some parts

/-- The digits behind a point; no digits where there is no point. -/
def fractionPart? : List Char → Option (Option (List Char) × List Char)
  | '.' :: source =>
      match spanDigits source with
      | ([], _) => none
      | (digits, rest) => some (some digits, rest)
  | source => some (none, source)

/-- The exponent behind its letter; none where there is no letter. -/
def exponentPart? : List Char → Option (Option Int × List Char)
  | letter :: source =>
      if letter == 'e' || letter == 'E' then
        let (negative, digits) := match source with
          | '-' :: digits => (true, digits)
          | '+' :: digits => (false, digits)
          | digits => (false, digits)
        match spanDigits digits with
        | ([], _) => none
        | (digits, rest) =>
            let value : Int := digitsValue digits
            some (some (if negative then -value else value), rest)
      else some (none, letter :: source)
  | [] => some (none, [])

def numberOfParts (negative : Bool) (whole : List Char) (fraction : Option (List Char))
    (exponent : Option Int) : JsonNumber :=
  match fraction, exponent with
  | none, none => .integer negative (digitsValue whole)
  | _, _ =>
      let places := (fraction.getD []).length
      .decimal negative (digitsValue (whole ++ fraction.getD []))
        (exponent.getD 0 - places)

/-- A number without its sign. -/
def readUnsigned? (negative : Bool) (source : List Char) : Option (JsonNumber × List Char) := do
  let (whole, rest) ← wholePart? source
  let (fraction, rest) ← fractionPart? rest
  let (exponent, rest) ← exponentPart? rest
  return (numberOfParts negative whole fraction exponent, rest)

def readNumber? : List Char → Option (JsonNumber × List Char)
  | '-' :: source => readUnsigned? true source
  | source => readUnsigned? false source

mutual

/-- A value behind any blanks. -/
def readValue? : Nat → List Char → Option (Json × List Char)
  | 0, _ => none
  | allowance + 1, source =>
      match source.dropWhile isBlank with
      | 'n' :: 'u' :: 'l' :: 'l' :: rest => some (.null, rest)
      | 't' :: 'r' :: 'u' :: 'e' :: rest => some (.bool true, rest)
      | 'f' :: 'a' :: 'l' :: 's' :: 'e' :: rest => some (.bool false, rest)
      | '"' :: rest => (QuotedText.split? rest).map fun (written, rest) => (.text written, rest)
      | '[' :: rest =>
          match rest.dropWhile isBlank with
          | ']' :: rest => some (.array [], rest)
          | _ => (readElements? allowance rest).map fun (elements, rest) =>
              (.array elements, rest)
      | '\x7b' :: rest =>
          match rest.dropWhile isBlank with
          | '\x7d' :: rest => some (.object [], rest)
          | _ => (readMembers? allowance rest).map fun (members, rest) =>
              (.object members, rest)
      | rest => (readNumber? rest).map fun (value, rest) => (.number value, rest)

/-- The elements of an array up to its closing bracket; there is at least one. -/
def readElements? : Nat → List Char → Option (List Json × List Char)
  | 0, _ => none
  | allowance + 1, source =>
      match readValue? allowance source with
      | none => none
      | some (element, rest) =>
          match rest.dropWhile isBlank with
          | ',' :: rest => (readElements? allowance rest).map fun (elements, rest) =>
              (element :: elements, rest)
          | ']' :: rest => some ([element], rest)
          | _ => none

/-- The members of an object up to its closing brace; there is at least one. -/
def readMembers? : Nat → List Char → Option (List (List Char × Json) × List Char)
  | 0, _ => none
  | allowance + 1, source =>
      match source.dropWhile isBlank with
      | '"' :: rest =>
          match QuotedText.split? rest with
          | none => none
          | some (name, rest) =>
              match rest.dropWhile isBlank with
              | ':' :: rest =>
                  match readValue? allowance rest with
                  | none => none
                  | some (value, rest) =>
                      match rest.dropWhile isBlank with
                      | ',' :: rest =>
                          (readMembers? allowance rest).map fun (members, rest) =>
                            ((name, value) :: members, rest)
                      | '\x7d' :: rest => some ([(name, value)], rest)
                      | _ => none
              | _ => none
      | _ => none

end

/-- The value that makes up a whole text, blanks around it apart. -/
def read? (source : List Char) : Option Json :=
  match readValue? (source.length + 1) source with
  | some (value, rest) => if (rest.dropWhile isBlank).isEmpty then some value else none
  | none => none

end EntitySearch.Json
