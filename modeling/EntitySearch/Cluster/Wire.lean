import EntitySearch.Cluster.Message
import EntitySearch.Json.Reader
import EntitySearch.Json.Writer

/-!
# Messages on the wire

Tasks and answers travel as JSON.  A message is an object with a single member,
whose name tells the kind of message; a message without content may also be the
bare name.  The content of a task is an object of its fields, in any order, with
unknown members ignored, or an array of exactly the fields in order.  Scores are
keyed by the decimal text of the entity identifier and written with the fewest
digits that are read back.  A score that is not finite is written as null, which
is not read as a score.
-/

namespace EntitySearch.Wire

open Numeric (Single)

/-- The value of the single known member of that name: missing and repeated members are
refused. -/
def uniqueMember? (name : String) (members : List (List Char × Json)) : Option Json :=
  match members.filter fun member => QuotedText.unquote? member.1 == some name.toList with
  | [member] => some member.2
  | _ => none

/-- The values of the named fields of a record, in order. -/
def record? (names : List String) : Json → Option (List Json)
  | .object members =>
      if members.all fun member => (QuotedText.unquote? member.1).isSome then
        names.mapM fun name => uniqueMember? name members
      else none
  | .array elements => if elements.length = names.length then some elements else none
  | _ => none

/-- The kind and the content of a message with a single member. -/
def variant? : Json → Option (String × Json)
  | .object [(name, content)] =>
      (QuotedText.unquote? name).map fun name => (String.ofList name, content)
  | _ => none

def taskJson : ClusterTask → Json
  | .count index query =>
      .ofMembers [("Count", .ofMembers [("index", .ofString index), ("query", .ofString query)])]
  | .search index query limit =>
      .ofMembers [("Search", .ofMembers
        [("index", .ofString index), ("query", .ofString query),
         ("limit", .ofNat limit.toNat)])]
  | .deleteProject index project =>
      .ofMembers [("DeleteProject", .ofMembers
        [("index", .ofString index), ("project_id", .ofNat project.toNat)])]

def taskOfJson? (value : Json) : Option ClusterTask :=
  match variant? value with
  | some ("Count", content) =>
      match record? ["index", "query"] content with
      | some [index, query] => do
          let index ← index.asString?
          let query ← query.asString?
          return .count index query
      | _ => none
  | some ("Search", content) =>
      match record? ["index", "query", "limit"] content with
      | some [index, query, limit] => do
          let index ← index.asString?
          let query ← query.asString?
          let limit ← limit.asUnsigned?
          return .search index query limit
      | _ => none
  | some ("DeleteProject", content) =>
      match record? ["index", "project_id"] content with
      | some [index, project] => do
          let index ← index.asString?
          let project ← project.asUnsigned?
          return .deleteProject index project
      | _ => none
  | _ => none

/-- The number with the sign of a literal and the value of an integer. -/
def signedSingle (negative : Bool) (value : Nat) : Single :=
  Single.ofUnits negative (value * Numeric.BinaryFormat.single.unitsOfOne) 1

/-- The score that a JSON value stands for.  An integer of 64 bits is rounded to single
precision at once, any other number by way of double precision. -/
def scoreOfJson? : Json → Option Single
  | .number (.integer false value) =>
      if value < UInt64.size then some (signedSingle false value)
      else Single.ofDoubleDecimal? false value 0
  | .number (.integer true value) =>
      if 0 < value && value ≤ UInt64.size / 2 then some (signedSingle true value)
      else Single.ofDoubleDecimal? true value 0
  | .number (.decimal negative coefficient exponent) =>
      Single.ofDoubleDecimal? negative coefficient exponent
  | _ => none

/-- The exact value of a finite score. -/
def exactLiteral (score : Single) : JsonNumber :=
  .decimal score.negative score.exactDecimal.1 (-(score.exactDecimal.2 : Int))

/-- The shortest decimal of a finite score.  A whole number is written with a zero behind the
point where it is not too long for that. -/
def shortestLiteral (score : Single) : JsonNumber :=
  if score.magnitude = 0 then .decimal score.negative 0 (-1)
  else
    let decimal := Numeric.BinaryFormat.single.shortest score.magnitude
    if 0 ≤ decimal.exponent && decimal.point ≤ JsonNumber.wholeReach then
      .decimal score.negative
        (decimal.coefficient * Nat.pow 10 (decimal.exponent.toNat + 1)) (-1)
    else .decimal score.negative decimal.coefficient decimal.exponent

/-- The literal is read back as the score. -/
def StandsFor (literal : JsonNumber) (score : Single) : Prop :=
  scoreOfJson? (.number literal) = some score

instance (literal : JsonNumber) (score : Single) : Decidable (StandsFor literal score) :=
  inferInstanceAs (Decidable (scoreOfJson? (.number literal) = some score))

/-- A finite score as a number.  Its shortest decimal is chosen for single precision but read
by way of double precision; if that gave another score, the exact value is written. -/
def scoreLiteral (score : Single) : JsonNumber :=
  if StandsFor (shortestLiteral score) score then shortestLiteral score else exactLiteral score

def scoreJson (score : Single) : Json :=
  if score.isFinite then .number (scoreLiteral score) else .null

/-- The identifier that a member name stands for: an integer literal without escapes. -/
def idOfName? (name : List Char) : Option EntityId :=
  match Json.readNumber? name with
  | some (number, []) => (Json.number number).asUnsigned?
  | _ => none

/-- The scores of the members of an object; of a repeated identifier the last. -/
def scoresOfMembers? (members : List (List Char × Json)) : Option ScoredEntities := do
  let entries ← members.mapM fun member => do
    let id ← idOfName? member.1
    let score ← scoreOfJson? member.2
    return (id, score)
  return Table.ofList entries

def responseJson : ClusterResponse → Json
  | .count number => .ofMembers [("Count", .ofNat number.toNat)]
  | .scores hits =>
      .ofMembers [("Scores", .object (hits.entries.map fun hit =>
        (Nat.toDigits 10 hit.1.toNat, scoreJson hit.2)))]
  | .done => .ofString "Done"

def responseOfJson? (value : Json) : Option ClusterResponse :=
  match value with
  | .text written =>
      if QuotedText.unquote? written = some "Done".toList then some .done else none
  | _ =>
      match variant? value with
      | some ("Count", content) => content.asUnsigned?.map .count
      | some ("Scores", .object members) => (scoresOfMembers? members).map .scores
      | some ("Done", .null) => some .done
      | _ => none

def encodeTask (task : ClusterTask) : List Char :=
  (taskJson task).write

def decodeTask? (message : List Char) : Option ClusterTask :=
  (Json.read? message).bind taskOfJson?

def encodeResponse (response : ClusterResponse) : List Char :=
  (responseJson response).write

def decodeResponse? (message : List Char) : Option ClusterResponse :=
  (Json.read? message).bind responseOfJson?

def decodeAddress? (message : List Char) : Option NodeAddress :=
  (Json.read? message).bind Json.asString?

end EntitySearch.Wire
