import EntitySearch.Query.Syntax

/-!
# The lexicon of queries

The parts of a query that are read without regard to blanks: operators, field
names, bounds, leaves and boosts.  Each reader takes the characters of the query
and gives back what it has read together with the characters behind it.
-/

namespace EntitySearch.Query

/-- Blanks that may stand between the parts of a query. -/
def isBlank (character : Char) : Bool :=
  character == ' ' || character == '\t' || character == '\r' || character == '\n'

/-- The characters of the syntax, which stand for themselves only behind a backslash. -/
def isSpecial (character : Char) : Bool :=
  ['(', ')', '[', ']', '\x7b', '\x7d', '"', ':', '^', '*', '?', '!'].contains character

/-- Whether the character can stand in a term without a backslash. -/
def isPlain (character : Char) : Bool :=
  !isBlank character && !isSpecial character

/-- Whether a term can go on with these characters. -/
def startsTermCharacter : List Char → Bool
  | [] => false
  | character :: _ => isPlain character

def skipBlanks (source : List Char) : List Char :=
  source.dropWhile isBlank

/-- The longest run of plain and escaped characters. -/
def spanTerm : List Char → List Char × List Char
  | [] => ([], [])
  | '\\' :: character :: rest =>
      let (run, rest) := spanTerm rest
      ('\\' :: character :: run, rest)
  | character :: rest =>
      if isPlain character then
        let (run, rest) := spanTerm rest
        (character :: run, rest)
      else ([], character :: rest)

def isWildcardSign (character : Char) : Bool :=
  character == '*' || character == '?'

/-- The longest run of plain and escaped characters and wildcard signs. -/
def spanWildcard : List Char → List Char × List Char
  | [] => ([], [])
  | '\\' :: character :: rest =>
      let (run, rest) := spanWildcard rest
      ('\\' :: character :: run, rest)
  | character :: rest =>
      if isPlain character || isWildcardSign character then
        let (run, rest) := spanWildcard rest
        (character :: run, rest)
      else ([], character :: rest)

def afterLiteral? : List Char → List Char → Option (List Char)
  | [], source => some source
  | _ :: _, [] => none
  | expected :: literal, character :: source =>
      if expected = character then afterLiteral? literal source else none

/-- The characters behind a word that no term continues. -/
def afterWord? (keyword source : List Char) : Option (List Char) :=
  match afterLiteral? keyword source with
  | some rest => if startsTermCharacter rest then none else some rest
  | none => none

/-- The characters behind the operator of a conjunction. -/
def afterAnd? (source : List Char) : Option (List Char) :=
  (afterLiteral? ['&', '&'] source).or (afterWord? ['A', 'N', 'D'] source)

/-- The characters behind the operator of a disjunction. -/
def afterOr? (source : List Char) : Option (List Char) :=
  (afterLiteral? ['|', '|'] source).or (afterWord? ['O', 'R'] source)

/-- Whether one of the operator words stands here. -/
def startsKeyword (source : List Char) : Bool :=
  (afterWord? ['A', 'N', 'D'] source).isSome || (afterWord? ['O', 'R'] source).isSome ||
    (afterWord? ['N', 'O', 'T'] source).isSome

def readModifier (source : List Char) : Option Modifier × List Char :=
  match source with
  | '+' :: rest => (some .must, rest)
  | '-' :: rest => (some .mustNot, rest)
  | '!' :: rest => (some .mustNot, rest)
  | _ =>
      match afterWord? ['N', 'O', 'T'] source with
      | some rest => (some .mustNot, rest)
      | none => (none, source)

/-- Whether the character can stand in a field name. -/
def isNameCharacter (character : Char) : Bool :=
  character.isAlphanum || character == '_'

/-- A field name and its colon, with the blanks around the colon. -/
def readFieldName? (source : List Char) : Option (List Char × List Char) :=
  let name := source.takeWhile isNameCharacter
  if name.isEmpty then none
  else
    match skipBlanks (source.dropWhile isNameCharacter) with
    | ':' :: rest => some (name, skipBlanks rest)
    | _ => none

/-- The characters of a phrase behind its opening quote, and what follows the closing
one. -/
def splitPhrase? : List Char → Option (List Char × List Char)
  | [] => none
  | '"' :: rest => some ([], rest)
  | '\\' :: character :: rest =>
      (splitPhrase? rest).map fun (text, rest) => ('\\' :: character :: text, rest)
  | character :: rest =>
      (splitPhrase? rest).map fun (text, rest) => (character :: text, rest)

/-- A wildcard: a run with at least one wildcard sign. -/
def readWildcard? (source : List Char) : Option (Leaf × List Char) :=
  match spanTerm source with
  | (lead, sign :: rest) =>
      if isWildcardSign sign then
        let (tail, rest) := spanWildcard rest
        some (⟨.wildcard, lead ++ sign :: tail⟩, rest)
      else none
  | (_, []) => none

/-- A term: a run without wildcard sign that is no operator word. -/
def readTerm? (source : List Char) : Option (Leaf × List Char) :=
  if startsKeyword source then none
  else
    match spanTerm source with
    | ([], _) => none
    | (run, rest) => some (⟨.term, run⟩, rest)

def readLeaf? (source : List Char) : Option (Leaf × List Char) :=
  match source with
  | '"' :: rest => (splitPhrase? rest).map fun (text, rest) => (⟨.phrase, text⟩, rest)
  | _ => (readWildcard? source).or (readTerm? source)

def isBoundCharacter (character : Char) : Bool :=
  !isBlank character && character != ']' && character != '\x7d'

/-- The bound of a range, with the blanks behind it. -/
def readBound? (source : List Char) : Option (List Char × List Char) :=
  let bound := source.takeWhile isBoundCharacter
  if bound.isEmpty then none
  else some (bound, skipBlanks (source.dropWhile isBoundCharacter))

/-- The bounds of a range behind its opening bracket. -/
def readBounds? (source : List Char) : Option ((List Char × List Char) × List Char) := do
  let (lower, rest) ← readBound? (skipBlanks source)
  let rest ← afterLiteral? ['T', 'O'] rest
  let (upper, rest) ← readBound? (skipBlanks rest)
  match rest with
  | ']' :: rest => return ((lower, upper), rest)
  | '\x7d' :: rest => return ((lower, upper), rest)
  | _ => none

/-- A range in brackets of either kind. -/
def readRange? (source : List Char) : Option ((List Char × List Char) × List Char) :=
  match source with
  | '[' :: rest => readBounds? rest
  | '\x7b' :: rest => readBounds? rest
  | _ => none

/-- The fraction of a boost; a point without digits is none. -/
def readFraction (source : List Char) : Option (List Char) × List Char :=
  match source with
  | '.' :: rest =>
      let digits := rest.takeWhile Char.isDigit
      if digits.isEmpty then (none, source)
      else (some digits, rest.dropWhile Char.isDigit)
  | _ => (none, source)

/-- A boost; none where no caret with a digit stands. -/
def readBoost (source : List Char) : Option Boost × List Char :=
  match source with
  | '^' :: rest =>
      let whole := rest.takeWhile Char.isDigit
      if whole.isEmpty then (none, source)
      else
        let (fraction, rest) := readFraction (rest.dropWhile Char.isDigit)
        (some ⟨whole, fraction⟩, rest)
  | _ => (none, source)

end EntitySearch.Query
