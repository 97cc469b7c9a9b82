import EntitySearch.Toml.Moment
import EntitySearch.Toml.Number
import EntitySearch.Toml.QuotedText
import EntitySearch.Toml.Table

/-!
# Reading TOML

A document is a list of lines: assignments, headers of tables and of elements of
arrays of tables, and blank lines, each of which may end in a comment.  An array
may span lines and have comments and a comma at its end; an inline table may not.
Nesting is bounded by an allowance that starts at the length of the text.
-/

namespace EntitySearch.Toml

open TomlText

def skipSpaces (source : List Char) : List Char := source.dropWhile isSpace

/-- The text behind a comment, if one begins here; nothing if the comment has a control
character. -/
def skipComment? : List Char → Option (List Char)
  | '#' :: rest =>
      match rest.dropWhile isPrintable with
      | [] => some []
      | next :: behind =>
          if (afterNewline? (next :: behind)).isSome then some (next :: behind) else none
  | rest => some rest

/-- The text behind blanks, comments and line ends. -/
def skipLines? : Nat → List Char → Option (List Char)
  | 0, _ => none
  | allowance + 1, source => do
      let rest ← skipComment? (skipSpaces source)
      match afterNewline? rest with
      | some behind => skipLines? allowance behind
      | none => return rest

/-- Whether the character can stand in a key without quotes. -/
def isKeyCharacter (character : Char) : Bool :=
  character.isAlphanum || character == '_' || character == '-'

def readKeyPart? : List Char → Option (String × List Char)
  | '"' :: rest => (readLineBehind? .basic rest).map fun (key, rest) => (String.ofList key, rest)
  | '\x27' :: rest =>
      (readLineBehind? .literal rest).map fun (key, rest) => (String.ofList key, rest)
  | source =>
      match source.takeWhile isKeyCharacter with
      | [] => none
      | key => some (String.ofList key, source.dropWhile isKeyCharacter)

/-- A dotted key with blanks around its parts: the parts in front, the last one, and the
rest. -/
def readKey? : Nat → List Char → Option (List String × String × List Char)
  | 0, _ => none
  | allowance + 1, source => do
      let (part, rest) ← readKeyPart? (skipSpaces source)
      match skipSpaces rest with
      | '.' :: behind =>
          let (path, key, rest) ← readKey? allowance behind
          return (part :: path, key, rest)
      | rest => return ([], part, rest)

mutual

/-- A value, and the rest. -/
def readValue? : Nat → List Char → Option (Toml × List Char)
  | 0, _ => none
  | _ + 1, [] => none
  | allowance + 1, first :: source =>
      if first == '"' then
        (readBehind? .basic source).map fun (value, rest) => (.text (String.ofList value), rest)
      else if first == '\x27' then
        (readBehind? .literal source).map fun (value, rest) =>
          (.text (String.ofList value), rest)
      else if first == '[' then
        (readElements? allowance source).map fun (elements, rest) => (.array elements, rest)
      else if first == '\x7b' then
        match skipSpaces source with
        | '\x7d' :: rest => some (.table [], rest)
        | source => (readPairs? allowance TomlNode.root source).map fun (node, rest) =>
            (node.finish, rest)
      else
        match first :: source with
        | 't' :: 'r' :: 'u' :: 'e' :: rest => some (.boolean true, rest)
        | 'f' :: 'a' :: 'l' :: 's' :: 'e' :: rest => some (.boolean false, rest)
        | source =>
            match TomlMoment.read? source with
            | some (standard, rest) => some (.moment (String.ofList standard), rest)
            | none => TomlNumber.read? source

/-- The elements of an array up to its closing bracket, and the rest. -/
def readElements? : Nat → List Char → Option (List Toml × List Char)
  | 0, _ => none
  | allowance + 1, source =>
      match skipLines? (source.length + 1) source with
      | none => none
      | some (']' :: rest) => some ([], rest)
      | some source =>
          match readValue? allowance source with
          | none => none
          | some (element, rest) =>
              match skipLines? (rest.length + 1) rest with
              | some (',' :: rest) =>
                  (readElements? allowance rest).map fun (elements, rest) =>
                    (element :: elements, rest)
              | some (']' :: rest) => some ([element], rest)
              | _ => none

/-- The pairs of an inline table up to its closing brace, assigned to a table, and the
rest; there is at least one. -/
def readPairs? : Nat → TomlNode → List Char → Option (TomlNode × List Char)
  | 0, _, _ => none
  | allowance + 1, node, source =>
      match readKey? (source.length + 1) source with
      | some (path, key, '=' :: rest) =>
          match readValue? allowance (skipSpaces rest) with
          | none => none
          | some (value, rest) =>
              match node.assign path key value, skipSpaces rest with
              | some assigned, ',' :: rest => readPairs? allowance assigned rest
              | some assigned, '\x7d' :: rest => some (assigned, rest)
              | _, _ => none
      | _ => none

end

/-- The content of a line, and the rest of the line. -/
def readLine? (source : List Char) : Option (TomlLine × List Char) :=
  match skipSpaces source with
  | [] => some (.blank, [])
  | '#' :: rest => some (.blank, '#' :: rest)
  | '[' :: '[' :: rest => do
      match ← readKey? (rest.length + 1) rest with
      | (path, key, ']' :: ']' :: rest) => return (.element path key, rest)
      | _ => none
  | '[' :: rest => do
      match ← readKey? (rest.length + 1) rest with
      | (path, key, ']' :: rest) => return (.table path key, rest)
      | _ => none
  | source =>
      if (afterNewline? source).isSome then some (.blank, source)
      else
        match readKey? (source.length + 1) source with
        | some (path, key, '=' :: rest) =>
            (readValue? (rest.length + 1) (skipSpaces rest)).map fun (value, rest) =>
              (.assignment path key value, rest)
        | _ => none

/-- The lines of a document. -/
def readLines? : Nat → List Char → Option (List TomlLine)
  | 0, _ => none
  | allowance + 1, source => do
      let (line, rest) ← readLine? source
      match ← skipComment? (skipSpaces rest) with
      | [] => return [line]
      | rest => return line :: (← readLines? allowance (← afterNewline? rest))

/-- The text without a byte order mark in front. -/
def dropByteOrderMark : List Char → List Char
  | '\uFEFF' :: rest => rest
  | source => source

/-- The table that a document describes. -/
def read? (source : List Char) : Option Toml := do
  let text := dropByteOrderMark source
  TomlBuilder.build? (← readLines? (text.length + 1) text)

end EntitySearch.Toml
