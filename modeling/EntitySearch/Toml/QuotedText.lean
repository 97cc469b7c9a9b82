/-!
# Quoted texts in TOML

A basic text stands between double quotes and has escapes, a literal text stands
between single quotes and has none.  Either can be written between three quotes
and then spans lines: a line end right behind the opening quotes is dropped, a
line end counts as one line feed, and in a basic text a backslash at the end of a
line joins it to the next character that is not blank.
-/

namespace EntitySearch.TomlText

/-- A quotation mark that delimits a kind of text. -/
inductive Quote
  | basic
  | literal
deriving Repr, DecidableEq

def Quote.mark : Quote → Char
  | .basic => '"'
  | .literal => '\x27'

/-- Whether the character can stand in a text or comment as it is: no control character
but the tab. -/
def isPrintable (character : Char) : Bool :=
  character == '\t' || (' ' ≤ character && character != '\x7f')

/-- Whether the character is blank within a line. -/
def isSpace (character : Char) : Bool :=
  character == ' ' || character == '\t'

/-- The rest behind a line end. -/
def afterNewline? : List Char → Option (List Char)
  | '\n' :: rest => some rest
  | '\r' :: '\n' :: rest => some rest
  | _ => none

def hexValue? (digit : Char) : Option Nat :=
  if digit.isDigit then some (digit.toNat - '0'.toNat)
  else if 'a' ≤ digit && digit ≤ 'f' then some (digit.toNat - 'a'.toNat + 10)
  else if 'A' ≤ digit && digit ≤ 'F' then some (digit.toNat - 'A'.toNat + 10)
  else none

/-- The character with a code point of `count` hexadecimal digits, and the rest. -/
def codePoint? : Nat → Nat → List Char → Option (Char × List Char)
  | 0, value, rest =>
      if value < 0xd800 || (0xdfff < value && value < 0x110000) then
        some (Char.ofNat value, rest)
      else none
  | _ + 1, _, [] => none
  | count + 1, value, digit :: rest => do
      codePoint? count (16 * value + (← hexValue? digit)) rest

/-- The character that an escape behind its backslash stands for, and the rest. -/
def escape? : List Char → Option (Char × List Char)
  | 'b' :: rest => some ('\x08', rest)
  | 't' :: rest => some ('\t', rest)
  | 'n' :: rest => some ('\n', rest)
  | 'f' :: rest => some ('\x0c', rest)
  | 'r' :: rest => some ('\r', rest)
  | '"' :: rest => some ('"', rest)
  | '\\' :: rest => some ('\\', rest)
  | 'u' :: rest => codePoint? 4 0 rest
  | 'U' :: rest => codePoint? 8 0 rest
  | _ => none

/-- The rest of a line text up to its closing mark, and what follows. -/
def lineText? (quote : Quote) : Nat → List Char → Option (List Char × List Char)
  | 0, _ => none
  | _ + 1, [] => none
  | allowance + 1, character :: rest =>
      if character == quote.mark then some ([], rest)
      else if quote == .basic && character == '\\' then do
        let (escaped, rest) ← escape? rest
        let (characters, rest) ← lineText? quote allowance rest
        return (escaped :: characters, rest)
      else if isPrintable character then do
        let (characters, rest) ← lineText? quote allowance rest
        return (character :: characters, rest)
      else none

/-- The text behind a backslash at the end of a line and all blanks that follow. -/
def joinedLine? (source : List Char) : Option (List Char) :=
  match afterNewline? (source.dropWhile isSpace) with
  | some rest => some (rest.dropWhile fun character =>
      isSpace character || character == '\n' || character == '\r')
  | none => none

/-- The rest of a text of several lines up to its closing marks, and what follows.  Up to
two marks in front of the closing ones belong to the text. -/
def linesText? (quote : Quote) : Nat → List Char → Option (List Char × List Char)
  | 0, _ => none
  | _ + 1, [] => none
  | allowance + 1, character :: rest =>
      if character == quote.mark then
        let marks := ((character :: rest).takeWhile (· == quote.mark)).length
        let behind := (character :: rest).drop (min marks 5)
        if 3 ≤ marks then some (List.replicate (min marks 5 - 3) quote.mark, behind)
        else do
          let (characters, rest) ← linesText? quote allowance behind
          return (List.replicate marks quote.mark ++ characters, rest)
      else if quote == .basic && character == '\\' then
        match joinedLine? rest with
        | some rest => linesText? quote allowance rest
        | none => do
            let (escaped, rest) ← escape? rest
            let (characters, rest) ← linesText? quote allowance rest
            return (escaped :: characters, rest)
      else
        match afterNewline? (character :: rest) with
        | some rest => do
            let (characters, rest) ← linesText? quote allowance rest
            return ('\n' :: characters, rest)
        | none =>
            if isPrintable character then do
              let (characters, rest) ← linesText? quote allowance rest
              return (character :: characters, rest)
            else none

/-- The text behind its opening mark, and what follows it. -/
def readBehind? (quote : Quote) (source : List Char) : Option (List Char × List Char) :=
  match source with
  | first :: second :: rest =>
      if first == quote.mark && second == quote.mark then
        linesText? quote (rest.length + 1) ((afterNewline? rest).getD rest)
      else lineText? quote (source.length + 1) source
  | _ => lineText? quote (source.length + 1) source

/-- A text of a single line behind its opening mark, and what follows it. -/
def readLineBehind? (quote : Quote) (source : List Char) : Option (List Char × List Char) :=
  lineText? quote (source.length + 1) source

end EntitySearch.TomlText
