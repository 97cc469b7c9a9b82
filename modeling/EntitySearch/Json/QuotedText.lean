/-!
# Quoted text

Between the quotes of a JSON text a backslash opens an escape.  `quote` writes a
text with the escapes that it needs; `unquote?` reads any escapes, among them
pairs of surrogate code units, and refuses a surrogate without its partner.
-/

namespace EntitySearch.QuotedText

def hexDigit (value : Nat) : Char :=
  Nat.digitChar value

/-- The value of a hexadecimal digit of either case. -/
def hexValue? (digit : Char) : Option Nat :=
  if digit.isDigit then some (digit.toNat - '0'.toNat)
  else if 'a' ≤ digit && digit ≤ 'f' then some (digit.toNat - 'a'.toNat + 10)
  else if 'A' ≤ digit && digit ≤ 'F' then some (digit.toNat - 'A'.toNat + 10)
  else none

/-- The code unit of four hexadecimal digits. -/
def codeUnit? (first second third fourth : Char) : Option Nat := do
  let first ← hexValue? first
  let second ← hexValue? second
  let third ← hexValue? third
  let fourth ← hexValue? fourth
  return ((first * 16 + second) * 16 + third) * 16 + fourth

/-- The character that a letter behind a backslash stands for. -/
def shortEscape? (letter : Char) : Option Char :=
  match letter with
  | '"' => some '"'
  | '\\' => some '\\'
  | '/' => some '/'
  | 'b' => some (Char.ofNat 8)
  | 'f' => some (Char.ofNat 12)
  | 'n' => some '\n'
  | 'r' => some '\r'
  | 't' => some '\t'
  | _ => none

def isLeadingSurrogate (unit : Nat) : Bool := 0xD800 ≤ unit && unit < 0xDC00

def isTrailingSurrogate (unit : Nat) : Bool := 0xDC00 ≤ unit && unit < 0xE000

/-- The text that the characters between two quotes stand for. -/
def unquote? : List Char → Option (List Char)
  | [] => some []
  | '\\' :: 'u' :: first :: second :: third :: fourth :: rest =>
      match codeUnit? first second third fourth with
      | none => none
      | some unit =>
          if isTrailingSurrogate unit then none
          else if isLeadingSurrogate unit then
            match rest with
            | '\\' :: 'u' :: first :: second :: third :: fourth :: rest =>
                match codeUnit? first second third fourth with
                | none => none
                | some trailing =>
                    if isTrailingSurrogate trailing then
                      (unquote? rest).map
                        (Char.ofNat
                          (0x10000 + (unit - 0xD800) * 0x400 + (trailing - 0xDC00)) :: ·)
                    else none
            | _ => none
          else (unquote? rest).map (Char.ofNat unit :: ·)
  | '\\' :: letter :: rest =>
      match shortEscape? letter with
      | some character => (unquote? rest).map (character :: ·)
      | none => none
  | character :: rest =>
      if character = '\\' || character = '"' || character.toNat < 0x20 then none
      else (unquote? rest).map (character :: ·)

def quoteCharacter (character : Char) : List Char :=
  if character = '"' then ['\\', '"']
  else if character = '\\' then ['\\', '\\']
  else if character = '\n' then ['\\', 'n']
  else if character = '\r' then ['\\', 'r']
  else if character = '\t' then ['\\', 't']
  else if character.toNat = 8 then ['\\', 'b']
  else if character.toNat = 12 then ['\\', 'f']
  else if character.toNat < 0x20 then
    ['\\', 'u', '0', '0', hexDigit (character.toNat / 16), hexDigit (character.toNat % 16)]
  else [character]

def quote (text : List Char) : List Char :=
  text.flatMap quoteCharacter

/-- Splits a text behind an opening quote into what stands before the closing quote and
what follows it.  Escapes must be well formed, control characters must be escaped, and
surrogates need not be paired. -/
def split? : List Char → Option (List Char × List Char)
  | [] => none
  | '"' :: rest => some ([], rest)
  | '\\' :: 'u' :: first :: second :: third :: fourth :: rest =>
      if (codeUnit? first second third fourth).isSome then
        (split? rest).map fun (written, rest) =>
          ('\\' :: 'u' :: first :: second :: third :: fourth :: written, rest)
      else none
  | '\\' :: letter :: rest =>
      if (shortEscape? letter).isSome then
        (split? rest).map fun (written, rest) => ('\\' :: letter :: written, rest)
      else none
  | character :: rest =>
      if character = '\\' || character.toNat < 0x20 then none
      else (split? rest).map fun (written, rest) => (character :: written, rest)

end EntitySearch.QuotedText
