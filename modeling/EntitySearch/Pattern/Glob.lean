/-!
# Globs

In a glob an asterisk stands for any run of characters and a question mark for
any one character.  A backslash makes the next character literal and stands for
nothing at the end.  A glob is rendered as the text of a term pattern, in which
every literal character that the pattern syntax knows gets a backslash.
-/

namespace EntitySearch

inductive GlobItem
  | literal (character : Char)
  | anyOne
  | anyRun
deriving Repr, DecidableEq

namespace GlobItem

/-- The parts of a written glob. -/
def ofText : List Char → List GlobItem
  | [] => []
  | '*' :: rest => .anyRun :: ofText rest
  | '?' :: rest => .anyOne :: ofText rest
  | '\\' :: character :: rest => .literal character :: ofText rest
  | character :: rest =>
      if character = '\\' then ofText rest else .literal character :: ofText rest

/-- The characters that mean something in a pattern text. -/
def patternSigns : List Char :=
  ['\\', '.', '+', '*', '?', '(', ')', '|', '[', ']', '\x7b', '\x7d', '^', '$']

def patternText : GlobItem → List Char
  | .literal character =>
      if patternSigns.contains character then ['\\', character] else [character]
  | .anyOne => ['.']
  | .anyRun => ['.', '*']

end GlobItem

/-- The pattern text of a written glob. -/
def globPattern (glob : List Char) : List Char :=
  (GlobItem.ofText glob).flatMap GlobItem.patternText

end EntitySearch
