/-!
# Term patterns

A pattern is matched against a whole term.  In its text a point stands for any
character but a line feed, a point with an asterisk for any run of such
characters, and a backslash makes the character behind it literal; every other
character stands for itself.
-/

namespace EntitySearch

inductive PatternItem
  | literal (character : Char)
  | anyOne
  | anyRun
deriving Repr, DecidableEq

namespace PatternItem

/-- Whether a wild part can stand for the character. -/
def admits (character : Char) : Bool := character != '\n'

/-- Whether the test holds of the text behind some run of admitted characters. -/
def afterSomeRun (test : List Char → Bool) : List Char → Bool
  | [] => test []
  | character :: rest =>
      test (character :: rest) || (admits character && afterSomeRun test rest)

def matchAll : List PatternItem → List Char → Bool
  | [], text => text.isEmpty
  | .literal expected :: items, text =>
      match text with
      | character :: rest => character == expected && matchAll items rest
      | [] => false
  | .anyOne :: items, text =>
      match text with
      | character :: rest => admits character && matchAll items rest
      | [] => false
  | .anyRun :: items, text => afterSomeRun (matchAll items) text

def ofText : List Char → List PatternItem
  | [] => []
  | '.' :: '*' :: rest => .anyRun :: ofText rest
  | '.' :: rest => .anyOne :: ofText rest
  | '\\' :: character :: rest => .literal character :: ofText rest
  | character :: rest => .literal character :: ofText rest

end PatternItem

/-- Whether the pattern with this text matches a whole term. -/
def patternMatches (pattern term : String) : Bool :=
  PatternItem.matchAll (PatternItem.ofText pattern.toList) term.toList

end EntitySearch
