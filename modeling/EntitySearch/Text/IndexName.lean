import EntitySearch.Text.Lowercase

/-!
# Index names

The name of an index is derived from the name of its entity type: the last part
of the type's path, with the words of a camel-case name lowercased and joined by
underscores.  A capital letter opens a word after a small letter or an ASCII
digit, and after another capital when a small letter follows, so that an acronym
ends where the next capitalised word starts.
-/

namespace EntitySearch.Text

/-- What follows the last double colon, if there is one. -/
def afterLastDoubleColon : List Char → Option (List Char)
  | [] => none
  | character :: rest =>
      match afterLastDoubleColon rest with
      | some part => some part
      | none =>
          if character = ':' then
            match rest with
            | ':' :: part => some part
            | _ => none
          else none

/-- The last part of a path whose parts are separated by double colons. -/
def lastPathPart (path : List Char) : List Char :=
  (afterLastDoubleColon path).getD path

/-- Whether a character opens a word, given its neighbours. -/
def opensWord (previous : Option Char) (character : Char) (rest : List Char) : Bool :=
  isUppercase character &&
    match previous with
    | none => false
    | some before =>
        isLowercase before || before.isDigit ||
          (isUppercase before && rest.head?.any isLowercase)

/-- Lowercases a name and puts an underscore before each word that follows another. -/
def separateWords (previous : Option Char) : List Char → List Char
  | [] => []
  | character :: rest =>
      (if opensWord previous character rest then ['_'] else []) ++
        lowercaseCharacter character ++ separateWords (some character) rest

/-- The index name of an entity type: `models::PullRequest` becomes `pull_request`. -/
def indexNameFor (typeName : String) : String :=
  String.ofList (separateWords none (lastPathPart typeName.toList))

end EntitySearch.Text
