import EntitySearch.Collection.Total
import EntitySearch.Text.Han
import EntitySearch.Text.WordCharacter

/-!
# Tokens

A text is cut into tokens from left to right: every Han character is a token of
its own, and so is every maximal run of other word characters.  All other
characters separate tokens.  A token knows the byte offset at which it starts,
counted in UTF-8.
-/

namespace EntitySearch.Analysis

/-- A piece of a text that is analysed on its own. -/
structure Token where
  characters : List Char
  start : Nat
deriving Repr, DecidableEq

/-- The length of a text in UTF-8 bytes. -/
def byteLength (text : List Char) : Nat :=
  totalOf (text.map Char.utf8Size)

/-- The byte offset behind the token. -/
def Token.stop (token : Token) : Nat :=
  token.start + byteLength token.characters

/-- The token made of a run that has ended, given in reverse; none for an empty run. -/
def closeRun (start : Nat) (run : List Char) : List Token :=
  if run.isEmpty then [] else [⟨run.reverse, start⟩]

/-- The tokens of the rest of a text at a byte offset, with the run that has been read so
far in reverse and the offset at which it started. -/
def tokensFrom (start : Nat) (run : List Char) (offset : Nat) : List Char → List Token
  | [] => closeRun start run
  | character :: rest =>
      let next := offset + character.utf8Size
      if Text.isHan character then
        closeRun start run ++ ⟨[character], offset⟩ :: tokensFrom next [] next rest
      else if Text.isWordCharacter character then
        tokensFrom (if run.isEmpty then offset else start) (character :: run) next rest
      else closeRun start run ++ tokensFrom next [] next rest

def tokens (text : List Char) : List Token :=
  tokensFrom 0 [] 0 text

end EntitySearch.Analysis
