import EntitySearch.Analysis.EnglishStem
import EntitySearch.Analysis.StopWords.Chinese
import EntitySearch.Analysis.StopWords.English
import EntitySearch.Analysis.StopWords.European
import EntitySearch.Analysis.Token
import EntitySearch.Text.Lowercase

/-!
# Text analysis

Indexed texts and query texts pass through the same analysis.  The tokens of the
text are numbered, tokens of 255 bytes or more are dropped, the rest is
lowercased character by character, stop words are dropped, and what remains is
reduced to its English stem.  A dropped token leaves a gap in the numbering, so
that phrases keep their distances.
-/

namespace EntitySearch.Analysis

/-- A term of an analysed text: its place among all tokens, the bytes that it covers in
the text, and the term itself. -/
structure PlacedTerm where
  position : Nat
  start : Nat
  stop : Nat
  term : String
deriving Repr, DecidableEq

/-- Tokens of this many bytes are too long to be indexed. -/
def tokenByteLimit : Nat := 255

/-- The supplementary stop words, in the order of the two lists. -/
def supplementaryStopWords : List String :=
  englishStopWords ++ chineseStopWords

/-- Whether a lowercased token is a stop word. -/
def isStopWord (word : String) : Bool :=
  europeanStopWords.contains word || supplementaryStopWords.contains word

/-- The term that a token yields, if any. -/
def termOf? (characters : List Char) : Option String :=
  if byteLength characters ≥ tokenByteLimit then none
  else
    let lowered := Text.lowercaseEach characters
    if isStopWord (String.ofList lowered) then none
    else some (String.ofList (EnglishStem.stem lowered))

/-- The terms of a list of tokens, the first of which has the given position. -/
def placeTerms (position : Nat) : List Token → List PlacedTerm
  | [] => []
  | token :: rest =>
      match termOf? token.characters with
      | some term =>
          ⟨position, token.start, token.stop, term⟩ :: placeTerms (position + 1) rest
      | none => placeTerms (position + 1) rest

def analyze (text : String) : List PlacedTerm :=
  placeTerms 0 (tokens text.toList)

def terms (text : String) : List String :=
  (analyze text).map (·.term)

end EntitySearch.Analysis
