/-!
# English word stems

The Porter2 rules reduce the inflected and derived forms of an English word to a
common stem.  A word is treated as a list of characters.  Two regions at its end
are fixed before any suffix is removed: the first begins behind the first
consonant that follows a vowel, the second is found in the first by the same
rule.  Each step looks for the longest suffix of its table and acts on that
suffix alone.
-/

namespace EntitySearch.Analysis.EnglishStem

/-- The vowels; a `y` that stands for a consonant is written `Y` while a word is
reduced. -/
def isVowel (character : Char) : Bool :=
  "aeiouy".toList.contains character

/-- The letters that cannot close a short syllable. -/
def isOpenEnding (character : Char) : Bool :=
  isVowel character || "wxY".toList.contains character

/-- Where the two regions of a word begin, counted in characters. -/
structure Regions where
  first : Nat
  second : Nat
deriving Repr, DecidableEq

/-- Marks each `y` that begins the word or follows a vowel as a consonant. -/
def markConsonants (previous : Option Char) : List Char → List Char
  | [] => []
  | character :: rest =>
      let marked :=
        if character == 'y' && (previous.map isVowel).getD true then 'Y' else character
      marked :: markConsonants (some marked) rest

/-- Writes the marked consonants as `y` again. -/
def unmarkConsonants (word : List Char) : List Char :=
  word.map fun character => if character == 'Y' then 'y' else character

/-- How many characters lead up to and include the first consonant behind a vowel; the
whole length without one. -/
def throughFirstSyllable (word : List Char) : Nat :=
  let fromVowel := word.dropWhile (!isVowel ·)
  let fromConsonant := fromVowel.dropWhile isVowel
  word.length - fromConsonant.length + min 1 fromConsonant.length

/-- Beginnings that form the first syllables of a word by exception. -/
def wholeBeginnings : List String := ["gener", "commun", "arsen"]

def regions (word : List Char) : Regions :=
  let first :=
    match wholeBeginnings.find? (·.toList.isPrefixOf word) with
    | some beginning => beginning.length
    | none => throughFirstSyllable word
  ⟨first, first + throughFirstSyllable (word.drop first)⟩

/-- The word without the suffix, if it ends in it. -/
def withoutSuffix? (word : List Char) (suffix : String) : Option (List Char) :=
  if suffix.toList.isSuffixOf word then some (word.take (word.length - suffix.length))
  else none

/-- The entry of the first suffix in the table that ends the word, and what precedes the
suffix.  Tables list longer suffixes first. -/
def findSuffix? {Action : Type} (table : List (String × Action)) (word : List Char) :
    Option (List Char × Action) :=
  table.findSome? fun entry => (withoutSuffix? word entry.1).map fun stem => (stem, entry.2)

def endsShort (word : List Char) : Bool :=
  match word.reverse with
  | last :: vowel :: before :: _ =>
      !isOpenEnding last && isVowel vowel && !isVowel before
  | [last, vowel] => !isVowel last && isVowel vowel
  | _ => false

def endsIn (word : List Char) (letter : Char) : Bool :=
  word.getLast? == some letter

def dropInitialApostrophe : List Char → List Char
  | '\x27' :: rest => rest
  | word => word

def removePossessive (word : List Char) : List Char :=
  match findSuffix? [("'s'", ()), ("'s", ()), ("'", ())] word with
  | some (stem, _) => stem
  | none => word

inductive PluralEnding
  | doubleS
  | afterVowel
  | keep
  | single

def pluralEndings : List (String × PluralEnding) :=
  [("sses", .doubleS), ("ied", .afterVowel), ("ies", .afterVowel), ("us", .keep),
   ("ss", .keep), ("s", .single)]

def removePlural (word : List Char) : List Char :=
  match findSuffix? pluralEndings word with
  | some (stem, .doubleS) => stem ++ ['s', 's']
  | some (stem, .afterVowel) => if stem.length ≥ 2 then stem ++ ['i'] else stem ++ ['i', 'e']
  | some (stem, .single) => if stem.dropLast.any isVowel then stem else word
  | some (_, .keep) => word
  | none => word

/-- Pairs of letters of which the second is dropped when an ending has been removed. -/
def doubledEndings : List String :=
  ["bb", "dd", "ff", "gg", "mm", "nn", "pp", "rr", "tt"]

/-- Restores the end of a stem from which a past or participle ending was removed. -/
def mendStem (areas : Regions) (stem : List Char) : List Char :=
  if ["at", "bl", "iz"].any (·.toList.isSuffixOf stem) then stem ++ ['e']
  else if doubledEndings.any (·.toList.isSuffixOf stem) then stem.dropLast
  else if stem.length = areas.first && endsShort stem then stem ++ ['e']
  else stem

/-- Past and participle endings; the flag tells those that keep a double e. -/
def participleEndings : List (String × Bool) :=
  [("eedly", true), ("ingly", false), ("edly", false), ("eed", true), ("ing", false),
   ("ed", false)]

def removeParticiple (areas : Regions) (word : List Char) : List Char :=
  match findSuffix? participleEndings word with
  | some (stem, true) => if areas.first ≤ stem.length then stem ++ ['e', 'e'] else word
  | some (stem, false) => if stem.any isVowel then mendStem areas stem else word
  | none => word

/-- Turns a final y behind a consonant that does not begin the word into an i. -/
def replaceFinalY (word : List Char) : List Char :=
  match word.reverse with
  | last :: before :: earlier :: rest =>
      if (last == 'y' || last == 'Y') && !isVowel before then
        ('i' :: before :: earlier :: rest).reverse
      else word
  | _ => word

/-- When a derivational suffix may be replaced. -/
inductive SuffixCondition
  | always
  | after (letters : String)
  | inSecond

def SuffixCondition.holds (areas : Regions) (stem : List Char) : SuffixCondition → Bool
  | .always => true
  | .after letters => letters.toList.any (endsIn stem)
  | .inSecond => areas.second ≤ stem.length

/-- Derivational suffixes of the first kind, each with its replacement. -/
def derivedEndings : List (String × String × SuffixCondition) :=
  [("ational", "ate", .always), ("fulness", "ful", .always), ("iveness", "ive", .always),
   ("ization", "ize", .always), ("ousness", "ous", .always), ("biliti", "ble", .always),
   ("lessli", "less", .always), ("tional", "tion", .always), ("alism", "al", .always),
   ("aliti", "al", .always), ("ation", "ate", .always), ("entli", "ent", .always),
   ("fulli", "ful", .always), ("iviti", "ive", .always), ("ousli", "ous", .always),
   ("abli", "able", .always), ("alli", "al", .always), ("anci", "ance", .always),
   ("ator", "ate", .always), ("enci", "ence", .always), ("izer", "ize", .always),
   ("bli", "ble", .always), ("ogi", "og", .after "l"), ("li", "", .after "cdeghkmnrt")]

/-- Derivational suffixes of the second kind, each with its replacement. -/
def adjectivalEndings : List (String × String × SuffixCondition) :=
  [("ational", "ate", .always), ("tional", "tion", .always), ("alize", "al", .always),
   ("ative", "", .inSecond), ("icate", "ic", .always), ("iciti", "ic", .always),
   ("ical", "ic", .always), ("ness", "", .always), ("ful", "", .always)]

/-- Suffixes that are removed from the second region. -/
def residualEndings : List (String × String × SuffixCondition) :=
  [("ement", "", .always), ("able", "", .always), ("ance", "", .always),
   ("ence", "", .always), ("ible", "", .always), ("ment", "", .always),
   ("ant", "", .always), ("ate", "", .always), ("ent", "", .always),
   ("ion", "", .after "st"), ("ism", "", .always), ("iti", "", .always),
   ("ive", "", .always), ("ize", "", .always), ("ous", "", .always),
   ("al", "", .always), ("er", "", .always), ("ic", "", .always)]

/-- Replaces the suffix that the table finds, if it lies in the region that begins at
`region` and its condition holds. -/
def replaceSuffix (table : List (String × String × SuffixCondition)) (areas : Regions)
    (region : Nat) (word : List Char) : List Char :=
  match findSuffix? table word with
  | some (stem, replacement, condition) =>
      if region ≤ stem.length && condition.holds areas stem then
        stem ++ replacement.toList
      else word
  | none => word

/-- Removes a final e or the second of two final l. -/
def removeFinalLetter (areas : Regions) (word : List Char) : List Char :=
  let stem := word.dropLast
  if endsIn word 'e' then
    if areas.second ≤ stem.length || (areas.first ≤ stem.length && !endsShort stem) then stem
    else word
  else if endsIn word 'l' && areas.second ≤ stem.length && endsIn stem 'l' then stem
  else word

def exceptionalStems : List (String × String) :=
  [("skis", "ski"), ("skies", "sky"), ("dying", "die"), ("lying", "lie"), ("tying", "tie"),
   ("idly", "idl"), ("gently", "gentl"), ("ugly", "ugli"), ("early", "earli"),
   ("only", "onli"), ("singly", "singl"), ("sky", "sky"), ("news", "news"), ("howe", "howe"),
   ("atlas", "atlas"), ("cosmos", "cosmos"), ("bias", "bias"), ("andes", "andes")]

/-- Words that keep the form they have once the plural ending is gone. -/
def settledForms : List String :=
  ["inning", "outing", "canning", "herring", "earring", "proceed", "exceed", "succeed"]

/-- The reduction of a word that is no exception. -/
def reduce (word : List Char) : List Char :=
  let marked := markConsonants none (dropInitialApostrophe word)
  let areas := regions marked
  let singular := removePlural (removePossessive marked)
  let reduced :=
    if settledForms.any (·.toList == singular) then singular
    else
      let base := replaceFinalY (removeParticiple areas singular)
      let derived := replaceSuffix derivedEndings areas areas.first base
      let adjectival := replaceSuffix adjectivalEndings areas areas.first derived
      let residual := replaceSuffix residualEndings areas areas.second adjectival
      removeFinalLetter areas residual
  unmarkConsonants reduced

/-- The stem of a lowercase word; words of fewer than three characters are their own. -/
def stem (word : List Char) : List Char :=
  match exceptionalStems.find? (·.1.toList == word) with
  | some (_, stem) => stem.toList
  | none => if word.length < 3 then word else reduce word

end EntitySearch.Analysis.EnglishStem
