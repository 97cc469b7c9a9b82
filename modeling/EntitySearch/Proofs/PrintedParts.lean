import EntitySearch.Pattern.Glob
import EntitySearch.Proofs.ReadingInGroups

/-!
# Printed parts of a query

The leaves, field names, ranges, boosts and modifiers of a query as text.  A
backslash stands before every literal character of a term, a phrase or a wildcard,
so no text can be taken for an operator, a quote or a sign.  Each reader takes
exactly its part, whatever may stand behind it.
-/

namespace EntitySearch

/-- Whether the part of a glob stands for characters that it does not name. -/
def GlobItem.isSign : GlobItem → Bool
  | .literal _ => false
  | .anyOne => true
  | .anyRun => true

/-- A part of a glob as it is written, with a backslash before a literal character. -/
def GlobItem.written : GlobItem → List Char
  | .literal character => ['\\', character]
  | .anyOne => ['?']
  | .anyRun => ['*']

theorem GlobItem.ofText_written (items : List GlobItem) :
    GlobItem.ofText (items.flatMap GlobItem.written) = items := by
  induction items with
  | nil => rfl
  | cons item items ih =>
      cases item <;> simpa [GlobItem.written, GlobItem.ofText] using ih

namespace Query

def escaped (text : List Char) : List Char :=
  text.flatMap fun character => ['\\', character]

@[simp]
theorem escaped_cons (character : Char) (text : List Char) :
    escaped (character :: text) = '\\' :: character :: escaped text := rfl

theorem unescape_escaped (text : List Char) : unescape (escaped text) = text := by
  induction text with
  | nil => rfl
  | cons character text ih => rw [escaped_cons, unescape, ih]

/-- The text of a term, which is not empty. -/
structure TermText where
  characters : List Char
  filled : characters ≠ []

/-- The parts of a wildcard, one of which is a sign. -/
structure WildcardText where
  items : List GlobItem
  signed : ∃ item ∈ items, item.isSign = true

/-- The name of a field: letters, digits and underscores, and not the word of negation. -/
structure FieldName where
  characters : List Char
  filled : characters ≠ []
  named : ∀ character ∈ characters, isNameCharacter character = true
  notNegation : characters ≠ ['N', 'O', 'T']

/-- The bound of a range: not empty, and without blanks and closing brackets. -/
structure BoundText where
  characters : List Char
  filled : characters ≠ []
  bounded : ∀ character ∈ characters, isBoundCharacter character = true

structure Digits where
  characters : List Char
  filled : characters ≠ []
  digits : ∀ character ∈ characters, character.isDigit = true

/-- A decimal with or without a fraction. -/
structure BoostText where
  whole : Digits
  fraction : Option Digits

/-- The ways to write a modifier. -/
inductive ModifierSign
  | plus
  | minus
  | exclamation
  | word
deriving Repr, DecidableEq

inductive RangeBracket
  | square
  | curly
deriving Repr, DecidableEq

/-- A term, a phrase or a wildcard with the text that it stands for. -/
inductive LeafText
  | term (text : TermText)
  | phrase (text : List Char)
  | wildcard (glob : WildcardText)

namespace ModifierSign

def print : ModifierSign → List Char
  | .plus => ['+']
  | .minus => ['-']
  | .exclamation => ['!']
  | .word => ['N', 'O', 'T', ' ']

def modifier : ModifierSign → Modifier
  | .plus => .must
  | .minus => .mustNot
  | .exclamation => .mustNot
  | .word => .mustNot

end ModifierSign

def RangeBracket.opening : RangeBracket → Char
  | .square => '['
  | .curly => '\x7b'

def RangeBracket.closing : RangeBracket → Char
  | .square => ']'
  | .curly => '\x7d'

namespace BoostText

def print (boost : BoostText) : List Char :=
  '^' :: boost.whole.characters ++
    match boost.fraction with
    | some digits => '.' :: digits.characters
    | none => []

/-- What the reader makes of the boost. -/
def parsed (boost : BoostText) : Boost :=
  ⟨boost.whole.characters, boost.fraction.map Digits.characters⟩

end BoostText

namespace LeafText

def print : LeafText → List Char
  | .term text => escaped text.characters
  | .phrase text => '"' :: escaped text ++ ['"']
  | .wildcard glob => glob.items.flatMap GlobItem.written

/-- What the reader makes of the leaf: the text as it is written. -/
def parsed : LeafText → Leaf
  | .term text => ⟨.term, escaped text.characters⟩
  | .phrase text => ⟨.phrase, escaped text⟩
  | .wildcard glob => ⟨.wildcard, glob.items.flatMap GlobItem.written⟩

end LeafText

/-- What may stand behind a body. -/
inductive Stops : List Char → Prop
  | nothing : Stops []
  | blank (rest : List Char) : Stops (' ' :: rest)
  | closing (rest : List Char) : Stops (')' :: rest)
  | caret (rest : List Char) : Stops ('^' :: rest)

variable {rest : List Char}

/-! ### Leaves -/

theorem spanTerm_escaped (stops : Stops rest) (text : List Char) :
    spanTerm (escaped text ++ rest) = (escaped text, rest) := by
  induction text with
  | nil => cases stops <;> rfl
  | cons character text ih => simp [spanTerm, ih]

theorem spanWildcard_written (stops : Stops rest) (items : List GlobItem) :
    spanWildcard (items.flatMap GlobItem.written ++ rest) =
      (items.flatMap GlobItem.written, rest) := by
  induction items with
  | nil => cases stops <;> rfl
  | cons item items ih =>
      cases item with
      | literal character => simp [GlobItem.written, spanWildcard, ih]
      | anyOne => simp [GlobItem.written, spanWildcard, isWildcardSign, ih]
      | anyRun => simp [GlobItem.written, spanWildcard, isWildcardSign, ih]

/-- The literal characters before the first sign of a wildcard are read like a term. -/
theorem spanTerm_written (rest : List Char) {items : List GlobItem}
    (signed : ∃ item ∈ items, item.isSign = true) :
    ∃ (lead : List Char) (sign : Char) (tail : List GlobItem),
      items.flatMap GlobItem.written = lead ++ sign :: tail.flatMap GlobItem.written ∧
      isWildcardSign sign = true ∧
      spanTerm (items.flatMap GlobItem.written ++ rest) =
        (lead, sign :: (tail.flatMap GlobItem.written ++ rest)) := by
  induction items with
  | nil => simp at signed
  | cons item items ih =>
      cases item with
      | literal character =>
          have later : ∃ item ∈ items, item.isSign = true := by
            simpa [GlobItem.isSign] using signed
          obtain ⟨lead, sign, tail, same, isSign, span⟩ := ih later
          refine ⟨'\\' :: character :: lead, sign, tail, ?_, isSign, ?_⟩
          · simp [GlobItem.written, same]
          · simp [GlobItem.written, spanTerm, span]
      | anyOne =>
          have noPlain : isPlain '?' = false := by decide
          exact ⟨[], '?', items, rfl, rfl, by simp [GlobItem.written, spanTerm, noPlain]⟩
      | anyRun =>
          have noPlain : isPlain '*' = false := by decide
          exact ⟨[], '*', items, rfl, rfl, by simp [GlobItem.written, spanTerm, noPlain]⟩

theorem readWildcard?_written (stops : Stops rest) (glob : WildcardText) :
    readWildcard? (glob.items.flatMap GlobItem.written ++ rest) =
      some (⟨.wildcard, glob.items.flatMap GlobItem.written⟩, rest) := by
  obtain ⟨lead, sign, tail, same, isSign, span⟩ := spanTerm_written rest glob.signed
  rw [readWildcard?, span]
  simp only [isSign, if_true, spanWildcard_written stops, same]

theorem readWildcard?_escaped (stops : Stops rest) (text : List Char) :
    readWildcard? (escaped text ++ rest) = none := by
  rw [readWildcard?, spanTerm_escaped stops]
  cases stops <;> rfl

theorem readTerm?_escaped (stops : Stops rest) (text : TermText) :
    readTerm? (escaped text.characters ++ rest) =
      some (⟨.term, escaped text.characters⟩, rest) := by
  obtain ⟨character, characters, same⟩ := List.exists_cons_of_ne_nil text.filled
  have noKeyword : startsKeyword (escaped text.characters ++ rest) = false := by
    rw [same]
    simp [startsKeyword, afterWord?, afterLiteral?]
  rw [readTerm?, noKeyword, spanTerm_escaped stops, same]
  rfl

theorem splitPhrase?_escaped (text rest : List Char) :
    splitPhrase? (escaped text ++ '"' :: rest) = some (escaped text, rest) := by
  induction text with
  | nil => rfl
  | cons character text ih => simp [splitPhrase?, ih]

theorem TermText.exists_escaped_eq_cons (text : TermText) :
    ∃ source, escaped text.characters = '\\' :: source := by
  obtain ⟨character, characters, same⟩ := List.exists_cons_of_ne_nil text.filled
  exact ⟨character :: escaped characters, by rw [same, escaped_cons]⟩

theorem WildcardText.exists_written_eq_cons (glob : WildcardText) :
    ∃ sign source, glob.items.flatMap GlobItem.written = sign :: source ∧
      sign ∈ ['\\', '*', '?'] := by
  obtain ⟨item, inside, -⟩ := glob.signed
  obtain ⟨first, items, same⟩ := List.exists_cons_of_ne_nil (List.ne_nil_of_mem inside)
  rw [same, List.flatMap_cons]
  cases first with
  | literal character => exact ⟨'\\', _, rfl, by decide⟩
  | anyOne => exact ⟨'?', _, rfl, by decide⟩
  | anyRun => exact ⟨'*', _, rfl, by decide⟩

/-- A leaf starts with a sign that starts nothing else but the match-all sign. -/
theorem LeafText.exists_print_eq_cons (leaf : LeafText) :
    ∃ sign source, leaf.print = sign :: source ∧ sign ∈ ['"', '\\', '*', '?'] := by
  cases leaf with
  | term text =>
      obtain ⟨source, same⟩ := text.exists_escaped_eq_cons
      exact ⟨'\\', source, same, by decide⟩
  | phrase text => exact ⟨'"', escaped text ++ ['"'], rfl, by decide⟩
  | wildcard glob =>
      obtain ⟨sign, source, same, isSign⟩ := glob.exists_written_eq_cons
      exact ⟨sign, source, same, List.mem_cons_of_mem _ isSign⟩

theorem readLeaf?_of_ne_quote {sign : Char} (notQuote : sign ≠ '"') (source : List Char) :
    readLeaf? (sign :: source) =
      (readWildcard? (sign :: source)).or (readTerm? (sign :: source)) := by
  simp [readLeaf?, notQuote]

theorem readLeaf?_print (stops : Stops rest) (leaf : LeafText) :
    readLeaf? (leaf.print ++ rest) = some (leaf.parsed, rest) := by
  cases leaf with
  | term text =>
      have noWildcard := readWildcard?_escaped stops text.characters
      have term := readTerm?_escaped stops text
      obtain ⟨source, same⟩ := text.exists_escaped_eq_cons
      simp only [LeafText.print, LeafText.parsed, same, List.cons_append] at noWildcard term ⊢
      rw [readLeaf?_of_ne_quote (by decide), noWildcard, term, Option.none_or]
  | phrase text => simp [LeafText.print, LeafText.parsed, readLeaf?, splitPhrase?_escaped]
  | wildcard glob =>
      have wildcard := readWildcard?_written stops glob
      obtain ⟨sign, source, same, isSign⟩ := glob.exists_written_eq_cons
      have notQuote : sign ≠ '"' := by rintro rfl; simp at isSign
      simp only [LeafText.print, LeafText.parsed, same, List.cons_append] at wildcard ⊢
      rw [readLeaf?_of_ne_quote notQuote, wildcard, Option.some_or]

/-- No colon stands behind a wildcard that starts like the match-all sign. -/
theorem afterLiteral?_matchAll_leaf (stops : Stops rest) (leaf : LeafText) :
    afterLiteral? ['*', ':', '*'] (leaf.print ++ rest) = none := by
  have noColon : ∀ (items : List GlobItem) (behind : List Char),
      items.flatMap GlobItem.written ++ rest ≠ ':' :: behind := by
    intro items behind same
    cases items with
    | nil => cases stops <;> simp at same
    | cons item items => cases item <;> simp [GlobItem.written] at same
  rw [Option.eq_none_iff_forall_ne_some]
  intro behind found
  rw [afterLiteral?_eq_some_iff] at found
  cases leaf with
  | term text =>
      obtain ⟨source, same⟩ := text.exists_escaped_eq_cons
      simp [LeafText.print, same] at found
  | phrase text => simp [LeafText.print] at found
  | wildcard glob =>
      -- Only here the first character can be an asterisk, and `noColon` excludes the second.
      rw [LeafText.print] at found
      cases items : glob.items with
      | nil => simpa [items] using glob.signed
      | cons item items =>
          cases item <;> simp [items, GlobItem.written, noColon] at found

/-! ### Runs of characters -/

/-- A reader that takes characters while they pass a test takes the whole run. -/
theorem span_run {test : Char → Bool} {run : List Char}
    (inside : ∀ character ∈ run, test character = true)
    (stops : ∀ stop ∈ rest.head?, test stop = false) :
    (run ++ rest).takeWhile test = run ∧ (run ++ rest).dropWhile test = rest := by
  rw [List.takeWhile_append_of_pos inside, List.dropWhile_append_of_pos inside]
  cases rest with
  | nil => simp
  | cons stop behind => simp [stops stop rfl]

/-! ### Field names -/

/-- A run of name characters before a colon is a field name, whatever word it is. -/
theorem readFieldName?_named {name value : List Char} (filled : name ≠ [])
    (named : ∀ character ∈ name, isNameCharacter character = true)
    (noBlank : skipBlanks value = value) :
    readFieldName? (name ++ ':' :: value) = some (name, value) := by
  have colonStops : ∀ stop ∈ (':' :: value).head?, isNameCharacter stop = false := by
    rintro stop ⟨rfl⟩
    decide
  obtain ⟨run, behind⟩ := span_run named colonStops
  refine readFieldName?_eq_some_iff.2 ⟨run.symm, filled, value, ?_, noBlank.symm⟩
  rw [behind]
  rfl

theorem readFieldName?_print (field : FieldName) {value : List Char}
    (noBlank : skipBlanks value = value) :
    readFieldName? (field.characters ++ ':' :: value) = some (field.characters, value) :=
  readFieldName?_named field.filled field.named noBlank

theorem readFieldName?_leaf (rest : List Char) (leaf : LeafText) :
    readFieldName? (leaf.print ++ rest) = none := by
  obtain ⟨sign, source, same, isSign⟩ := leaf.exists_print_eq_cons
  have noName : isNameCharacter sign = false := by
    revert isSign
    simp only [List.mem_cons, List.not_mem_nil, or_false]
    rintro (rfl | rfl | rfl | rfl) <;> decide
  simp [readFieldName?, same, noName]

theorem isPlain_of_isNameCharacter {character : Char}
    (named : isNameCharacter character = true) : isPlain character = true := by
  have noName : ∀ sign ∈ [' ', '\t', '\r', '\n', '(', ')', '[', ']', '\x7b', '\x7d', '"', ':',
      '^', '*', '?', '!'], isNameCharacter sign = false := by simp [isNameCharacter]
  have noSign : character ∉ [' ', '\t', '\r', '\n', '(', ')', '[', ']', '\x7b', '\x7d', '"', ':',
      '^', '*', '?', '!'] := fun sign => by simp [noName character sign] at named
  simpa [isPlain, isBlank, isSpecial, and_assoc] using noSign

/-! ### Ranges -/

theorem readBound?_print (bound : BoundText) {stop : Char}
    (stops : isBoundCharacter stop = false) (source : List Char) :
    readBound? (bound.characters ++ stop :: source) =
      some (bound.characters, skipBlanks (stop :: source)) := by
  have noBound : ∀ other ∈ (stop :: source).head?, isBoundCharacter other = false := by
    rintro other ⟨rfl⟩
    exact stops
  obtain ⟨run, behind⟩ := span_run bound.bounded noBound
  exact readBound?_eq_some_iff.2 ⟨run.symm, bound.filled, by rw [behind]⟩

theorem BoundText.skipBlanks_append (bound : BoundText) (source : List Char) :
    skipBlanks (bound.characters ++ source) = bound.characters ++ source := by
  obtain ⟨character, characters, same⟩ := List.exists_cons_of_ne_nil bound.filled
  have bounded := bound.bounded character (by simp [same])
  have notBlank : isBlank character = false := by
    simp only [isBoundCharacter, Bool.and_eq_true, Bool.not_eq_true'] at bounded
    exact bounded.1.1
  simp [same, skipBlanks, notBlank]

def printRange (opening closing : RangeBracket) (lower upper : BoundText) : List Char :=
  opening.opening :: (lower.characters ++
    ' ' :: 'T' :: 'O' :: ' ' :: (upper.characters ++ [closing.closing]))

theorem readRange?_print (opening closing : RangeBracket) (lower upper : BoundText)
    (rest : List Char) :
    readRange? (printRange opening closing lower upper ++ rest) =
      some ((lower.characters, upper.characters), rest) := by
  let behindUpper := closing.closing :: rest
  let behindTo := ' ' :: (upper.characters ++ behindUpper)
  have lowerRead : readBound? (lower.characters ++ ' ' :: 'T' :: 'O' :: behindTo) =
      some (lower.characters, 'T' :: 'O' :: behindTo) :=
    readBound?_print lower (by decide) _
  have upperRead : readBound? (skipBlanks behindTo) = some (upper.characters, behindUpper) := by
    have skipped : skipBlanks behindTo = upper.characters ++ behindUpper :=
      upper.skipBlanks_append behindUpper
    rw [skipped]
    cases closing <;> exact readBound?_print upper (by decide) rest
  have closed : behindUpper = ']' :: rest ∨ behindUpper = '\x7d' :: rest := by
    cases closing <;> simp [behindUpper, RangeBracket.closing]
  have bounds : readBounds? (lower.characters ++ ' ' :: 'T' :: 'O' :: behindTo) =
      some ((lower.characters, upper.characters), rest) := by
    rw [← lower.skipBlanks_append] at lowerRead
    exact readBounds?_eq_some_iff.2 ⟨_, behindTo, _, lowerRead, rfl, upperRead, closed⟩
  cases opening <;> simpa [printRange, RangeBracket.opening, readRange?] using bounds

theorem readRange?_leaf (rest : List Char) (leaf : LeafText) :
    readRange? (leaf.print ++ rest) = none := by
  obtain ⟨sign, source, same, isSign⟩ := leaf.exists_print_eq_cons
  simp only [List.mem_cons, List.not_mem_nil, or_false] at isSign
  rcases isSign with rfl | rfl | rfl | rfl <;> simp [readRange?, same]

/-! ### Boosts -/

/-- The text between two clauses of a conjunction. -/
def andText : List Char := [' ', 'A', 'N', 'D', ' ']

/-- The text between two conjunctions of a disjunction. -/
def orText : List Char := [' ', 'O', 'R', ' ']

/-- What may stand behind a clause. -/
inductive EndsClause : List Char → Prop
  | nothing : EndsClause []
  | closing (rest : List Char) : EndsClause (')' :: rest)
  | conjunct (rest : List Char) : EndsClause (andText ++ rest)
  | disjunct (rest : List Char) : EndsClause (orText ++ rest)

theorem EndsClause.stops (ends : EndsClause rest) : Stops rest := by
  cases ends with
  | nothing => exact .nothing
  | closing rest => exact .closing rest
  | conjunct rest => exact .blank _
  | disjunct rest => exact .blank _

theorem readBoost_print (ends : EndsClause rest) (boost : BoostText) :
    readBoost (boost.print ++ rest) = (some boost.parsed, rest) := by
  have restStops : ∀ stop ∈ rest.head?, stop.isDigit = false := by
    cases ends <;> simp [andText, orText]
  obtain ⟨whole, fraction⟩ := boost
  cases fraction with
  | none =>
      have noFraction : readFraction rest = (none, rest) := by cases ends <;> rfl
      obtain ⟨run, behind⟩ := span_run whole.digits restStops
      simp [BoostText.print, BoostText.parsed, readBoost, run, behind, whole.filled, noFraction]
  | some digits =>
      have pointStops : ∀ stop ∈ ('.' :: (digits.characters ++ rest)).head?,
          stop.isDigit = false := by simp
      obtain ⟨run, behind⟩ := span_run whole.digits pointStops
      obtain ⟨fractionRun, behindFraction⟩ := span_run digits.digits restStops
      simp [BoostText.print, BoostText.parsed, readBoost, readFraction, run, behind, fractionRun,
        behindFraction, whole.filled, digits.filled]

/-! ### Modifiers -/

theorem readModifier_print (sign : ModifierSign) (source : List Char) :
    (readModifier (sign.print ++ source)).1 = some sign.modifier ∧
      skipBlanks (readModifier (sign.print ++ source)).2 = skipBlanks source := by
  cases sign <;> exact ⟨rfl, rfl⟩

theorem readModifier_eq_none {character : Char} {source : List Char}
    (noSign : character ∉ ['+', '-', '!'])
    (noWord : afterWord? ['N', 'O', 'T'] (character :: source) = none) :
    readModifier (character :: source) = (none, character :: source) := by
  simp only [List.mem_cons, List.not_mem_nil, or_false, not_or] at noSign
  obtain ⟨notPlus, notMinus, notBang⟩ := noSign
  simp [readModifier, notPlus, notMinus, notBang, noWord]

/-- A field name that starts with the word of negation goes on like a term. -/
theorem afterWord?_negation_field (field : FieldName) (value : List Char) :
    afterWord? ['N', 'O', 'T'] (field.characters ++ ':' :: value) = none := by
  rw [Option.eq_none_iff_forall_ne_some]
  intro behind found
  obtain ⟨same, ended⟩ := afterWord?_eq_some_iff.1 found
  rcases List.append_eq_append_iff.1 same with ⟨missing, word, colon⟩ | ⟨more, longer, rfl⟩
  · cases missing with
    | nil => exact field.notNegation (by simpa using word.symm)
    | cons character missing =>
        obtain ⟨rfl, -⟩ : ':' = character ∧ _ := by simpa using colon
        have inWord : ':' ∈ ['N', 'O', 'T'] := by simp [word]
        simp at inWord
  · cases more with
    | nil => exact field.notNegation (by simpa using longer)
    | cons character more =>
        have named := field.named character (by simp [longer])
        simp [startsTermCharacter, isPlain_of_isNameCharacter named] at ended

theorem readModifier_field (field : FieldName) (value : List Char) :
    readModifier (field.characters ++ ':' :: value) = (none, field.characters ++ ':' :: value) := by
  have noWord := afterWord?_negation_field field value
  obtain ⟨character, characters, same⟩ := List.exists_cons_of_ne_nil field.filled
  have noSign : character ∉ ['+', '-', '!'] := by
    have named := field.named character (by simp [same])
    intro sign
    simp only [List.mem_cons, List.not_mem_nil, or_false] at sign
    rcases sign with rfl | rfl | rfl <;> revert named <;> decide
  rw [same, List.cons_append] at noWord ⊢
  exact readModifier_eq_none noSign noWord

end Query

end EntitySearch
