import EntitySearch.Proofs.DocumentTerms
import EntitySearch.Proofs.PrintedParts
import EntitySearch.Query.Translation

/-!
# Clauses about a field

A declared field is asked by its name, a colon and a value.  Names are read before
terms, so an operator word is a name like any other: `AND:open` and `OR:open` ask
the fields `AND` and `OR`.  The word of negation is the one exception.  Modifiers
are taken off a clause before its body is read, and the colon behind `NOT` ends
the word, so no query starts with `NOT:`.  Behind another modifier no word is taken
for one, and there the field `NOT` answers too.
-/

namespace EntitySearch

namespace Query

/-- A text that is a leaf or a group from end to end, with the body that it makes behind the
name of a field. -/
inductive IsValue (field : List Char) : List Char → Body → Prop
  | leaf {text : List Char} {leaf : Leaf} (read : readLeaf? text = some (leaf, [])) :
      IsValue field text (.fieldLeaf field leaf)
  | group {text : List Char} {inner : Disjunction}
      (read : readGroup? (readingAllowance text) text = some (inner, [])) :
      IsValue field text (.fieldGroup field inner)

def oneClause (modifier : Option Modifier) (body : Body) : Disjunction :=
  .single (.single (.mk modifier body none))

/-! ### How a value starts -/

def startsLeaf (character : Char) : Bool :=
  character == '"' || isPlain character || isWildcardSign character

theorem readLeaf?_eq_none {character : Char} (starts : startsLeaf character = false)
    (source : List Char) : readLeaf? (character :: source) = none := by
  simp only [startsLeaf, Bool.or_eq_false_iff, beq_eq_false_iff_ne] at starts
  obtain ⟨⟨notQuote, notPlain⟩, notSign⟩ := starts
  have notBackslash : character ≠ '\\' := by
    rintro rfl
    exact absurd notPlain (by decide)
  have noRun : spanTerm (character :: source) = ([], character :: source) := by
    simp [spanTerm, notBackslash, notPlain]
  have noWildcard : readWildcard? (character :: source) = none := by
    simp [readWildcard?, noRun, notSign]
  have noTerm : readTerm? (character :: source) = none := by
    simp [readTerm?, noRun]
  rw [readLeaf?_of_ne_quote notQuote, noWildcard, noTerm, Option.none_or]

theorem exists_eq_cons_of_readLeaf? {text rest : List Char} {leaf : Leaf}
    (read : readLeaf? text = some (leaf, rest)) :
    ∃ character source, text = character :: source ∧ startsLeaf character = true := by
  cases text with
  | nil => cases read
  | cons character source =>
      refine ⟨character, source, rfl, ?_⟩
      cases starts : startsLeaf character with
      | true => rfl
      | false => simp [readLeaf?_eq_none starts] at read

theorem excluded_of_startsLeaf {character : Char} (starts : startsLeaf character = true) :
    isBlank character = false ∧ character ∉ ['(', '[', '\x7b'] := by
  simp only [startsLeaf, Bool.or_eq_true, beq_iff_eq] at starts
  rcases starts with (rfl | plain) | sign
  · decide
  · simp only [isPlain, Bool.and_eq_true, Bool.not_eq_true'] at plain
    refine ⟨plain.1, fun opening => ?_⟩
    have special : isSpecial character = true := by
      simp only [List.mem_cons, List.not_mem_nil, or_false] at opening
      rcases opening with rfl | rfl | rfl <;> rfl
    simp [special] at plain
  · simp only [isWildcardSign, Bool.or_eq_true, beq_iff_eq] at sign
    rcases sign with rfl | rfl <;> decide

theorem isValue_parenthesised {query : List Char} {tree : Disjunction} (field : List Char)
    (read : read? query = some tree) (paired : endsUnpaired query = false) :
    IsValue field (parenthesised query []) (.fieldGroup field tree) := by
  have allowance : readingAllowance (parenthesised query []) =
      readingAllowance query + 11 + 1 := by
    simp only [readingAllowance, parenthesised, List.length_cons, List.length_append,
      List.length_nil]
    omega
  refine .group ?_
  rw [allowance]
  exact readGroup?_of_read? read paired (Nat.le_add_right _ 11) []

section Values

variable {field text : List Char} {body : Body}

theorem IsValue.exists_eq_cons (value : IsValue field text body) :
    ∃ character source, text = character :: source ∧ isBlank character = false ∧
      character ∉ ['[', '\x7b'] := by
  cases value with
  | leaf read =>
      obtain ⟨character, source, rfl, starts⟩ := exists_eq_cons_of_readLeaf? read
      obtain ⟨notBlank, notOpening⟩ := excluded_of_startsLeaf starts
      exact ⟨character, source, rfl, notBlank, fun bracket => notOpening (.tail _ bracket)⟩
  | group read =>
      obtain ⟨inside, rfl, -⟩ := readGroup?_eq_some_iff.1 read
      exact ⟨'(', inside, rfl, by decide, by decide⟩

theorem IsValue.skipBlanks_text (value : IsValue field text body) : skipBlanks text = text := by
  obtain ⟨character, source, rfl, notBlank, -⟩ := value.exists_eq_cons
  simp [skipBlanks, notBlank]

theorem IsValue.readRange?_text (value : IsValue field text body) : readRange? text = none := by
  obtain ⟨character, source, rfl, -, notBracket⟩ := value.exists_eq_cons
  simp only [List.mem_cons, List.not_mem_nil, or_false, not_or] at notBracket
  simp [readRange?, notBracket.1, notBracket.2]

theorem readGroup?_of_readLeaf? {rest : List Char} {leaf : Leaf}
    (read : readLeaf? text = some (leaf, rest)) (allowance : Nat) :
    readGroup? allowance text = none := by
  obtain ⟨character, source, rfl, starts⟩ := exists_eq_cons_of_readLeaf? read
  have notParenthesis : character ≠ '(' := by
    rintro rfl
    exact (excluded_of_startsLeaf starts).2 List.mem_cons_self
  cases allowance <;> simp [readGroup?, notParenthesis]

theorem skipBlanks_name (filled : field ≠ [])
    (named : ∀ character ∈ field, isNameCharacter character = true) (rest : List Char) :
    skipBlanks (field ++ rest) = field ++ rest := by
  obtain ⟨character, characters, rfl⟩ := List.exists_cons_of_ne_nil filled
  have plain := isPlain_of_isNameCharacter (named character List.mem_cons_self)
  simp only [isPlain, Bool.and_eq_true, Bool.not_eq_true'] at plain
  simp [skipBlanks, plain.1]

/-! ### Reading a clause about a field -/

theorem readFieldBody?_of_isValue {source : List Char} {allowance : Nat}
    (named : readFieldName? source = some (field, text)) (value : IsValue field text body)
    (ample : readingAllowance text ≤ allowance) :
    readFieldBody? (allowance + 1) source = some (body, []) := by
  have noRange := value.readRange?_text
  rw [readFieldBody?, named]
  cases value with
  | leaf read => simp only [noRange, readGroup?_of_readLeaf? read, read, Option.map_some]
  | group read =>
      rw [readingAllowance] at read ample
      rw [readGroup?_of_le (by omega)] at read
      simp only [noRange, readGroup?_of_le (show 6 * text.length + 1 ≤ allowance by omega), read]

/-- A name, a colon and a value are a body, whatever word the name is. -/
theorem readBody?_of_isValue {allowance : Nat} (filled : field ≠ [])
    (named : ∀ character ∈ field, isNameCharacter character = true)
    (value : IsValue field text body) (ample : readingAllowance text ≤ allowance) :
    readBody? (allowance + 2) (field ++ ':' :: text) = some (body, []) := by
  have fieldBody := readFieldBody?_of_isValue
    (readFieldName?_named filled named value.skipBlanks_text) value ample
  obtain ⟨character, characters, rfl⟩ := List.exists_cons_of_ne_nil filled
  have isName := named character List.mem_cons_self
  have noGroup : character ≠ '(' := by
    rintro rfl
    exact absurd isName (by decide)
  have noMatchAll : character ≠ '*' := by
    rintro rfl
    exact absurd isName (by decide)
  rw [List.cons_append] at fieldBody ⊢
  rw [readBody?, fieldBody]
  simp [readGroup?, afterLiteral?, noGroup, noMatchAll.symm]

/-- Where the reader finds a modifier and then a field name with a value, the query is that
clause. -/
theorem read?_of_isValue {source : List Char} {modifier : Option Modifier} (filled : field ≠ [])
    (named : ∀ character ∈ field, isNameCharacter character = true)
    (value : IsValue field text body) (noBlank : skipBlanks source = source)
    (modified : (readModifier source).1 = modifier ∧
      skipBlanks (readModifier source).2 = field ++ ':' :: text) :
    read? source = some (oneClause modifier body) := by
  obtain ⟨rfl, behind⟩ := modified
  have ample : readingAllowance text ≤ readingAllowance source := by
    have shorter := readModifier_length_le source
    have skipped := skipBlanks_length_le (readModifier source).2
    rw [behind, List.length_append, List.length_cons] at skipped
    rw [readingAllowance, readingAllowance]
    omega
  have clause : readClause? (readingAllowance source + 3) source =
      some (.mk (readModifier source).1 body none, []) := by
    rw [readClause?]
    dsimp only
    rw [behind, readBody?_of_isValue filled named value ample]
    rfl
  exact read?_of_readDisjunction? noBlank (Nat.le_add_right _ 5)
    (readDisjunction?_single (readConjunction?_single clause rfl))

end Values

/-! ### Field names and the word of negation -/

theorem readBody?_colon (allowance : Nat) (text : List Char) :
    readBody? allowance (':' :: text) = none := by
  rw [Option.eq_none_iff_forall_ne_some]
  rintro ⟨body, rest⟩ found
  cases allowance with
  | zero => simp [readBody?] at found
  | succ allowance =>
      rcases readBody?_cases found with ⟨inner, group⟩ | sign | field | ⟨leaf, read⟩
      · cases allowance with
        | zero => simp [readGroup?] at group
        | succ allowance =>
            obtain ⟨inside, same, -⟩ := readGroup?_eq_some_iff.1 group
            simp at same
      · simp at sign
      · cases allowance with
        | zero => simp [readFieldBody?] at field
        | succ allowance =>
            obtain ⟨name, value, named, -⟩ := readFieldBody?_cases field
            have noName : isNameCharacter ':' = false := by decide
            simp [readFieldName?, noName] at named
      · rw [readLeaf?_eq_none (by decide)] at read
        cases read

/-- No query starts with the word of negation and a colon. -/
theorem read?_negation_colon (text : List Char) :
    read? (['N', 'O', 'T'] ++ ':' :: text) = none := by
  have noDisjunction (allowance : Nat) :
      readDisjunction? (allowance + 3) (['N', 'O', 'T'] ++ ':' :: text) = none := by
    rw [Option.eq_none_iff_forall_ne_some]
    rintro ⟨tree, rest⟩ found
    obtain ⟨conjunction, _, readConjunction, -⟩ := readDisjunction?_cases found
    obtain ⟨clause, _, readClause, -⟩ := readConjunction?_cases readConjunction
    obtain ⟨body, behind, readBody, -⟩ := readClause?_cases readClause
    -- a colon is no character of a term, so it ends the word and the modifier is taken
    have afterWord : skipBlanks (readModifier (['N', 'O', 'T'] ++ ':' :: text)).2 = ':' :: text :=
      rfl
    rw [afterWord, readBody?_colon] at readBody
    cases readBody
  have noBlank : skipBlanks (['N', 'O', 'T'] ++ ':' :: text) = ['N', 'O', 'T'] ++ ':' :: text :=
    rfl
  rw [read?, noBlank, show readingAllowance (['N', 'O', 'T'] ++ ':' :: text) =
    6 * (['N', 'O', 'T'] ++ ':' :: text).length + 3 + 3 from rfl, noDisjunction]

variable {name : String} {text : List Char} {body : Body}

theorem isNameCharacter_of_isFieldName (named : isFieldName name = true) :
    name.toList ≠ [] ∧ ∀ character ∈ name.toList, isNameCharacter character = true := by
  rw [isFieldName, Bool.and_eq_true, List.all_eq_true] at named
  exact ⟨by simpa using named.1, named.2⟩

/-- The name of a field, a colon and a value are a clause about that field, unless the name
is the word of negation. -/
theorem read?_fieldClause (named : isFieldName name = true) (notNegation : name ≠ "NOT")
    (value : IsValue name.toList text body) :
    read? (name.toList ++ ':' :: text) = some (oneClause none body) := by
  obtain ⟨filled, characters⟩ := isNameCharacter_of_isFieldName named
  let field : FieldName :=
    { characters := name.toList
      filled := filled
      named := characters
      notNegation := fun same => notNegation (String.toList_inj.1 (by simpa using same)) }
  have noBlank := skipBlanks_name filled characters (':' :: text)
  have unmodified := readModifier_field field text
  exact read?_of_isValue filled characters value noBlank
    ⟨congrArg Prod.fst unmodified, (congrArg (skipBlanks ·.2) unmodified).trans noBlank⟩

example : read? ['O', 'R', ':', 'x'] =
    some (oneClause none (.fieldLeaf ['O', 'R'] ⟨.term, ['x']⟩)) :=
  rfl

theorem read?_fieldGroup {query : String} {tree : Disjunction} (named : isFieldName name = true)
    (notNegation : name ≠ "NOT") (read : read? query.toList = some tree)
    (paired : endsUnpaired query.toList = false) :
    read? (name ++ ":(" ++ query ++ ")").toList =
      some (oneClause none (.fieldGroup name.toList tree)) := by
  have characters : (name ++ ":(" ++ query ++ ")").toList =
      name.toList ++ ':' :: parenthesised query.toList [] := by
    simp [parenthesised]
  rw [characters]
  exact read?_fieldClause named notNegation (isValue_parenthesised name.toList read paired)

/-- Behind a modifier the name of a field may be any word. -/
theorem read?_modified_fieldClause (sign : ModifierSign) (named : isFieldName name = true)
    (value : IsValue name.toList text body) :
    read? (sign.print ++ (name.toList ++ ':' :: text)) =
      some (oneClause (some sign.modifier) body) := by
  obtain ⟨filled, characters⟩ := isNameCharacter_of_isFieldName named
  have noBlank := skipBlanks_name filled characters (':' :: text)
  have modified := readModifier_print sign (name.toList ++ ':' :: text)
  refine read?_of_isValue filled characters value ?_ ⟨modified.1, modified.2.trans noBlank⟩
  cases sign <;> rfl

end Query

namespace IndexConfiguration

open Query

variable (configuration : IndexConfiguration) {spec : FieldSpec} {text : List Char} {body : Body}

/-- A declared field is asked by its name, a colon and a value exactly if it is not called like
the word of negation. -/
theorem read?_declared_iff (declared : spec ∈ configuration.fields)
    (value : IsValue spec.name.toList text body) :
    read? (spec.name.toList ++ ':' :: text) = some (oneClause none body) ↔
      spec.name ≠ "NOT" := by
  constructor
  · intro read negation
    rw [negation] at read
    exact absurd ((read?_negation_colon text).symm.trans read) (by simp)
  · intro notNegation
    exact read?_fieldClause (configuration.isFieldName_declared declared) notNegation value

/-- Behind a modifier every declared field is asked by its name, a colon and a value. -/
theorem read?_declared_modified (sign : ModifierSign) (declared : spec ∈ configuration.fields)
    (value : IsValue spec.name.toList text body) :
    read? (sign.print ++ (spec.name.toList ++ ':' :: text)) =
      some (oneClause (some sign.modifier) body) :=
  read?_modified_fieldClause sign (configuration.isFieldName_declared declared) value

end IndexConfiguration

/-- The declaration of an index with a field that is called like the word of negation, and another
one whose name begins like it. -/
def noticeDeclaration : IndexDeclaration where
  typeName := "letter"
  indexName := some "letter"
  version := 1
  fields := [⟨"NOT", .keyword⟩, ⟨"NOTICE", .keyword⟩]
  defaultFields := []
  hasExtractor := true

/-- The longer name is read as that of a field, the shorter one is not. -/
theorem notice_is_asked :
    ∃ leaf, Query.read? ("NOTICE".toList ++ ':' :: "open".toList) =
        some (Query.oneClause none (.fieldLeaf "NOTICE".toList leaf)) ∧
      Query.read? ("NOT".toList ++ ':' :: "open".toList) ≠
        some (Query.oneClause none (.fieldLeaf "NOT".toList leaf)) := by
  let configuration : IndexConfiguration := ⟨noticeDeclaration, by decide +kernel⟩
  have negation : (⟨"NOT", .keyword⟩ : FieldSpec) ∈ configuration.fields := List.mem_cons_self
  have notice : (⟨"NOTICE", .keyword⟩ : FieldSpec) ∈ configuration.fields :=
    List.mem_cons_of_mem _ List.mem_cons_self
  exact ⟨_, (configuration.read?_declared_iff notice (.leaf rfl)).2 (by decide),
    fun read => (configuration.read?_declared_iff negation (.leaf rfl)).1 read rfl⟩

/-- A query that asks a field called like the word of negation is refused. -/
theorem Translator.translate_negation_field (translator : Translator) (text : String) :
    translator.translate ("NOT" ++ ":" ++ text) = .error (.unreadable ("NOT" ++ ":" ++ text)) := by
  have characters : ("NOT" ++ ":" ++ text).toList = ['N', 'O', 'T'] ++ ':' :: text.toList := by
    simp
  rw [translate, characters, Query.read?_negation_colon]

def negationDeclaration : IndexDeclaration where
  typeName := "letter"
  indexName := some "letter"
  version := 1
  fields := [⟨"NOT", .keyword⟩]
  defaultFields := []
  hasExtractor := true

/-- The declaration is accepted, and yet all queries of its field are refused. -/
theorem exists_refused_field :
    ∃ configuration spec, negationDeclaration.build = .ok configuration ∧
      spec ∈ configuration.fields ∧ ∀ (translator : Translator) (text : String),
        translator.translate (spec.name ++ ":" ++ text) =
          .error (.unreadable (spec.name ++ ":" ++ text)) :=
  ⟨⟨negationDeclaration, by decide +kernel⟩, ⟨"NOT", .keyword⟩, rfl, List.mem_cons_self,
    Translator.translate_negation_field⟩

end EntitySearch
