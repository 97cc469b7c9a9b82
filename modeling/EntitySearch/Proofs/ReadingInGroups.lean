import EntitySearch.Proofs.BalancedReading

/-!
# Reading a query inside parentheses

A query reads inside parentheses as it does on its own.  Readers look for what
ends a construct, so the closing parenthesis behind a text changes their answer
only where a group, a phrase, a range or an escape has been left open, and a text
that can be read leaves none of them open.
-/

namespace EntitySearch.Query

/-- What has been read, with more text behind it. -/
def followedBy {Read : Type} (tail : List Char) (found : Read × List Char) :
    Read × List Char :=
  (found.1, found.2 ++ tail)

/-! ### Readers that look at single characters -/

theorem takeWhile_append_cons {test : Char → Bool} {stop : Char} (stops : test stop = false)
    (source tail : List Char) :
    (source ++ stop :: tail).takeWhile test = source.takeWhile test := by
  induction source with
  | nil => simp [stops]
  | cons character source ih => simp [List.takeWhile_cons, ih]

theorem dropWhile_append_cons {test : Char → Bool} {stop : Char} (stops : test stop = false)
    (source tail : List Char) :
    (source ++ stop :: tail).dropWhile test = source.dropWhile test ++ stop :: tail := by
  induction source with
  | nil => simp [stops]
  | cons character source ih =>
      by_cases taken : test character = true
      · simp [taken, ih]
      · simp [taken]

theorem skipBlanks_append (source tail : List Char) :
    skipBlanks (source ++ ')' :: tail) = skipBlanks source ++ ')' :: tail :=
  dropWhile_append_cons (by decide) source tail

theorem afterLiteral?_append (literal : List Char) {stop : Char} (absent : stop ∉ literal)
    (source tail : List Char) :
    afterLiteral? literal (source ++ stop :: tail) =
      (afterLiteral? literal source).map (· ++ stop :: tail) := by
  induction literal generalizing source with
  | nil => simp [afterLiteral?]
  | cons expected literal ih =>
      rw [List.mem_cons, not_or] at absent
      cases source with
      | nil => simp [afterLiteral?, Ne.symm absent.1]
      | cons character source =>
          by_cases same : expected = character
          · simp [afterLiteral?, same, ih absent.2]
          · simp [afterLiteral?, same]

theorem startsTermCharacter_append (source tail : List Char) :
    startsTermCharacter (source ++ ')' :: tail) = startsTermCharacter source := by
  cases source with
  | nil => rfl
  | cons character source => rfl

theorem afterWord?_append (keyword : List Char) (absent : ')' ∉ keyword)
    (source tail : List Char) :
    afterWord? keyword (source ++ ')' :: tail) =
      (afterWord? keyword source).map (· ++ ')' :: tail) := by
  unfold afterWord?
  rw [afterLiteral?_append keyword absent]
  cases afterLiteral? keyword source with
  | none => rfl
  | some rest =>
      simp only [Option.map_some, startsTermCharacter_append]
      split <;> rfl

theorem afterAnd?_append (source tail : List Char) :
    afterAnd? (source ++ ')' :: tail) = (afterAnd? source).map (· ++ ')' :: tail) := by
  simp only [afterAnd?, afterLiteral?_append ['&', '&'] (show ')' ∉ _ by decide),
    afterWord?_append ['A', 'N', 'D'] (by decide), Option.map_or]

theorem afterOr?_append (source tail : List Char) :
    afterOr? (source ++ ')' :: tail) = (afterOr? source).map (· ++ ')' :: tail) := by
  simp only [afterOr?, afterLiteral?_append ['|', '|'] (show ')' ∉ _ by decide),
    afterWord?_append ['O', 'R'] (by decide), Option.map_or]

theorem startsKeyword_append (source tail : List Char) :
    startsKeyword (source ++ ')' :: tail) = startsKeyword source := by
  simp [startsKeyword, afterWord?_append ['A', 'N', 'D'] (by decide),
    afterWord?_append ['O', 'R'] (by decide),
    afterWord?_append ['N', 'O', 'T'] (by decide)]

theorem readModifier_append (source tail : List Char) :
    readModifier (source ++ ')' :: tail) =
      followedBy (')' :: tail) (readModifier source) := by
  have word := afterWord?_append ['N', 'O', 'T'] (by decide) source tail
  cases source with
  | nil => rfl
  | cons character rest =>
      by_cases sign : character = '+' ∨ character = '-' ∨ character = '!'
      · rcases sign with rfl | rfl | rfl <;> rfl
      · rw [not_or, not_or] at sign
        obtain ⟨notPlus, notMinus, notBang⟩ := sign
        rw [List.cons_append] at word
        simp only [readModifier, List.cons_append, word]
        cases afterWord? ['N', 'O', 'T'] (character :: rest) <;>
          simp [followedBy, notPlus, notMinus, notBang]

theorem readFraction_append (source tail : List Char) :
    readFraction (source ++ ')' :: tail) =
      followedBy (')' :: tail) (readFraction source) := by
  cases source with
  | nil => rfl
  | cons character rest =>
      by_cases point : character = '.'
      · subst point
        have noDigit : Char.isDigit ')' = false := by decide
        simp only [readFraction, List.cons_append, takeWhile_append_cons noDigit,
          dropWhile_append_cons noDigit]
        split <;> rfl
      · simp [readFraction, point, followedBy]

theorem readBoost_append (source tail : List Char) :
    readBoost (source ++ ')' :: tail) = followedBy (')' :: tail) (readBoost source) := by
  cases source with
  | nil => rfl
  | cons character rest =>
      by_cases caret : character = '^'
      · subst caret
        have noDigit : Char.isDigit ')' = false := by decide
        simp only [readBoost, List.cons_append, takeWhile_append_cons noDigit,
          dropWhile_append_cons noDigit, readFraction_append]
        split <;> rfl
      · simp [readBoost, caret, followedBy]

theorem readFieldName?_append (source tail : List Char) :
    readFieldName? (source ++ ')' :: tail) =
      (readFieldName? source).map (followedBy (')' :: tail)) := by
  unfold readFieldName?
  rw [takeWhile_append_cons (by decide), dropWhile_append_cons (by decide), skipBlanks_append]
  by_cases unnamed : (source.takeWhile isNameCharacter).isEmpty = true
  · simp only [unnamed, if_true, Option.map_none]
  · simp only [unnamed]
    cases skipBlanks (source.dropWhile isNameCharacter) with
    | nil => rfl
    | cons character behind =>
        by_cases colon : character = ':'
        · subst colon
          simp [skipBlanks_append, followedBy]
        · simp [colon]

/-! ### Leaves and ranges -/

/-- A backslash that makes nothing literal is the last character. -/
theorem ne_backslash_of_endsUnpaired {character : Char} {rest : List Char}
    (paired : endsUnpaired (character :: rest) = false)
    (notEscape : ∀ escaped behind, character = '\\' → rest = escaped :: behind → False) :
    character ≠ '\\' := by
  rintro rfl
  cases rest with
  | nil => simp [endsUnpaired] at paired
  | cons escaped behind => exact notEscape escaped behind rfl rfl

theorem spanTerm_append_closing {source : List Char} (paired : endsUnpaired source = false)
    (tail : List Char) :
    spanTerm (source ++ ')' :: tail) = followedBy (')' :: tail) (spanTerm source) := by
  induction source using spanTerm.induct with
  | case1 => simp [spanTerm, followedBy, show isPlain ')' = false by decide]
  | case2 character rest _ _ _ ih =>
      simp [spanTerm, ih (by simpa using paired), followedBy]
  | case3 character rest notEscape plain _ _ _ ih =>
      have notBackslash := ne_backslash_of_endsUnpaired paired notEscape
      rw [endsUnpaired_cons notBackslash] at paired
      simp [spanTerm, notBackslash, plain, ih paired, followedBy]
  | case4 character rest notEscape notPlain =>
      have notBackslash := ne_backslash_of_endsUnpaired paired notEscape
      simp [spanTerm, notBackslash, notPlain, followedBy]

theorem spanWildcard_append_closing {source : List Char}
    (paired : endsUnpaired source = false) (tail : List Char) :
    spanWildcard (source ++ ')' :: tail) =
      followedBy (')' :: tail) (spanWildcard source) := by
  induction source using spanWildcard.induct with
  | case1 =>
      simp [spanWildcard, followedBy,
        show (isPlain ')' || isWildcardSign ')') = false by decide]
  | case2 character rest _ _ _ ih =>
      simp [spanWildcard, ih (by simpa using paired), followedBy]
  | case3 character rest notEscape taken _ _ _ ih =>
      have notBackslash := ne_backslash_of_endsUnpaired paired notEscape
      rw [endsUnpaired_cons notBackslash] at paired
      rw [List.cons_append, spanWildcard, spanWildcard, if_pos taken, if_pos taken, ih paired]
      · rfl
      · exact fun _ _ same => (notBackslash same).elim
      · exact fun _ _ same => (notBackslash same).elim
  | case4 character rest notEscape notTaken =>
      have notBackslash := ne_backslash_of_endsUnpaired paired notEscape
      rw [List.cons_append, spanWildcard, spanWildcard, if_neg notTaken, if_neg notTaken]
      · rfl
      · exact fun _ _ same => (notBackslash same).elim
      · exact fun _ _ same => (notBackslash same).elim

theorem readWildcard?_append {source : List Char} (paired : endsUnpaired source = false)
    (tail : List Char) :
    readWildcard? (source ++ ')' :: tail) =
      (readWildcard? source).map (followedBy (')' :: tail)) := by
  have lead := balanced_spanTerm source
  unfold readWildcard?
  rw [spanTerm_append_closing paired]
  rcases span : spanTerm source with ⟨run, behind⟩
  cases behind with
  | nil => rfl
  | cons sign behind =>
      by_cases wild : isWildcardSign sign = true
      · have notBackslash : sign ≠ '\\' := by rintro rfl; simp [isWildcardSign] at wild
        have pairedBehind : endsUnpaired behind = false := by
          rw [span] at lead
          rw [← endsUnpaired_cons notBackslash]
          exact (lead paired).1
        simp [followedBy, wild, spanWildcard_append_closing pairedBehind]
      · simp [followedBy, wild]

theorem readTerm?_append {source : List Char} (paired : endsUnpaired source = false)
    (tail : List Char) :
    readTerm? (source ++ ')' :: tail) =
      (readTerm? source).map (followedBy (')' :: tail)) := by
  unfold readTerm?
  rw [startsKeyword_append, spanTerm_append_closing paired]
  split
  · rfl
  · rcases spanTerm source with ⟨run, behind⟩
    cases run <;> rfl

theorem splitPhrase?_append {source : List Char} {found : List Char × List Char}
    (split : splitPhrase? source = some found) (tail : List Char) :
    splitPhrase? (source ++ tail) = some (followedBy tail found) := by
  induction source using splitPhrase?.induct generalizing found with
  | case1 => simp [splitPhrase?] at split
  | case2 behind =>
      obtain rfl : found = ([], behind) := by simpa [splitPhrase?] using split.symm
      rfl
  | case3 character behind ih =>
      obtain ⟨inner, innerSplit, rfl⟩ := Option.map_eq_some_iff.1 split
      simp [splitPhrase?, ih innerSplit, followedBy]
  | case4 character behind notQuote notEscape ih =>
      rw [splitPhrase? , Option.map_eq_some_iff] at split
      · obtain ⟨inner, innerSplit, rfl⟩ := split
        have notBackslash : character ≠ '\\' := by
          rintro rfl
          cases behind with
          | nil => simp [splitPhrase?] at innerSplit
          | cons escaped later => exact notEscape escaped later rfl rfl
        rw [List.cons_append, splitPhrase?, ih innerSplit]
        · rfl
        · exact notQuote
        · exact fun _ _ same => (notBackslash same).elim
      · exact notQuote
      · exact notEscape

theorem readLeaf?_append {source : List Char} (complete : Complete source)
    (tail : List Char) :
    readLeaf? (source ++ ')' :: tail) =
      (readLeaf? source).map (followedBy (')' :: tail)) := by
  have wildcard := readWildcard?_append complete.paired tail
  have term := readTerm?_append complete.paired tail
  have unquoted : (readWildcard? (source ++ ')' :: tail)).or
      (readTerm? (source ++ ')' :: tail)) =
        ((readWildcard? source).or (readTerm? source)).map (followedBy (')' :: tail)) := by
    rw [wildcard, term, Option.map_or]
  cases source with
  | nil => simpa [readLeaf?] using unquoted
  | cons character behind =>
      by_cases quote : character = '"'
      · subst quote
        cases split : splitPhrase? behind with
        | none =>
            have unclosed := scan_of_splitPhrase?_eq_none split 0
            have closed := complete.closed
            change scan ⟨.phrase, 0⟩ behind = _ at closed
            simp [closed] at unclosed
        | some found =>
            simp [readLeaf?, split, splitPhrase?_append split, followedBy]
      · simpa [readLeaf?, quote] using unquoted

theorem readBound?_append {closing : Char} (closes : isRangeEnd closing = true)
    (source tail : List Char) :
    readBound? (source ++ closing :: tail) =
      (readBound? source).map (followedBy (closing :: tail)) := by
  have notBound : isBoundCharacter closing = false := by
    simp only [isRangeEnd, Bool.or_eq_true, beq_iff_eq] at closes
    rcases closes with rfl | rfl <;> decide
  have notBlank : isBlank closing = false := by
    simp only [isRangeEnd, Bool.or_eq_true, beq_iff_eq] at closes
    rcases closes with rfl | rfl <;> decide
  unfold readBound?
  rw [takeWhile_append_cons notBound, dropWhile_append_cons notBound, skipBlanks,
    dropWhile_append_cons notBlank]
  dsimp only
  split <;> rfl

theorem readBounds?_append {closing : Char} (closes : isRangeEnd closing = true)
    (source behind tail : List Char) :
    readBounds? (source ++ closing :: (behind ++ tail)) =
      (readBounds? (source ++ closing :: behind)).map (followedBy tail) := by
  have notBlank : isBlank closing = false := by
    cases blank : isBlank closing with
    | false => rfl
    | true => simp [isRangeEnd_of_isBlank blank] at closes
  have notTo : closing ∉ ['T', 'O'] := by
    simp only [isRangeEnd, Bool.or_eq_true, beq_iff_eq] at closes
    rcases closes with rfl | rfl <;> decide
  have blanks (text later : List Char) :
      skipBlanks (text ++ closing :: later) = skipBlanks text ++ closing :: later :=
    dropWhile_append_cons notBlank text later
  unfold readBounds?
  simp only [blanks, readBound?_append closes, Option.bind_eq_bind]
  cases readBound? (skipBlanks source) with
  | none => rfl
  | some lower =>
      simp only [Option.map_some, Option.bind_some, followedBy,
        afterLiteral?_append _ notTo]
      cases afterLiteral? ['T', 'O'] lower.2 with
      | none => rfl
      | some afterTo =>
          simp only [Option.map_some, Option.bind_some, blanks, readBound?_append closes]
          cases readBound? (skipBlanks afterTo) with
          | none => rfl
          | some upper =>
              simp only [Option.map_some, Option.bind_some, followedBy]
              rcases upper with ⟨upper, rest⟩
              cases rest with
              | nil =>
                  simp only [isRangeEnd, Bool.or_eq_true, beq_iff_eq] at closes
                  rcases closes with rfl | rfl <;> rfl
              | cons character rest =>
                  by_cases bracket : character = ']' ∨ character = '\x7d'
                  · rcases bracket with rfl | rfl <;> simp [followedBy]
                  · rw [not_or] at bracket
                    simp [bracket.1, bracket.2]

theorem exists_isRangeEnd {opening : Char} {source : List Char}
    (opens : opening = '[' ∨ opening = '\x7b') (complete : Complete (opening :: source)) :
    ∃ inside closing behind, source = inside ++ closing :: behind ∧
      isRangeEnd closing = true := by
  have closed : scan ⟨.range, 0⟩ source = ⟨.plain, 0⟩ := by
    rcases opens with rfl | rfl <;> exact complete.closed
  by_cases inside : ∀ character ∈ source, isRangeEnd character = false
  · rw [scan_range_of_not_mem inside] at closed
    simp at closed
  · obtain ⟨closing, member, closes⟩ : ∃ closing ∈ source, isRangeEnd closing = true := by
      simpa using inside
    obtain ⟨before, behind, rfl⟩ := List.append_of_mem member
    exact ⟨before, closing, behind, rfl, closes⟩

theorem readRange?_append {source : List Char} (complete : Complete source)
    (tail : List Char) :
    readRange? (source ++ ')' :: tail) =
      (readRange? source).map (followedBy (')' :: tail)) := by
  cases source with
  | nil => rfl
  | cons opening behind =>
      by_cases opens : opening = '[' ∨ opening = '\x7b'
      · obtain ⟨inside, closing, later, rfl, closes⟩ := exists_isRangeEnd opens complete
        have bounds := readBounds?_append closes inside later (')' :: tail)
        rcases opens with rfl | rfl <;> simpa [readRange?] using bounds
      · rw [not_or] at opens
        simp [readRange?, opens.1, opens.2]

/-! ### The readers that call each other -/

/-- Behind a complete text a closing parenthesis changes no answer within an allowance. -/
structure Extends (allowance : Nat) : Prop where
  disjunction : ∀ {source}, Complete source → ∀ tail,
    readDisjunction? allowance (source ++ ')' :: tail) =
      (readDisjunction? allowance source).map (followedBy (')' :: tail))
  conjunction : ∀ {source}, Complete source → ∀ tail,
    readConjunction? allowance (source ++ ')' :: tail) =
      (readConjunction? allowance source).map (followedBy (')' :: tail))
  clause : ∀ {source}, Complete source → ∀ tail,
    readClause? allowance (source ++ ')' :: tail) =
      (readClause? allowance source).map (followedBy (')' :: tail))
  body : ∀ {source}, Complete source → ∀ tail,
    readBody? allowance (source ++ ')' :: tail) =
      (readBody? allowance source).map (followedBy (')' :: tail))
  group : ∀ {source}, Complete source → ∀ tail,
    readGroup? allowance (source ++ ')' :: tail) =
      (readGroup? allowance source).map (followedBy (')' :: tail))
  fieldBody : ∀ {source}, Complete source → ∀ tail,
    readFieldBody? allowance (source ++ ')' :: tail) =
      (readFieldBody? allowance source).map (followedBy (')' :: tail))

namespace Extends

variable {allowance : Nat}

theorem disjunction_succ (extended : Extends allowance) {source : List Char}
    (complete : Complete source) (tail : List Char) :
    readDisjunction? (allowance + 1) (source ++ ')' :: tail) =
      (readDisjunction? (allowance + 1) source).map (followedBy (')' :: tail)) := by
  rw [readDisjunction?, readDisjunction?, extended.conjunction complete]
  cases first : readConjunction? allowance source with
  | none => rfl
  | some found =>
      obtain ⟨conjunction, behind⟩ := found
      have completeBehind := complete.of_balanced ((balances allowance).conjunction first)
      simp only [Option.map_some, followedBy, afterOr?_append]
      cases operator : afterOr? behind with
      | none =>
          simp only [Option.map_none, extended.disjunction completeBehind]
          cases readDisjunction? allowance behind <;> rfl
      | some next =>
          have completeNext := (completeBehind.of_balanced
            (balanced_of_afterOr? operator)).of_balanced (balanced_skipBlanks next)
          simp only [Option.map_some, skipBlanks_append, extended.disjunction completeNext]
          cases readDisjunction? allowance (skipBlanks next) <;> rfl

theorem conjunction_succ (extended : Extends allowance) {source : List Char}
    (complete : Complete source) (tail : List Char) :
    readConjunction? (allowance + 1) (source ++ ')' :: tail) =
      (readConjunction? (allowance + 1) source).map (followedBy (')' :: tail)) := by
  rw [readConjunction?, readConjunction?, extended.clause complete]
  cases first : readClause? allowance source with
  | none => rfl
  | some found =>
      obtain ⟨clause, behind⟩ := found
      have completeBehind := complete.of_balanced ((balances allowance).clause first)
      simp only [Option.map_some, followedBy, afterAnd?_append]
      cases operator : afterAnd? behind with
      | none => rfl
      | some next =>
          have completeNext := (completeBehind.of_balanced
            (balanced_of_afterAnd? operator)).of_balanced (balanced_skipBlanks next)
          simp only [Option.map_some, skipBlanks_append, extended.conjunction completeNext]
          cases readConjunction? allowance (skipBlanks next) <;> rfl

theorem clause_succ (extended : Extends allowance) {source : List Char}
    (complete : Complete source) (tail : List Char) :
    readClause? (allowance + 1) (source ++ ')' :: tail) =
      (readClause? (allowance + 1) source).map (followedBy (')' :: tail)) := by
  have completeBody := (complete.of_balanced (balanced_readModifier source)).of_balanced
    (balanced_skipBlanks _)
  rw [readClause?, readClause?]
  simp only [readModifier_append, followedBy, skipBlanks_append, extended.body completeBody]
  cases readBody? allowance (skipBlanks (readModifier source).2) with
  | none => rfl
  | some found => simp [followedBy, skipBlanks_append, readBoost_append]

theorem body_succ (extended : Extends allowance) {source : List Char}
    (complete : Complete source) (tail : List Char) :
    readBody? (allowance + 1) (source ++ ')' :: tail) =
      (readBody? (allowance + 1) source).map (followedBy (')' :: tail)) := by
  rw [readBody?, readBody?, extended.group complete, extended.fieldBody complete,
    readLeaf?_append complete,
    afterLiteral?_append ['*', ':', '*'] (show ')' ∉ _ by decide)]
  cases readGroup? allowance source with
  | some found => rfl
  | none =>
      cases afterLiteral? ['*', ':', '*'] source with
      | some rest => rfl
      | none =>
          cases readFieldBody? allowance source with
          | some found => rfl
          | none => cases readLeaf? source <;> rfl

theorem group_succ (extended : Extends allowance) {source : List Char}
    (complete : Complete source) (tail : List Char) :
    readGroup? (allowance + 1) (source ++ ')' :: tail) =
      (readGroup? (allowance + 1) source).map (followedBy (')' :: tail)) := by
  cases source with
  | nil => simp [readGroup?]
  | cons character inside =>
      by_cases opens : character = '('
      · subst opens
        have completeInside := complete.inside.of_balanced (balanced_skipBlanks inside)
        simp only [readGroup?, List.cons_append, skipBlanks_append,
          extended.disjunction completeInside]
        cases inner : readDisjunction? allowance (skipBlanks inside) with
        | none => rfl
        | some found =>
            obtain ⟨read, rest⟩ := found
            cases rest with
            | nil =>
                exact (complete.not_balanced_nil ((balanced_skipBlanks inside).trans
                  ((balances allowance).disjunction inner))).elim
            | cons closing rest =>
                by_cases closes : closing = ')'
                · subst closes
                  rfl
                · simp [followedBy, closes]
      · simp [readGroup?, opens]

theorem fieldBody_succ (extended : Extends allowance) {source : List Char}
    (complete : Complete source) (tail : List Char) :
    readFieldBody? (allowance + 1) (source ++ ')' :: tail) =
      (readFieldBody? (allowance + 1) source).map (followedBy (')' :: tail)) := by
  rw [readFieldBody?, readFieldBody?, readFieldName?_append]
  cases name : readFieldName? source with
  | none => rfl
  | some found =>
      obtain ⟨field, value⟩ := found
      have completeValue := complete.of_balanced (balanced_of_readFieldName? name)
      simp only [Option.map_some, followedBy, readRange?_append completeValue]
      cases readRange? value with
      | some range => rfl
      | none =>
          simp only [Option.map_none, extended.group completeValue,
            readLeaf?_append completeValue]
          cases readGroup? allowance value with
          | some group => rfl
          | none => cases readLeaf? value <;> rfl

end Extends

theorem extends_of_complete (allowance : Nat) : Extends allowance := by
  induction allowance with
  | zero =>
      constructor <;> intro source complete tail
      · simp [readDisjunction?]
      · simp [readConjunction?]
      · simp [readClause?]
      · simp [readBody?]
      · simp [readGroup?]
      · simp [readFieldBody?]
  | succ allowance ih =>
      exact ⟨ih.disjunction_succ, ih.conjunction_succ, ih.clause_succ, ih.body_succ,
        ih.group_succ, ih.fieldBody_succ⟩

/-! ### Whole queries -/

/-- A query in parentheses, with text behind them. -/
def parenthesised (query tail : List Char) : List Char :=
  '(' :: (query ++ ')' :: tail)

def inGroup (modifier : Option Modifier) (tree : Disjunction) : Clause :=
  .mk modifier (.group tree) none

theorem readDisjunction?_of_read? {query : List Char} {tree : Disjunction}
    (read : read? query = some tree) {allowance : Nat}
    (ample : readingAllowance query ≤ allowance) :
    readDisjunction? allowance (skipBlanks query) = some (tree, []) := by
  have shorter := skipBlanks_length_le query
  have found : readDisjunction? (readingAllowance query) (skipBlanks query) =
      some (tree, []) := by
    unfold read? at read
    split at read
    case h_1 _ found =>
      cases read
      exact found
    case h_2 => simp at read
  rw [readingAllowance] at found ample
  rw [readDisjunction?_of_le (by omega)] at found ⊢
  exact found

theorem readGroup?_of_read? {query : List Char} {tree : Disjunction}
    (read : read? query = some tree) (paired : endsUnpaired query = false) {allowance : Nat}
    (ample : readingAllowance query ≤ allowance) (tail : List Char) :
    readGroup? (allowance + 1) (parenthesised query tail) = some (tree, tail) := by
  have found := readDisjunction?_of_read? read ample
  have balanced := (balances allowance).disjunction found
  have complete := complete_of_balanced_nil ((balanced_skipBlanks query) paired).1 balanced
  refine readGroup?_eq_some_iff.2 ⟨query ++ ')' :: tail, rfl, ?_⟩
  rw [skipBlanks_append, (extends_of_complete allowance).disjunction complete, found]
  rfl

/-- A query in parentheses is a clause of its own where no boost follows. -/
theorem readClause?_of_read? (source : List Char) {query tail rest : List Char}
    {tree : Disjunction} {modifier : Option Modifier} (read : read? query = some tree)
    (paired : endsUnpaired query = false) {allowance : Nat}
    (ample : readingAllowance query ≤ allowance)
    (modified : (readModifier source).1 = modifier ∧
      skipBlanks (readModifier source).2 = parenthesised query tail)
    (unweighed : skipBlanks tail = rest ∧ readBoost rest = (none, rest) ∧
      skipBlanks rest = rest) :
    readClause? (allowance + 3) source = some (inGroup modifier tree, rest) := by
  obtain ⟨rfl, opened⟩ := modified
  obtain ⟨rfl, noBoost, skipped⟩ := unweighed
  have group := readGroup?_of_read? read paired ample tail
  rw [readClause?]
  dsimp only
  rw [opened, readBody?, group]
  simp only [noBoost, skipped, inGroup]

theorem readConjunction?_single {allowance : Nat} {source rest : List Char} {first : Clause}
    (read : readClause? allowance source = some (first, rest)) (last : afterAnd? rest = none) :
    readConjunction? (allowance + 1) source = some (.single first, rest) := by
  rw [readConjunction?, read]
  simp only [last]

theorem readConjunction?_more {allowance : Nat} {source behind next rest : List Char}
    {first : Clause} {others : Conjunction}
    (read : readClause? allowance source = some (first, behind))
    (operator : afterAnd? behind = some next)
    (readOthers : readConjunction? allowance (skipBlanks next) = some (others, rest)) :
    readConjunction? (allowance + 1) source = some (.more first others, rest) := by
  rw [readConjunction?, read]
  simp only [operator, readOthers]

theorem readDisjunction?_nil (allowance : Nat) : readDisjunction? allowance [] = none := by
  cases found : readDisjunction? allowance [] with
  | none => rfl
  | some read =>
      have shorter := (consumes allowance).disjunction found
      simp at shorter

theorem readDisjunction?_single {allowance : Nat} {source : List Char} {first : Conjunction}
    (read : readConjunction? allowance source = some (first, [])) :
    readDisjunction? (allowance + 1) source = some (.single first, []) := by
  rw [readDisjunction?, read]
  simp only [show afterOr? [] = none by decide, readDisjunction?_nil]

theorem readDisjunction?_more {allowance : Nat} {source behind next rest : List Char}
    {first : Conjunction} {others : Disjunction}
    (read : readConjunction? allowance source = some (first, behind))
    (operator : afterOr? behind = some next)
    (readOthers : readDisjunction? allowance (skipBlanks next) = some (others, rest)) :
    readDisjunction? (allowance + 1) source = some (.more first others, rest) := by
  rw [readDisjunction?, read]
  simp only [operator, readOthers]

theorem read?_of_readDisjunction? {allowance : Nat} {source : List Char}
    {tree : Disjunction} (noBlank : skipBlanks source = source)
    (ample : readingAllowance source ≤ allowance)
    (read : readDisjunction? allowance source = some (tree, [])) :
    read? source = some tree := by
  rw [readingAllowance] at ample
  rw [readDisjunction?_of_le ample] at read
  simp only [read?, noBlank, readingAllowance, read]

section Compounds

variable {first second : List Char} {firstTree secondTree : Disjunction}

theorem read?_negation (read : read? first = some firstTree)
    (paired : endsUnpaired first = false) :
    read? (['N', 'O', 'T', ' '] ++ parenthesised first []) =
      some (.single (.single (inGroup (some .mustNot) firstTree))) := by
  have ample : readingAllowance first ≤
      readingAllowance (['N', 'O', 'T', ' '] ++ parenthesised first []) := by
    simp [readingAllowance, parenthesised]; omega
  have clause := readClause?_of_read? (['N', 'O', 'T', ' '] ++ parenthesised first [])
    read paired ample ⟨rfl, rfl⟩ ⟨rfl, rfl, rfl⟩
  have conjunction := readConjunction?_single clause rfl
  exact read?_of_readDisjunction? rfl (Nat.le_add_right _ 5)
    (readDisjunction?_single conjunction)

/-- Two queries with the operator of a conjunction between them read as two clauses; the
second one may be forbidden. -/
theorem read?_conjunction {lead : List Char} {modifier : Option Modifier}
    (readFirst : read? first = some firstTree) (pairedFirst : endsUnpaired first = false)
    (readSecond : read? second = some secondTree)
    (pairedSecond : endsUnpaired second = false)
    (modified : (readModifier (skipBlanks (lead ++ parenthesised second []))).1 = modifier ∧
      skipBlanks (readModifier (skipBlanks (lead ++ parenthesised second []))).2 =
        parenthesised second []) :
    read? (parenthesised first
        ([' ', 'A', 'N', 'D', ' '] ++ (lead ++ parenthesised second []))) =
      some (.single (.more (inGroup none firstTree)
        (.single (inGroup modifier secondTree)))) := by
  let behind := lead ++ parenthesised second []
  let source := parenthesised first ([' ', 'A', 'N', 'D', ' '] ++ behind)
  have ampleFirst : readingAllowance first ≤ readingAllowance source + 1 := by
    simp [readingAllowance, source, parenthesised]; omega
  have ampleSecond : readingAllowance second ≤ readingAllowance source := by
    simp [readingAllowance, source, behind, parenthesised]; omega
  have firstClause := readClause?_of_read? source readFirst pairedFirst ampleFirst
    ⟨rfl, rfl⟩ ⟨rfl, rfl, rfl⟩
  have secondClause := readClause?_of_read? (skipBlanks (' ' :: behind)) readSecond
    pairedSecond ampleSecond modified ⟨rfl, rfl, rfl⟩
  have conjunction := readConjunction?_more firstClause rfl
    (readConjunction?_single secondClause rfl)
  exact read?_of_readDisjunction? rfl (Nat.le_add_right _ 6)
    (readDisjunction?_single conjunction)

/-- Two queries with the operator of a disjunction between them read as two conjunctions. -/
theorem read?_disjunction (readFirst : read? first = some firstTree)
    (pairedFirst : endsUnpaired first = false) (readSecond : read? second = some secondTree)
    (pairedSecond : endsUnpaired second = false) :
    read? (parenthesised first ([' ', 'O', 'R', ' '] ++ parenthesised second [])) =
      some (.more (.single (inGroup none firstTree))
        (.single (.single (inGroup none secondTree)))) := by
  let source := parenthesised first ([' ', 'O', 'R', ' '] ++ parenthesised second [])
  have ampleFirst : readingAllowance first ≤ readingAllowance source + 1 := by
    simp [readingAllowance, source, parenthesised]; omega
  have ampleSecond : readingAllowance second ≤ readingAllowance source := by
    simp [readingAllowance, source, parenthesised]; omega
  have firstClause := readClause?_of_read? source readFirst pairedFirst ampleFirst
    ⟨rfl, rfl⟩ ⟨rfl, rfl, rfl⟩
  have secondClause := readClause?_of_read? (parenthesised second []) readSecond pairedSecond
    ampleSecond ⟨rfl, rfl⟩ ⟨rfl, rfl, rfl⟩
  have disjunction := readDisjunction?_more (readConjunction?_single firstClause rfl) rfl
    (readDisjunction?_single (readConjunction?_single secondClause rfl))
  exact read?_of_readDisjunction? rfl (Nat.le_add_right _ 6) disjunction

end Compounds

end EntitySearch.Query
