import EntitySearch.Query.Reading

/-!
# Progress of the query readers

Whatever a reader of clauses, groups or leaves takes is not empty, so reading
consumes the query.  It follows that the allowance of nested calls is ample: from
a bound that grows with the length of the source, every larger allowance reads the
same.
-/

namespace EntitySearch.Query

theorem skipBlanks_length_le (source : List Char) :
    (skipBlanks source).length ≤ source.length :=
  (List.dropWhile_suffix _).length_le

theorem spanTerm_append (source : List Char) :
    (spanTerm source).1 ++ (spanTerm source).2 = source := by
  induction source using spanTerm.induct with
  | case1 => rfl
  | case2 character rest _ _ _ ih => simp [spanTerm, ih]
  | case3 character rest _ plain _ _ _ ih => simp [spanTerm, plain, ih]
  | case4 character rest _ notPlain => simp [spanTerm, notPlain]

theorem spanWildcard_append (source : List Char) :
    (spanWildcard source).1 ++ (spanWildcard source).2 = source := by
  induction source using spanWildcard.induct with
  | case1 => rfl
  | case2 character rest _ _ _ ih => simp [spanWildcard, ih]
  | case3 character rest _ taken _ _ _ ih => simp [spanWildcard, taken, ih]
  | case4 character rest _ notTaken => simp [spanWildcard, notTaken]

theorem afterLiteral?_eq_some_iff {literal source rest : List Char} :
    afterLiteral? literal source = some rest ↔ source = literal ++ rest := by
  induction literal generalizing source with
  | nil => simp [afterLiteral?]
  | cons expected literal ih =>
      cases source with
      | nil => simp [afterLiteral?]
      | cons character source =>
          by_cases same : expected = character
          · simp [afterLiteral?, same, ih]
          · simp [afterLiteral?, same, Ne.symm same]

theorem afterWord?_eq_some_iff {keyword source rest : List Char} :
    afterWord? keyword source = some rest ↔
      source = keyword ++ rest ∧ startsTermCharacter rest = false := by
  unfold afterWord?
  cases taken : afterLiteral? keyword source with
  | none =>
      have notTaken : source ≠ keyword ++ rest := fun same => by
        simp [afterLiteral?_eq_some_iff.2 same] at taken
      simp [notTaken]
  | some behind =>
      rw [afterLiteral?_eq_some_iff] at taken
      subst taken
      by_cases continued : startsTermCharacter behind = true
      · simp only [continued, if_true, List.append_cancel_left_eq, reduceCtorEq, false_iff]
        rintro ⟨rfl, ended⟩
        simp [continued] at ended
      · simp only [continued, List.append_cancel_left_eq]
        constructor
        · rintro ⟨⟩
          simpa using continued
        · rintro ⟨rfl, -⟩
          rfl

theorem operator_length_lt {sign keyword source rest : List Char} (someSign : 0 < sign.length)
    (someKeyword : 0 < keyword.length)
    (found : (afterLiteral? sign source).or (afterWord? keyword source) = some rest) :
    rest.length < source.length := by
  rcases Option.or_eq_some_iff.1 found with taken | ⟨-, taken⟩
  · rw [afterLiteral?_eq_some_iff] at taken
    rw [taken, List.length_append]
    omega
  · rw [afterWord?_eq_some_iff] at taken
    rw [taken.1, List.length_append]
    omega

theorem afterAnd?_length_lt {source rest : List Char} (found : afterAnd? source = some rest) :
    rest.length < source.length :=
  operator_length_lt (by decide) (by decide) found

theorem afterOr?_length_lt {source rest : List Char} (found : afterOr? source = some rest) :
    rest.length < source.length :=
  operator_length_lt (by decide) (by decide) found

theorem readModifier_length_le (source : List Char) :
    (readModifier source).2.length ≤ source.length := by
  unfold readModifier
  split
  · simp
  · simp
  · simp
  · split
    case h_1 rest taken =>
      rw [afterWord?_eq_some_iff] at taken
      simp [taken.1]; omega
    case h_2 => simp

theorem readFraction_length_le (source : List Char) :
    (readFraction source).2.length ≤ source.length := by
  unfold readFraction
  split
  case h_1 rest =>
    have dropped := (List.dropWhile_suffix (l := rest) Char.isDigit).length_le
    dsimp only
    split <;> simp; omega
  case h_2 => simp

theorem readBoost_length_le (source : List Char) :
    (readBoost source).2.length ≤ source.length := by
  unfold readBoost
  split
  case h_1 rest =>
    have dropped := (List.dropWhile_suffix (l := rest) Char.isDigit).length_le
    have fraction := readFraction_length_le (rest.dropWhile Char.isDigit)
    dsimp only
    split <;> simp; omega
  case h_2 => simp

theorem readFieldName?_eq_some_iff {source name rest : List Char} :
    readFieldName? source = some (name, rest) ↔
      name = source.takeWhile isNameCharacter ∧ name ≠ [] ∧
        ∃ behind, skipBlanks (source.dropWhile isNameCharacter) = ':' :: behind ∧
          rest = skipBlanks behind := by
  unfold readFieldName?
  by_cases noName : source.takeWhile isNameCharacter = []
  · simp only [noName, List.isEmpty_nil, if_true, reduceCtorEq, false_iff]
    rintro ⟨rfl, named, -⟩
    exact named rfl
  · simp only [List.isEmpty_iff, noName, if_false]
    split
    case h_1 behind colon =>
      constructor
      · intro found
        obtain ⟨rfl, rfl⟩ : _ ∧ _ := by simpa using found
        exact ⟨rfl, noName, behind, colon, rfl⟩
      · rintro ⟨rfl, -, other, otherColon, rfl⟩
        obtain rfl : behind = other := by simpa [colon] using otherColon
        rfl
    case h_2 noColon =>
      simp only [reduceCtorEq, false_iff]
      rintro ⟨-, -, behind, colon, -⟩
      exact noColon behind colon

theorem readFieldName?_length_lt {source name rest : List Char}
    (found : readFieldName? source = some (name, rest)) :
    rest.length < source.length := by
  obtain ⟨-, -, behind, colon, rfl⟩ := readFieldName?_eq_some_iff.1 found
  have dropped := (List.dropWhile_suffix (l := source) isNameCharacter).length_le
  have skipped := skipBlanks_length_le (source.dropWhile isNameCharacter)
  have later := skipBlanks_length_le behind
  simp only [colon, List.length_cons] at skipped
  omega

theorem splitPhrase?_length_lt {source text rest : List Char}
    (found : splitPhrase? source = some (text, rest)) : rest.length < source.length := by
  induction source using splitPhrase?.induct generalizing text rest with
  | case1 => simp [splitPhrase?] at found
  | case2 behind =>
      obtain ⟨-, rfl⟩ : _ ∧ _ := by simpa [splitPhrase?] using found
      simp
  | case3 character behind ih =>
      obtain ⟨inner, split, -⟩ : ∃ inner, splitPhrase? behind = some (inner, rest) ∧ _ := by
        simpa [splitPhrase?] using found
      have := ih split
      simp; omega
  | case4 character behind notQuote notEscape ih =>
      obtain ⟨inner, split, -⟩ : ∃ inner, splitPhrase? behind = some (inner, rest) ∧ _ := by
        simpa [splitPhrase?] using found
      have := ih split
      simp; omega

theorem readWildcard?_length_lt {source rest : List Char} {leaf : Leaf}
    (found : readWildcard? source = some (leaf, rest)) : rest.length < source.length := by
  have taken := congrArg List.length (spanTerm_append source)
  unfold readWildcard? at found
  split at found
  case h_1 lead sign behind span =>
    have tail := congrArg List.length (spanWildcard_append behind)
    split at found
    · obtain ⟨-, rfl⟩ : _ ∧ _ := by simpa using found
      simp [span] at taken tail
      omega
    · simp at found
  case h_2 => simp at found

theorem readTerm?_length_lt {source rest : List Char} {leaf : Leaf}
    (found : readTerm? source = some (leaf, rest)) : rest.length < source.length := by
  have taken := congrArg List.length (spanTerm_append source)
  unfold readTerm? at found
  split at found
  · simp at found
  · split at found
    case h_1 => simp at found
    case h_2 run behind notEmpty span =>
      obtain ⟨-, rfl⟩ : _ ∧ _ := by simpa using found
      have : 0 < run.length := List.length_pos_iff.2 notEmpty
      simp [span] at taken
      omega

theorem readLeaf?_length_lt {source rest : List Char} {leaf : Leaf}
    (found : readLeaf? source = some (leaf, rest)) : rest.length < source.length := by
  unfold readLeaf? at found
  split at found
  case h_1 behind =>
    obtain ⟨text, split, -⟩ : ∃ text, splitPhrase? behind = some (text, rest) ∧ _ := by
      simpa using found
    have := splitPhrase?_length_lt split
    simp; omega
  case h_2 =>
    rcases Option.or_eq_some_iff.1 found with wildcard | ⟨-, term⟩
    · exact readWildcard?_length_lt wildcard
    · exact readTerm?_length_lt term

theorem readBound?_length_lt {source bound rest : List Char}
    (found : readBound? source = some (bound, rest)) : rest.length < source.length := by
  unfold readBound? at found
  have taken := congrArg List.length
    (List.takeWhile_append_dropWhile (p := isBoundCharacter) (l := source))
  have skipped := skipBlanks_length_le (source.dropWhile isBoundCharacter)
  by_cases empty : source.takeWhile isBoundCharacter = []
  · simp [empty] at found
  · obtain ⟨-, rfl⟩ : _ ∧ _ := by simpa [empty] using found
    have : 0 < (source.takeWhile isBoundCharacter).length := List.length_pos_iff.2 empty
    rw [List.length_append] at taken
    omega

theorem readBounds?_eq_some_iff {source lower upper rest : List Char} :
    readBounds? source = some ((lower, upper), rest) ↔
      ∃ afterLower afterTo afterUpper,
        readBound? (skipBlanks source) = some (lower, afterLower) ∧
        afterLower = 'T' :: 'O' :: afterTo ∧
        readBound? (skipBlanks afterTo) = some (upper, afterUpper) ∧
        (afterUpper = ']' :: rest ∨ afterUpper = '\x7d' :: rest) := by
  unfold readBounds?
  simp only [Option.bind_eq_bind, Option.bind_eq_some_iff, afterLiteral?_eq_some_iff]
  constructor
  · rintro ⟨⟨readLower, afterLower⟩, lowerRead, afterTo, rfl, ⟨readUpper, afterUpper⟩,
      upperRead, closed⟩
    dsimp only at closed upperRead
    split at closed
    · obtain ⟨⟨rfl, rfl⟩, rfl⟩ : (_ ∧ _) ∧ _ := by simpa using closed
      exact ⟨_, afterTo, _, lowerRead, rfl, upperRead, Or.inl rfl⟩
    · obtain ⟨⟨rfl, rfl⟩, rfl⟩ : (_ ∧ _) ∧ _ := by simpa using closed
      exact ⟨_, afterTo, _, lowerRead, rfl, upperRead, Or.inr rfl⟩
    · simp at closed
  · rintro ⟨afterLower, afterTo, afterUpper, lowerRead, rfl, upperRead, closed⟩
    refine ⟨_, lowerRead, afterTo, rfl, _, upperRead, ?_⟩
    rcases closed with rfl | rfl <;> rfl

theorem readRange?_length_lt {source rest : List Char} {bounds : List Char × List Char}
    (found : readRange? source = some (bounds, rest)) : rest.length < source.length := by
  have behindBracket : ∀ behind, readBounds? behind = some (bounds, rest) →
      rest.length < behind.length := by
    intro behind read
    obtain ⟨afterLower, afterTo, afterUpper, lowerRead, rfl, upperRead, closed⟩ :=
      readBounds?_eq_some_iff.1 read
    have lowerShorter := readBound?_length_lt lowerRead
    have upperShorter := readBound?_length_lt upperRead
    have skippedFirst := skipBlanks_length_le behind
    have skippedSecond := skipBlanks_length_le afterTo
    rcases closed with rfl | rfl <;> simp only [List.length_cons] at * <;> omega
  unfold readRange? at found
  split at found
  · have := behindBracket _ found
    simp; omega
  · have := behindBracket _ found
    simp; omega
  · simp at found

/-! ### One call of a reader -/

theorem readDisjunction?_cases {allowance : Nat} {source rest : List Char}
    {read : Disjunction} (found : readDisjunction? (allowance + 1) source = some (read, rest)) :
    ∃ first behind, readConjunction? allowance source = some (first, behind) ∧
      (rest = behind ∨
        (∃ others, readDisjunction? allowance behind = some (others, rest)) ∨
        ∃ next others, afterOr? behind = some next ∧
          readDisjunction? allowance (skipBlanks next) = some (others, rest)) := by
  rw [readDisjunction?] at found
  split at found
  case h_1 => simp at found
  case h_2 first behind conjunction =>
    refine ⟨first, behind, conjunction, ?_⟩
    cases operator : afterOr? behind with
    | none =>
        simp only [operator] at found
        split at found
        · obtain ⟨-, rfl⟩ : _ ∧ _ := by simpa using found
          exact Or.inr (Or.inl ⟨_, ‹_›⟩)
        · obtain ⟨-, rfl⟩ : _ ∧ _ := by simpa using found
          exact Or.inl rfl
    | some next =>
        simp only [operator] at found
        split at found
        · obtain ⟨-, rfl⟩ : _ ∧ _ := by simpa using found
          exact Or.inr (Or.inr ⟨next, _, rfl, ‹_›⟩)
        · obtain ⟨-, rfl⟩ : _ ∧ _ := by simpa using found
          exact Or.inl rfl

theorem readConjunction?_cases {allowance : Nat} {source rest : List Char}
    {read : Conjunction} (found : readConjunction? (allowance + 1) source = some (read, rest)) :
    ∃ first behind, readClause? allowance source = some (first, behind) ∧
      (rest = behind ∨
        ∃ next others, afterAnd? behind = some next ∧
          readConjunction? allowance (skipBlanks next) = some (others, rest)) := by
  rw [readConjunction?] at found
  split at found
  case h_1 => simp at found
  case h_2 first behind clause =>
    refine ⟨first, behind, clause, ?_⟩
    cases operator : afterAnd? behind with
    | none =>
        obtain ⟨-, rfl⟩ : _ ∧ _ := by simpa [operator] using found
        exact Or.inl rfl
    | some next =>
        simp only [operator] at found
        split at found
        · obtain ⟨-, rfl⟩ : _ ∧ _ := by simpa using found
          exact Or.inr ⟨next, _, rfl, ‹_›⟩
        · obtain ⟨-, rfl⟩ : _ ∧ _ := by simpa using found
          exact Or.inl rfl

theorem readClause?_cases {allowance : Nat} {source rest : List Char} {read : Clause}
    (found : readClause? (allowance + 1) source = some (read, rest)) :
    ∃ body behind,
      readBody? allowance (skipBlanks (readModifier source).2) = some (body, behind) ∧
        rest = skipBlanks (readBoost (skipBlanks behind)).2 := by
  rw [readClause?] at found
  dsimp only at found
  split at found
  case h_1 => simp at found
  case h_2 body behind read =>
    obtain ⟨-, rfl⟩ : _ ∧ _ := by simpa using found
    exact ⟨body, behind, read, rfl⟩

theorem readBody?_cases {allowance : Nat} {source rest : List Char} {read : Body}
    (found : readBody? (allowance + 1) source = some (read, rest)) :
    (∃ inner, readGroup? allowance source = some (inner, rest)) ∨
      source = '*' :: ':' :: '*' :: rest ∨
      readFieldBody? allowance source = some (read, rest) ∨
      ∃ leaf, readLeaf? source = some (leaf, rest) := by
  rw [readBody?] at found
  split at found
  case h_1 inner behind group =>
    obtain ⟨-, rfl⟩ : _ ∧ _ := by simpa using found
    exact Or.inl ⟨inner, group⟩
  case h_2 =>
    split at found
    case h_1 behind sign =>
      obtain ⟨-, rfl⟩ : _ ∧ _ := by simpa using found
      exact Or.inr (Or.inl (afterLiteral?_eq_some_iff.1 sign))
    case h_2 =>
      split at found
      case h_1 field => exact Or.inr (Or.inr (Or.inl (field.trans found)))
      case h_2 =>
        obtain ⟨leaf, read, -⟩ : ∃ leaf, readLeaf? source = some (leaf, rest) ∧ _ := by
          simpa using found
        exact Or.inr (Or.inr (Or.inr ⟨leaf, read⟩))

theorem readGroup?_eq_some_iff {allowance : Nat} {source rest : List Char}
    {read : Disjunction} :
    readGroup? (allowance + 1) source = some (read, rest) ↔
      ∃ inside, source = '(' :: inside ∧
        readDisjunction? allowance (skipBlanks inside) = some (read, ')' :: rest) := by
  unfold readGroup?
  constructor
  · intro found
    split at found
    case h_1 inside =>
      split at found
      case h_1 inner behind disjunction =>
        obtain ⟨rfl, rfl⟩ : _ ∧ _ := by simpa using found
        exact ⟨inside, rfl, disjunction⟩
      case h_2 => simp at found
    case h_2 => simp at found
  · rintro ⟨inside, rfl, disjunction⟩
    simp [disjunction]

theorem readFieldBody?_cases {allowance : Nat} {source rest : List Char} {read : Body}
    (found : readFieldBody? (allowance + 1) source = some (read, rest)) :
    ∃ field value, readFieldName? source = some (field, value) ∧
      ((∃ bounds, readRange? value = some (bounds, rest)) ∨
        (∃ inner, readGroup? allowance value = some (inner, rest)) ∨
        ∃ leaf, readLeaf? value = some (leaf, rest)) := by
  rw [readFieldBody?] at found
  split at found
  case h_1 => simp at found
  case h_2 field value name =>
    refine ⟨field, value, name, ?_⟩
    split at found
    case h_1 range =>
      obtain ⟨-, rfl⟩ : _ ∧ _ := by simpa using found
      exact Or.inl ⟨_, range⟩
    case h_2 =>
      split at found
      case h_1 group =>
        obtain ⟨-, rfl⟩ : _ ∧ _ := by simpa using found
        exact Or.inr (Or.inl ⟨_, group⟩)
      case h_2 =>
        obtain ⟨leaf, read, -⟩ : ∃ leaf, readLeaf? value = some (leaf, rest) ∧ _ := by
          simpa using found
        exact Or.inr (Or.inr ⟨leaf, read⟩)

/-! ### Reading consumes the query -/

/-- What every reader finds within an allowance is shorter than its source. -/
structure Consumes (allowance : Nat) : Prop where
  disjunction : ∀ {source rest read}, readDisjunction? allowance source = some (read, rest) →
    rest.length < source.length
  conjunction : ∀ {source rest read}, readConjunction? allowance source = some (read, rest) →
    rest.length < source.length
  clause : ∀ {source rest read}, readClause? allowance source = some (read, rest) →
    rest.length < source.length
  body : ∀ {source rest read}, readBody? allowance source = some (read, rest) →
    rest.length < source.length
  group : ∀ {source rest read}, readGroup? allowance source = some (read, rest) →
    rest.length < source.length
  fieldBody : ∀ {source rest read}, readFieldBody? allowance source = some (read, rest) →
    rest.length < source.length

theorem consumes (allowance : Nat) : Consumes allowance := by
  induction allowance with
  | zero =>
      constructor <;> intro source rest read found
      · simp [readDisjunction?] at found
      · simp [readConjunction?] at found
      · simp [readClause?] at found
      · simp [readBody?] at found
      · simp [readGroup?] at found
      · simp [readFieldBody?] at found
  | succ allowance ih =>
      constructor <;> intro source rest read found
      · obtain ⟨first, behind, firstRead, rfl | ⟨others, read⟩ | ⟨next, others, operator, read⟩⟩ :=
          readDisjunction?_cases found
        · exact ih.conjunction firstRead
        · exact Nat.lt_trans (ih.disjunction read) (ih.conjunction firstRead)
        · have shorter := ih.conjunction firstRead
          have := ih.disjunction read
          have := skipBlanks_length_le next
          have := afterOr?_length_lt operator
          omega
      · obtain ⟨first, behind, firstRead, rfl | ⟨next, others, operator, read⟩⟩ :=
          readConjunction?_cases found
        · exact ih.clause firstRead
        · have shorter := ih.clause firstRead
          have := ih.conjunction read
          have := skipBlanks_length_le next
          have := afterAnd?_length_lt operator
          omega
      · obtain ⟨body, behind, bodyRead, rfl⟩ := readClause?_cases found
        have shorter := ih.body bodyRead
        have := readModifier_length_le source
        have := skipBlanks_length_le (readModifier source).2
        have := skipBlanks_length_le behind
        have := readBoost_length_le (skipBlanks behind)
        have := skipBlanks_length_le (readBoost (skipBlanks behind)).2
        omega
      · rcases readBody?_cases found with ⟨inner, group⟩ | sign | field | ⟨leaf, leafRead⟩
        · exact ih.group group
        · simp [sign]; omega
        · exact ih.fieldBody field
        · exact readLeaf?_length_lt leafRead
      · obtain ⟨inside, rfl, disjunction⟩ := readGroup?_eq_some_iff.1 found
        have shorter := ih.disjunction disjunction
        have := skipBlanks_length_le inside
        simp only [List.length_cons] at *
        omega
      · obtain ⟨field, value, name, ⟨bounds, range⟩ | ⟨inner, group⟩ | ⟨leaf, leafRead⟩⟩ :=
          readFieldBody?_cases found
        · exact Nat.lt_trans (readRange?_length_lt range) (readFieldName?_length_lt name)
        · exact Nat.lt_trans (ih.group group) (readFieldName?_length_lt name)
        · exact Nat.lt_trans (readLeaf?_length_lt leafRead) (readFieldName?_length_lt name)

/-! ### The allowance is ample -/

/-- From a bound on the source one more nested call reads the same.  The bounds descend in
the order in which the readers call each other on the same source. -/
structure Settled (allowance : Nat) : Prop where
  disjunction : ∀ {source}, 6 * source.length + 6 ≤ allowance →
    readDisjunction? (allowance + 1) source = readDisjunction? allowance source
  conjunction : ∀ {source}, 6 * source.length + 5 ≤ allowance →
    readConjunction? (allowance + 1) source = readConjunction? allowance source
  clause : ∀ {source}, 6 * source.length + 4 ≤ allowance →
    readClause? (allowance + 1) source = readClause? allowance source
  body : ∀ {source}, 6 * source.length + 3 ≤ allowance →
    readBody? (allowance + 1) source = readBody? allowance source
  fieldBody : ∀ {source}, 6 * source.length + 2 ≤ allowance →
    readFieldBody? (allowance + 1) source = readFieldBody? allowance source
  group : ∀ {source}, 6 * source.length + 1 ≤ allowance →
    readGroup? (allowance + 1) source = readGroup? allowance source

namespace Settled

variable {allowance : Nat}

theorem disjunction_succ (settled : Settled allowance) {source : List Char}
    (ample : 6 * source.length + 6 ≤ allowance + 1) :
    readDisjunction? (allowance + 2) source = readDisjunction? (allowance + 1) source := by
  rw [readDisjunction?, readDisjunction?, settled.conjunction (by omega)]
  split
  case h_1 => rfl
  case h_2 first behind read =>
    have shorter := (consumes allowance).conjunction read
    cases operator : afterOr? behind with
    | none => dsimp only; rw [settled.disjunction (by omega)]
    | some next =>
        have := skipBlanks_length_le next
        have := afterOr?_length_lt operator
        dsimp only; rw [settled.disjunction (by omega)]

theorem conjunction_succ (settled : Settled allowance) {source : List Char}
    (ample : 6 * source.length + 5 ≤ allowance + 1) :
    readConjunction? (allowance + 2) source = readConjunction? (allowance + 1) source := by
  rw [readConjunction?, readConjunction?, settled.clause (by omega)]
  split
  case h_1 => rfl
  case h_2 first behind read =>
    have shorter := (consumes allowance).clause read
    cases operator : afterAnd? behind with
    | none => rfl
    | some next =>
        have := skipBlanks_length_le next
        have := afterAnd?_length_lt operator
        dsimp only; rw [settled.conjunction (by omega)]

theorem clause_succ (settled : Settled allowance) {source : List Char}
    (ample : 6 * source.length + 4 ≤ allowance + 1) :
    readClause? (allowance + 2) source = readClause? (allowance + 1) source := by
  have := readModifier_length_le source
  have := skipBlanks_length_le (readModifier source).2
  rw [readClause?, readClause?]
  dsimp only
  rw [settled.body (by omega)]

theorem body_succ (settled : Settled allowance) {source : List Char}
    (ample : 6 * source.length + 3 ≤ allowance + 1) :
    readBody? (allowance + 2) source = readBody? (allowance + 1) source := by
  rw [readBody?, readBody?, settled.group (by omega), settled.fieldBody (by omega)]

theorem fieldBody_succ (settled : Settled allowance) {source : List Char}
    (ample : 6 * source.length + 2 ≤ allowance + 1) :
    readFieldBody? (allowance + 2) source = readFieldBody? (allowance + 1) source := by
  rw [readFieldBody?, readFieldBody?]
  split
  case h_1 => rfl
  case h_2 field value name =>
    have := readFieldName?_length_lt name
    rw [settled.group (by omega)]

theorem group_succ (settled : Settled allowance) {source : List Char}
    (ample : 6 * source.length + 1 ≤ allowance + 1) :
    readGroup? (allowance + 2) source = readGroup? (allowance + 1) source := by
  unfold readGroup?
  split
  case h_1 inside =>
    have := skipBlanks_length_le inside
    simp only [List.length_cons] at ample
    rw [settled.disjunction (by omega)]
  case h_2 => rfl

end Settled

theorem settled (allowance : Nat) : Settled allowance := by
  induction allowance with
  | zero => constructor <;> intro source ample <;> omega
  | succ allowance ih =>
      exact ⟨ih.disjunction_succ, ih.conjunction_succ, ih.clause_succ, ih.body_succ,
        ih.fieldBody_succ, ih.group_succ⟩

/-- Every allowance from the bound on reads a disjunction as the bound does. -/
theorem readDisjunction?_of_le {source : List Char} {allowance : Nat}
    (ample : 6 * source.length + 6 ≤ allowance) :
    readDisjunction? allowance source = readDisjunction? (6 * source.length + 6) source := by
  induction ample with
  | refl => rfl
  | step ample ih => rw [(settled _).disjunction ample, ih]

theorem readGroup?_of_le {source : List Char} {allowance : Nat}
    (ample : 6 * source.length + 1 ≤ allowance) :
    readGroup? allowance source = readGroup? (6 * source.length + 1) source := by
  induction ample with
  | refl => rfl
  | step ample ih => rw [(settled _).group ample, ih]

end EntitySearch.Query
