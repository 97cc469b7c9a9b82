import EntitySearch.Proofs.ReadingProgress

/-!
# Balanced reading

A scan follows the contexts of a query: plain text, escapes, phrases, ranges and
the depth of groups.  What a reader takes leaves the scan where it was, so a query
that can be read leaves nothing open, a backslash at its very end apart.
-/

namespace EntitySearch.Query

/-- What the next character of a query belongs to. -/
inductive ScanContext
  | plain
  | escaped
  | phrase
  | phraseEscaped
  | range
deriving Repr, DecidableEq

/-- A place in a query: its context, and how many groups are open around it. -/
structure ScanState where
  context : ScanContext
  depth : Nat
deriving Repr, DecidableEq

def ScanState.next (state : ScanState) (character : Char) : ScanState :=
  match state.context with
  | .plain =>
      if character = '\\' then ⟨.escaped, state.depth⟩
      else if character = '(' then ⟨.plain, state.depth + 1⟩
      else if character = ')' then ⟨.plain, state.depth - 1⟩
      else if character = '"' then ⟨.phrase, state.depth⟩
      else if character = '[' ∨ character = '\x7b' then ⟨.range, state.depth⟩
      else state
  | .escaped => ⟨.plain, state.depth⟩
  | .phrase =>
      if character = '\\' then ⟨.phraseEscaped, state.depth⟩
      else if character = '"' then ⟨.plain, state.depth⟩
      else state
  | .phraseEscaped => ⟨.phrase, state.depth⟩
  | .range =>
      if character = ']' ∨ character = '\x7d' then ⟨.plain, state.depth⟩
      else state

def scan (state : ScanState) (source : List Char) : ScanState :=
  source.foldl ScanState.next state

/-- Whether the text ends in a backslash that no other backslash makes literal. -/
def endsUnpaired : List Char → Bool
  | [] => false
  | ['\\'] => true
  | '\\' :: _ :: rest => endsUnpaired rest
  | _ :: rest => endsUnpaired rest

@[simp]
theorem scan_nil (state : ScanState) : scan state [] = state := rfl

@[simp]
theorem scan_cons (state : ScanState) (character : Char) (rest : List Char) :
    scan state (character :: rest) = scan (state.next character) rest := rfl

theorem endsUnpaired_cons {character : Char} (notBackslash : character ≠ '\\')
    (rest : List Char) : endsUnpaired (character :: rest) = endsUnpaired rest := by
  cases rest <;> simp [endsUnpaired, notBackslash]

@[simp]
theorem endsUnpaired_pair (character : Char) (rest : List Char) :
    endsUnpaired ('\\' :: character :: rest) = endsUnpaired rest := rfl

/-- Pairing starts afresh behind a character that is no backslash. -/
theorem endsUnpaired_append_cons (taken : List Char) {character : Char}
    (notBackslash : character ≠ '\\') (rest : List Char) :
    endsUnpaired (taken ++ character :: rest) = endsUnpaired rest := by
  induction taken using endsUnpaired.induct with
  | case1 => exact endsUnpaired_cons notBackslash rest
  | case2 => simp
  | case3 escaped taken ih => simpa using ih
  | case4 first taken notLast notPair ih =>
      have plain : first ≠ '\\' := by
        rintro rfl
        cases taken with
        | nil => exact notLast rfl rfl
        | cons second taken => exact notPair second taken rfl rfl
      rw [List.cons_append, endsUnpaired_cons plain, ih]

/-! ### What readers take is balanced -/

/-- What stands in `source` before `rest` opens nothing that it does not close. -/
def Balanced (source rest : List Char) : Prop :=
  endsUnpaired source = false →
    endsUnpaired rest = false ∧
      ∀ depth, scan ⟨.plain, depth⟩ source = scan ⟨.plain, depth⟩ rest

theorem Balanced.refl (source : List Char) : Balanced source source :=
  fun paired => ⟨paired, fun _ => rfl⟩

theorem Balanced.trans {first second third : List Char}
    (before : Balanced first second) (behind : Balanced second third) :
    Balanced first third := by
  intro paired
  obtain ⟨pairedSecond, scannedSecond⟩ := before paired
  obtain ⟨pairedThird, scannedThird⟩ := behind pairedSecond
  exact ⟨pairedThird, fun depth => (scannedSecond depth).trans (scannedThird depth)⟩

/-- Characters that open and close nothing. -/
def isInert (character : Char) : Bool :=
  !(['\\', '(', ')', '"', '[', '\x7b'].contains character)

theorem balanced_cons_of_isInert {character : Char} (inert : isInert character = true)
    (rest : List Char) : Balanced (character :: rest) rest := by
  simp only [isInert, List.contains_cons, List.contains_nil, Bool.or_false, Bool.not_eq_true',
    Bool.or_eq_false_iff, beq_eq_false_iff_ne, ne_eq] at inert
  obtain ⟨notBackslash, notOpen, notClose, notQuote, notBracket, notBrace⟩ := inert
  intro paired
  rw [endsUnpaired_cons notBackslash] at paired
  refine ⟨paired, fun depth => ?_⟩
  simp [ScanState.next, notBackslash, notOpen, notClose, notQuote, notBracket, notBrace]

theorem balanced_append_of_isInert {taken : List Char}
    (inert : ∀ character ∈ taken, isInert character = true) (rest : List Char) :
    Balanced (taken ++ rest) rest := by
  induction taken with
  | nil => exact Balanced.refl rest
  | cons character taken ih =>
      have headInert := inert character List.mem_cons_self
      have tailInert := fun member isMember => inert member (List.mem_cons_of_mem _ isMember)
      exact (balanced_cons_of_isInert headInert _).trans (ih tailInert)

theorem balanced_dropWhile {test : Char → Bool}
    (inert : ∀ character, test character = true → isInert character = true)
    (source : List Char) : Balanced source (source.dropWhile test) := by
  have passes : ∀ character ∈ source.takeWhile test, test character = true :=
    List.all_eq_true.1 List.all_takeWhile
  have dropped := balanced_append_of_isInert
    (fun character member => inert character (passes character member)) (source.dropWhile test)
  rwa [List.takeWhile_append_dropWhile] at dropped

theorem balanced_skipBlanks (source : List Char) : Balanced source (skipBlanks source) := by
  apply balanced_dropWhile
  intro character blank
  simp only [isBlank, Bool.or_eq_true, beq_iff_eq] at blank
  rcases blank with ((rfl | rfl) | rfl) | rfl <;> decide

theorem balanced_of_afterLiteral? {literal source rest : List Char}
    (inert : literal.all isInert = true)
    (found : afterLiteral? literal source = some rest) : Balanced source rest := by
  rw [afterLiteral?_eq_some_iff] at found
  exact found ▸ balanced_append_of_isInert (List.all_eq_true.1 inert) rest

theorem balanced_of_afterWord? {keyword source rest : List Char}
    (inert : keyword.all isInert = true)
    (found : afterWord? keyword source = some rest) : Balanced source rest := by
  rw [afterWord?_eq_some_iff] at found
  exact found.1 ▸ balanced_append_of_isInert (List.all_eq_true.1 inert) rest

theorem balanced_of_operator {sign keyword source rest : List Char}
    (signInert : sign.all isInert = true) (keywordInert : keyword.all isInert = true)
    (found : (afterLiteral? sign source).or (afterWord? keyword source) = some rest) :
    Balanced source rest := by
  rcases Option.or_eq_some_iff.1 found with taken | ⟨-, taken⟩
  · exact balanced_of_afterLiteral? signInert taken
  · exact balanced_of_afterWord? keywordInert taken

theorem balanced_of_afterAnd? {source rest : List Char}
    (found : afterAnd? source = some rest) : Balanced source rest :=
  balanced_of_operator (by decide) (by decide) found

theorem balanced_of_afterOr? {source rest : List Char}
    (found : afterOr? source = some rest) : Balanced source rest :=
  balanced_of_operator (by decide) (by decide) found

theorem balanced_readModifier (source : List Char) :
    Balanced source (readModifier source).2 := by
  unfold readModifier
  split
  · exact balanced_cons_of_isInert (by decide) _
  · exact balanced_cons_of_isInert (by decide) _
  · exact balanced_cons_of_isInert (by decide) _
  · split
    case h_1 rest found => exact balanced_of_afterWord? (by decide) found
    case h_2 => exact Balanced.refl source

theorem isInert_of_isDigit {character : Char} (digit : character.isDigit = true) :
    isInert character = true := by
  simp only [isInert, List.contains_cons, List.contains_nil, Bool.or_false, Bool.not_eq_true',
    Bool.or_eq_false_iff, beq_eq_false_iff_ne, ne_eq]
  refine ⟨?_, ?_, ?_, ?_, ?_, ?_⟩ <;> rintro rfl <;> simp [Char.isDigit] at digit

theorem isInert_of_isNameCharacter {character : Char}
    (nameCharacter : isNameCharacter character = true) : isInert character = true := by
  simp only [isInert, List.contains_cons, List.contains_nil, Bool.or_false, Bool.not_eq_true',
    Bool.or_eq_false_iff, beq_eq_false_iff_ne, ne_eq]
  refine ⟨?_, ?_, ?_, ?_, ?_, ?_⟩ <;> rintro rfl <;> revert nameCharacter <;> decide

theorem balanced_readFraction (source : List Char) :
    Balanced source (readFraction source).2 := by
  unfold readFraction
  split
  case h_1 rest =>
    dsimp only
    split
    · exact Balanced.refl _
    · exact (balanced_cons_of_isInert (by decide) _).trans
        (balanced_dropWhile (fun _ => isInert_of_isDigit) rest)
  case h_2 => exact Balanced.refl source

theorem balanced_readBoost (source : List Char) : Balanced source (readBoost source).2 := by
  unfold readBoost
  split
  case h_1 rest =>
    dsimp only
    split
    · exact Balanced.refl _
    · exact ((balanced_cons_of_isInert (by decide) _).trans
        (balanced_dropWhile (fun _ => isInert_of_isDigit) rest)).trans (balanced_readFraction _)
  case h_2 => exact Balanced.refl source

theorem balanced_of_readFieldName? {source name rest : List Char}
    (found : readFieldName? source = some (name, rest)) : Balanced source rest := by
  obtain ⟨-, -, behind, colon, rfl⟩ := readFieldName?_eq_some_iff.1 found
  have named := balanced_dropWhile (fun _ => isInert_of_isNameCharacter) source
  have skipped := balanced_skipBlanks (source.dropWhile isNameCharacter)
  rw [colon] at skipped
  exact ((named.trans skipped).trans (balanced_cons_of_isInert (by decide) behind)).trans
    (balanced_skipBlanks behind)

theorem balanced_escape (character : Char) (rest : List Char) :
    Balanced ('\\' :: character :: rest) rest := by
  intro paired
  exact ⟨by simpa using paired, fun depth => by simp [ScanState.next]⟩

/-- The characters that may stand in a run open and close nothing, a backslash apart. -/
theorem isInert_of_isPlain {character : Char} (plain : isPlain character = true)
    (notBackslash : character ≠ '\\') : isInert character = true := by
  simp only [isInert, List.contains_cons, List.contains_nil, Bool.or_false, Bool.not_eq_true',
    Bool.or_eq_false_iff, beq_eq_false_iff_ne, ne_eq]
  refine ⟨notBackslash, ?_, ?_, ?_, ?_, ?_⟩ <;> rintro rfl <;> revert plain <;> decide

theorem balanced_cons_of_isPlain {character : Char} {rest : List Char}
    (plain : isPlain character = true)
    (notEscape : ∀ escaped behind, character = '\\' → rest = escaped :: behind → False) :
    Balanced (character :: rest) rest := by
  by_cases backslash : character = '\\'
  · subst backslash
    cases rest with
    | nil => intro paired; simp [endsUnpaired] at paired
    | cons escaped behind => exact (notEscape escaped behind rfl rfl).elim
  · exact balanced_cons_of_isInert (isInert_of_isPlain plain backslash) rest

theorem balanced_spanTerm (source : List Char) : Balanced source (spanTerm source).2 := by
  induction source using spanTerm.induct with
  | case1 => exact Balanced.refl []
  | case2 character rest _ _ _ ih =>
      simpa [spanTerm] using (balanced_escape character rest).trans ih
  | case3 character rest notEscape plain _ _ _ ih =>
      simpa [spanTerm, plain] using (balanced_cons_of_isPlain plain notEscape).trans ih
  | case4 character rest _ notPlain =>
      simpa [spanTerm, notPlain] using Balanced.refl (character :: rest)

theorem balanced_spanWildcard (source : List Char) :
    Balanced source (spanWildcard source).2 := by
  induction source using spanWildcard.induct with
  | case1 => exact Balanced.refl []
  | case2 character rest _ _ _ ih =>
      simpa [spanWildcard] using (balanced_escape character rest).trans ih
  | case3 character rest notEscape taken _ _ _ ih =>
      have headBalanced : Balanced (character :: rest) rest := by
        rcases Bool.or_eq_true_iff.1 taken with plain | sign
        · exact balanced_cons_of_isPlain plain notEscape
        · simp only [isWildcardSign, Bool.or_eq_true, beq_iff_eq] at sign
          apply balanced_cons_of_isInert
          rcases sign with rfl | rfl <;> decide
      simpa [spanWildcard, taken] using headBalanced.trans ih
  | case4 character rest _ notTaken =>
      simpa [spanWildcard, notTaken] using Balanced.refl (character :: rest)

/-! ### Phrases and ranges -/

theorem scan_of_splitPhrase? {source text rest : List Char}
    (found : splitPhrase? source = some (text, rest)) :
    (endsUnpaired source = false → endsUnpaired rest = false) ∧
      ∀ depth, scan ⟨.phrase, depth⟩ source = scan ⟨.plain, depth⟩ rest := by
  induction source using splitPhrase?.induct generalizing text rest with
  | case1 => simp [splitPhrase?] at found
  | case2 behind =>
      obtain ⟨-, rfl⟩ : _ ∧ _ := by simpa [splitPhrase?] using found
      exact ⟨fun paired => by rwa [endsUnpaired_cons (by decide)] at paired,
        fun depth => by simp [ScanState.next]⟩
  | case3 character behind ih =>
      obtain ⟨inner, split, -⟩ : ∃ inner, splitPhrase? behind = some (inner, rest) ∧ _ := by
        simpa [splitPhrase?] using found
      obtain ⟨paired, scanned⟩ := ih split
      exact ⟨fun unpaired => paired (by simpa using unpaired),
        fun depth => by simpa [ScanState.next] using scanned depth⟩
  | case4 character behind notQuote notEscape ih =>
      obtain ⟨inner, split, -⟩ : ∃ inner, splitPhrase? behind = some (inner, rest) ∧ _ := by
        simpa [splitPhrase?] using found
      obtain ⟨paired, scanned⟩ := ih split
      have notBackslash : character ≠ '\\' := by
        rintro rfl
        cases behind with
        | nil => simp [splitPhrase?] at split
        | cons escaped later => exact notEscape escaped later rfl rfl
      exact ⟨fun unpaired => paired (by rwa [endsUnpaired_cons notBackslash] at unpaired),
        fun depth => by
          simpa [ScanState.next, notBackslash, show character ≠ '"' from notQuote] using
            scanned depth⟩

theorem scan_of_splitPhrase?_eq_none {source : List Char}
    (unclosed : splitPhrase? source = none) (depth : Nat) :
    (scan ⟨.phrase, depth⟩ source).context ≠ .plain := by
  induction source using splitPhrase?.induct with
  | case1 => simp
  | case2 behind => simp [splitPhrase?] at unclosed
  | case3 character behind ih =>
      simpa [ScanState.next] using ih (by simpa [splitPhrase?] using unclosed)
  | case4 character behind notQuote notEscape ih =>
      by_cases backslash : character = '\\'
      · subst backslash
        cases behind with
        | nil => simp [ScanState.next]
        | cons escaped later => exact (notEscape escaped later rfl rfl).elim
      · simpa [ScanState.next, backslash, show character ≠ '"' from notQuote] using
          ih (by simpa [splitPhrase?] using unclosed)

def isRangeEnd (character : Char) : Bool :=
  character == ']' || character == '\x7d'

theorem scan_range_append {taken : List Char}
    (inside : ∀ character ∈ taken, isRangeEnd character = false) (depth : Nat)
    (rest : List Char) :
    scan ⟨.range, depth⟩ (taken ++ rest) = scan ⟨.range, depth⟩ rest := by
  induction taken with
  | nil => rfl
  | cons character taken ih =>
      have notEnd := inside character List.mem_cons_self
      simp only [isRangeEnd, Bool.or_eq_false_iff, beq_eq_false_iff_ne, ne_eq] at notEnd
      simpa [ScanState.next, notEnd] using
        ih fun member isMember => inside member (List.mem_cons_of_mem _ isMember)

theorem scan_range_of_not_mem {source : List Char}
    (inside : ∀ character ∈ source, isRangeEnd character = false) (depth : Nat) :
    scan ⟨.range, depth⟩ source = ⟨.range, depth⟩ := by
  simpa using scan_range_append inside depth []

theorem isRangeEnd_of_isBlank {character : Char} (blank : isBlank character = true) :
    isRangeEnd character = false := by
  simp only [isBlank, Bool.or_eq_true, beq_iff_eq] at blank
  rcases blank with ((rfl | rfl) | rfl) | rfl <;> decide

theorem isRangeEnd_of_isBoundCharacter {character : Char}
    (bound : isBoundCharacter character = true) : isRangeEnd character = false := by
  simp only [isBoundCharacter, Bool.and_eq_true, bne_iff_ne, ne_eq] at bound
  simp [isRangeEnd, bound.1.2, bound.2]

/-- What stands in `source` before `rest` closes no range. -/
def RunsInside (source rest : List Char) : Prop :=
  ∃ taken, source = taken ++ rest ∧ ∀ character ∈ taken, isRangeEnd character = false

theorem RunsInside.trans {first second third : List Char}
    (before : RunsInside first second) (behind : RunsInside second third) :
    RunsInside first third := by
  obtain ⟨taken, rfl, inside⟩ := before
  obtain ⟨later, rfl, laterInside⟩ := behind
  refine ⟨taken ++ later, by simp, fun character member => ?_⟩
  rcases List.mem_append.1 member with early | late
  · exact inside character early
  · exact laterInside character late

theorem runsInside_dropWhile {test : Char → Bool}
    (inside : ∀ character, test character = true → isRangeEnd character = false)
    (source : List Char) : RunsInside source (source.dropWhile test) :=
  ⟨source.takeWhile test, List.takeWhile_append_dropWhile.symm, fun character member =>
    inside character (List.all_eq_true.1 List.all_takeWhile character member)⟩

theorem runsInside_skipBlanks (source : List Char) : RunsInside source (skipBlanks source) :=
  runsInside_dropWhile (fun _ => isRangeEnd_of_isBlank) source

theorem readBound?_eq_some_iff {source bound rest : List Char} :
    readBound? source = some (bound, rest) ↔
      bound = source.takeWhile isBoundCharacter ∧ bound ≠ [] ∧
        rest = skipBlanks (source.dropWhile isBoundCharacter) := by
  unfold readBound?
  by_cases noBound : source.takeWhile isBoundCharacter = []
  · simp only [noBound, List.isEmpty_nil, if_true, reduceCtorEq, false_iff]
    rintro ⟨rfl, bounded, -⟩
    exact bounded rfl
  · simp only [List.isEmpty_iff, noBound, if_false, Option.some.injEq, Prod.mk.injEq]
    constructor
    · rintro ⟨rfl, rfl⟩
      exact ⟨rfl, noBound, rfl⟩
    · rintro ⟨rfl, -, rfl⟩
      exact ⟨rfl, rfl⟩

theorem runsInside_of_readBound? {source bound rest : List Char}
    (found : readBound? source = some (bound, rest)) : RunsInside source rest := by
  obtain ⟨-, -, rfl⟩ := readBound?_eq_some_iff.1 found
  exact (runsInside_dropWhile (fun _ => isRangeEnd_of_isBoundCharacter) source).trans
    (runsInside_skipBlanks _)

theorem runsInside_of_readBounds? {source rest : List Char} {bounds : List Char × List Char}
    (found : readBounds? source = some (bounds, rest)) :
    ∃ closing, isRangeEnd closing = true ∧ RunsInside source (closing :: rest) := by
  obtain ⟨afterLower, afterTo, afterUpper, lowerRead, rfl, upperRead, closed⟩ :=
    readBounds?_eq_some_iff.1 found
  have toWord : RunsInside ('T' :: 'O' :: afterTo) afterTo := ⟨['T', 'O'], rfl, by simp [isRangeEnd]⟩
  have inside : RunsInside source afterUpper :=
    (((runsInside_skipBlanks source).trans (runsInside_of_readBound? lowerRead)).trans
      toWord).trans ((runsInside_skipBlanks afterTo).trans (runsInside_of_readBound? upperRead))
  rcases closed with rfl | rfl
  · exact ⟨']', by decide, inside⟩
  · exact ⟨'\x7d', by decide, inside⟩

theorem balanced_of_readBounds? {opening : Char} {source rest : List Char}
    {bounds : List Char × List Char} (opens : opening = '[' ∨ opening = '\x7b')
    (found : readBounds? source = some (bounds, rest)) :
    Balanced (opening :: source) rest := by
  obtain ⟨closing, closes, taken, rfl, inside⟩ := runsInside_of_readBounds? found
  have notBackslash : closing ≠ '\\' := by rintro rfl; simp [isRangeEnd] at closes
  have openingPlain : opening ≠ '\\' := by rcases opens with rfl | rfl <;> decide
  have entered (depth : Nat) :
      ScanState.next ⟨.plain, depth⟩ opening = ⟨.range, depth⟩ := by
    rcases opens with rfl | rfl <;> rfl
  have left (depth : Nat) : ScanState.next ⟨.range, depth⟩ closing = ⟨.plain, depth⟩ := by
    simp only [isRangeEnd, Bool.or_eq_true, beq_iff_eq] at closes
    simp [ScanState.next, closes]
  intro paired
  rw [endsUnpaired_cons openingPlain, endsUnpaired_append_cons taken notBackslash] at paired
  exact ⟨paired, fun depth => by
    rw [scan_cons, entered, scan_range_append inside, scan_cons, left]⟩

theorem balanced_of_readRange? {source rest : List Char} {bounds : List Char × List Char}
    (found : readRange? source = some (bounds, rest)) : Balanced source rest := by
  unfold readRange? at found
  split at found
  · exact balanced_of_readBounds? (Or.inl rfl) found
  · exact balanced_of_readBounds? (Or.inr rfl) found
  · simp at found

theorem balanced_of_readWildcard? {source rest : List Char} {leaf : Leaf}
    (found : readWildcard? source = some (leaf, rest)) : Balanced source rest := by
  have lead := balanced_spanTerm source
  unfold readWildcard? at found
  split at found
  case h_1 run sign behind span =>
    split at found
    case isTrue wild =>
      obtain ⟨-, rfl⟩ : _ ∧ _ := by simpa using found
      rw [span] at lead
      simp only [isWildcardSign, Bool.or_eq_true, beq_iff_eq] at wild
      have signInert : isInert sign = true := by rcases wild with rfl | rfl <;> decide
      exact (lead.trans (balanced_cons_of_isInert signInert behind)).trans
        (balanced_spanWildcard behind)
    case isFalse => simp at found
  case h_2 => simp at found

theorem balanced_of_readTerm? {source rest : List Char} {leaf : Leaf}
    (found : readTerm? source = some (leaf, rest)) : Balanced source rest := by
  have run := balanced_spanTerm source
  unfold readTerm? at found
  split at found
  · simp at found
  · split at found
    case h_1 => simp at found
    case h_2 term behind _ span =>
      obtain ⟨-, rfl⟩ : _ ∧ _ := by simpa using found
      rwa [span] at run

theorem balanced_of_readLeaf? {source rest : List Char} {leaf : Leaf}
    (found : readLeaf? source = some (leaf, rest)) : Balanced source rest := by
  unfold readLeaf? at found
  split at found
  case h_1 behind =>
    obtain ⟨text, split, -⟩ : ∃ text, splitPhrase? behind = some (text, rest) ∧ _ := by
      simpa using found
    obtain ⟨paired, scanned⟩ := scan_of_splitPhrase? split
    intro unpaired
    rw [endsUnpaired_cons (by decide)] at unpaired
    exact ⟨paired unpaired, fun depth => by simpa [ScanState.next] using scanned depth⟩
  case h_2 =>
    rcases Option.or_eq_some_iff.1 found with wildcard | ⟨-, term⟩
    · exact balanced_of_readWildcard? wildcard
    · exact balanced_of_readTerm? term

/-! ### Groups -/

/-- What every reader finds within an allowance is balanced. -/
structure Balances (allowance : Nat) : Prop where
  disjunction : ∀ {source rest read}, readDisjunction? allowance source = some (read, rest) →
    Balanced source rest
  conjunction : ∀ {source rest read}, readConjunction? allowance source = some (read, rest) →
    Balanced source rest
  clause : ∀ {source rest read}, readClause? allowance source = some (read, rest) →
    Balanced source rest
  body : ∀ {source rest read}, readBody? allowance source = some (read, rest) →
    Balanced source rest
  group : ∀ {source rest read}, readGroup? allowance source = some (read, rest) →
    Balanced source rest
  fieldBody : ∀ {source rest read}, readFieldBody? allowance source = some (read, rest) →
    Balanced source rest

/-- The closing parenthesis of a group takes back what the opening one added. -/
theorem balanced_group {inside rest : List Char} (inner : Balanced inside (')' :: rest)) :
    Balanced ('(' :: inside) rest := by
  intro paired
  rw [endsUnpaired_cons (by decide)] at paired
  obtain ⟨pairedBehind, scanned⟩ := inner paired
  rw [endsUnpaired_cons (by decide)] at pairedBehind
  exact ⟨pairedBehind, fun depth => by
    simpa [ScanState.next] using scanned (depth + 1)⟩

theorem balances (allowance : Nat) : Balances allowance := by
  induction allowance with
  | zero =>
      constructor <;> intro source rest read found
      · simp [readDisjunction?] at found
      · simp [readConjunction?] at found
      · simp [readClause?] at found
      · simp [readBody?] at found
      · simp [readGroup?] at found
      · simp [readFieldBody?] at found
  | succ allowance ih =>
      constructor <;> intro source rest read found
      · obtain ⟨first, behind, firstRead, rfl | ⟨others, read⟩ | ⟨next, others, operator, read⟩⟩ :=
          readDisjunction?_cases found
        · exact ih.conjunction firstRead
        · exact (ih.conjunction firstRead).trans (ih.disjunction read)
        · exact ((ih.conjunction firstRead).trans (balanced_of_afterOr? operator)).trans
            ((balanced_skipBlanks next).trans (ih.disjunction read))
      · obtain ⟨first, behind, firstRead, rfl | ⟨next, others, operator, read⟩⟩ :=
          readConjunction?_cases found
        · exact ih.clause firstRead
        · exact ((ih.clause firstRead).trans (balanced_of_afterAnd? operator)).trans
            ((balanced_skipBlanks next).trans (ih.conjunction read))
      · obtain ⟨body, behind, bodyRead, rfl⟩ := readClause?_cases found
        have modified := (balanced_readModifier source).trans (balanced_skipBlanks _)
        have weighed := ((balanced_skipBlanks behind).trans (balanced_readBoost _)).trans
          (balanced_skipBlanks _)
        exact (modified.trans (ih.body bodyRead)).trans weighed
      · rcases readBody?_cases found with ⟨inner, group⟩ | sign | field | ⟨leaf, leafRead⟩
        · exact ih.group group
        · have starred : afterLiteral? ['*', ':', '*'] source = some rest :=
            afterLiteral?_eq_some_iff.2 sign
          exact balanced_of_afterLiteral? (by decide) starred
        · exact ih.fieldBody field
        · exact balanced_of_readLeaf? leafRead
      · obtain ⟨inside, rfl, disjunction⟩ := readGroup?_eq_some_iff.1 found
        exact balanced_group ((balanced_skipBlanks inside).trans (ih.disjunction disjunction))
      · obtain ⟨field, value, name, ⟨bounds, range⟩ | ⟨inner, group⟩ | ⟨leaf, leafRead⟩⟩ :=
          readFieldBody?_cases found
        · exact (balanced_of_readFieldName? name).trans (balanced_of_readRange? range)
        · exact (balanced_of_readFieldName? name).trans (ih.group group)
        · exact (balanced_of_readFieldName? name).trans (balanced_of_readLeaf? leafRead)

/-! ### Complete texts -/

/-- Nothing stands open behind the text. -/
structure Complete (source : List Char) : Prop where
  paired : endsUnpaired source = false
  closed : scan ⟨.plain, 0⟩ source = ⟨.plain, 0⟩

theorem Complete.of_balanced {source rest : List Char} (complete : Complete source)
    (balanced : Balanced source rest) : Complete rest := by
  obtain ⟨paired, scanned⟩ := balanced complete.paired
  exact ⟨paired, (scanned 0).symm.trans complete.closed⟩

theorem complete_of_balanced_nil {source : List Char} (paired : endsUnpaired source = false)
    (balanced : Balanced source []) : Complete source :=
  ⟨paired, (balanced paired).2 0⟩

/-- A scan that starts in a shallower place stays in the same context and no deeper. -/
theorem scan_le_of_le (source : List Char) (context : ScanContext) {less more : Nat}
    (shallower : less ≤ more) :
    (scan ⟨context, less⟩ source).context = (scan ⟨context, more⟩ source).context ∧
      (scan ⟨context, less⟩ source).depth ≤ (scan ⟨context, more⟩ source).depth := by
  induction source generalizing context less more with
  | nil => exact ⟨rfl, shallower⟩
  | cons character rest ih =>
      simp only [scan_cons, ScanState.next]
      cases context <;> dsimp only <;> (repeat' split) <;> exact ih _ (by omega)

theorem Complete.inside {source : List Char} (complete : Complete ('(' :: source)) :
    Complete source := by
  have paired := complete.paired
  have closed := complete.closed
  rw [endsUnpaired_cons (by decide)] at paired
  obtain ⟨sameContext, noDeeper⟩ := scan_le_of_le source .plain (Nat.zero_le 1)
  change scan ⟨.plain, 1⟩ source = _ at closed
  rw [closed] at sameContext noDeeper
  refine ⟨paired, ?_⟩
  cases outcome : scan ⟨.plain, 0⟩ source with
  | mk context depth =>
      rw [outcome] at sameContext noDeeper
      simp_all

/-- What opens a group does not end before the group is closed. -/
theorem Complete.not_balanced_nil {source : List Char} (complete : Complete ('(' :: source)) :
    ¬ Balanced source [] := by
  intro balanced
  have closed := complete.closed
  have scanned := (balanced complete.inside.paired).2 1
  change scan ⟨.plain, 1⟩ source = _ at closed
  simp [closed] at scanned

end EntitySearch.Query
