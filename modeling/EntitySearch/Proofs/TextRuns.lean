import EntitySearch.Analysis.Analyzer
import Mathlib.Data.List.Basic

/-!
# Runs of a text

A run of a text is one Han character, or a stretch of other word characters that
goes on neither before nor behind it.  The tokens of a text are its runs from left to
right, and the analysis makes one term of every run that is shorter than the limit
and is no stop word.  The place of a term counts the runs before it, those without a
term included.
-/

namespace EntitySearch.Analysis

theorem byteLength_append (first second : List Char) :
    byteLength (first ++ second) = byteLength first + byteLength second := by
  rw [byteLength, List.map_append, totalOf_append]
  rfl

theorem byteLength_cons (character : Char) (text : List Char) :
    byteLength (character :: text) = character.utf8Size + byteLength text := by
  rw [byteLength, List.map_cons, totalOf_cons]
  rfl

@[simp]
theorem byteLength_nil : byteLength [] = 0 := rfl

theorem byteLength_replicate (length : Nat) (character : Char) :
    byteLength (List.replicate length character) = length * character.utf8Size := by
  induction length with
  | zero => rw [List.replicate_zero, byteLength_nil, Nat.zero_mul]
  | succ length ih => rw [List.replicate_succ, byteLength_cons, ih, Nat.succ_mul, Nat.add_comm]

/-! ### Runs -/

/-- Word characters other than Han characters stand together in a run. -/
def isJoining (character : Char) : Bool :=
  !Text.isHan character && Text.isWordCharacter character

/-- What makes a piece of a text a run of it, given the text before and behind the piece. -/
inductive IsRun (before behind : List Char) : List Char → Prop
  | han {character : Char} (han : Text.isHan character = true) : IsRun before behind [character]
  | word {piece : List Char} (filled : piece ≠ [])
      (joining : ∀ character ∈ piece, isJoining character = true)
      (opens : ∀ character ∈ before.getLast?, isJoining character = false)
      (closes : ∀ character ∈ behind.head?, isJoining character = false) :
      IsRun before behind piece

/-- The token is a run of the text and knows where it starts. -/
def Token.IsRunOf (token : Token) (text : List Char) : Prop :=
  ∃ before behind, text = before ++ token.characters ++ behind ∧
    IsRun before behind token.characters ∧ token.start = byteLength before

/-! ### Tokens as runs -/

/-- The token of a character that joins no other. -/
def loneToken (offset : Nat) (character : Char) : List Token :=
  if Text.isHan character then [⟨[character], offset⟩] else []

variable {text rest piece run before behind : List Char} {character : Char} {start offset : Nat}

theorem tokensFrom_cons_apart (apart : isJoining character = false) :
    tokensFrom start run offset (character :: rest) =
      closeRun start run ++ loneToken offset character ++
        tokensFrom (offset + character.utf8Size) [] (offset + character.utf8Size) rest := by
  rw [tokensFrom, loneToken]
  cases han : Text.isHan character with
  | true => simp
  | false =>
      rw [isJoining, han, Bool.not_false, Bool.true_and] at apart
      simp [apart]

theorem tokensFrom_cons_joining (joining : isJoining character = true) :
    tokensFrom start run offset (character :: rest) =
      tokensFrom (if run.isEmpty then offset else start) (character :: run)
        (offset + character.utf8Size) rest := by
  rw [isJoining, Bool.and_eq_true, Bool.not_eq_true'] at joining
  rw [tokensFrom]
  simp [joining]

/-- A character that joins no other divides the tokens of a text. -/
theorem tokensFrom_append_cons (apart : isJoining character = false) :
    tokensFrom start run offset (text ++ character :: rest) =
      tokensFrom start run offset text ++ loneToken (offset + byteLength text) character ++
        tokensFrom (offset + byteLength text + character.utf8Size) []
          (offset + byteLength text + character.utf8Size) rest := by
  induction text generalizing start run offset with
  | nil => exact tokensFrom_cons_apart apart
  | cons first text ih =>
      rw [byteLength_cons, ← Nat.add_assoc]
      cases joining : isJoining first with
      | true => rw [List.cons_append, tokensFrom_cons_joining joining, ih,
          tokensFrom_cons_joining joining]
      | false =>
          rw [List.cons_append, tokensFrom_cons_apart joining, ih, tokensFrom_cons_apart joining]
          simp only [List.append_assoc]

theorem tokensFrom_append_joining (joining : ∀ character ∈ piece, isJoining character = true)
    (begun : run ≠ []) :
    tokensFrom start run offset (piece ++ rest) =
      tokensFrom start (piece.reverse ++ run) (offset + byteLength piece) rest := by
  induction piece generalizing run offset with
  | nil => rfl
  | cons first piece ih =>
      obtain ⟨joins, others⟩ := List.forall_mem_cons.1 joining
      have notEmpty : run.isEmpty = false := List.isEmpty_eq_false_iff.2 begun
      rw [List.cons_append, tokensFrom_cons_joining joins, notEmpty, if_neg Bool.false_ne_true,
        ih others (List.cons_ne_nil _ _), byteLength_cons, ← Nat.add_assoc, List.reverse_cons,
        List.append_assoc]
      rfl

theorem tokensFrom_closed (begun : run ≠ [])
    (closes : ∀ character ∈ rest.head?, isJoining character = false) :
    tokensFrom start run offset rest =
      ⟨run.reverse, start⟩ :: tokensFrom offset [] offset rest := by
  have closed : closeRun start run = [⟨run.reverse, start⟩] := by
    rw [closeRun, List.isEmpty_eq_false_iff.2 begun]
    rfl
  cases rest with
  | nil => exact closed
  | cons character rest =>
      have apart := closes character rfl
      rw [tokensFrom_cons_apart apart, tokensFrom_cons_apart apart, closed]
      rfl

theorem tokensFrom_piece (filled : piece ≠ [])
    (joining : ∀ character ∈ piece, isJoining character = true)
    (closes : ∀ character ∈ behind.head?, isJoining character = false) :
    tokensFrom offset [] offset (piece ++ behind) =
      ⟨piece, offset⟩ :: tokensFrom (offset + byteLength piece) []
        (offset + byteLength piece) behind := by
  obtain ⟨first, piece, rfl⟩ := List.exists_cons_of_ne_nil filled
  obtain ⟨joins, others⟩ := List.forall_mem_cons.1 joining
  rw [List.cons_append, tokensFrom_cons_joining joins,
    tokensFrom_append_joining others (List.cons_ne_nil _ _), tokensFrom_closed (by simp) closes,
    byteLength_cons, Nat.add_assoc]
  simp

/-- Every run of a text is one of its tokens. -/
theorem Token.IsRunOf.mem_tokens {token : Token} (isRunOf : token.IsRunOf text) :
    token ∈ tokens text := by
  obtain ⟨characters, start⟩ := token
  obtain ⟨before, behind, rfl, isRun, rfl⟩ := isRunOf
  rw [List.append_assoc, tokens]
  cases isRun with
  | @han character han =>
      have apart : isJoining character = false := by
        rw [isJoining, han, Bool.not_true, Bool.false_and]
      rw [List.singleton_append, tokensFrom_append_cons apart, loneToken, if_pos han, Nat.zero_add]
      simp
  | word filled joining opens closes =>
      rcases List.eq_nil_or_concat before with rfl | ⟨earlier, last, rfl⟩
      · rw [List.nil_append, tokensFrom_piece filled joining closes]
        exact List.mem_cons_self
      · -- What stands before the run ends in a character that divides the tokens.
        have apart : isJoining last = false := opens last (by simp)
        rw [List.concat_eq_append, List.append_assoc, List.singleton_append,
          tokensFrom_append_cons apart, tokensFrom_piece filled joining closes,
          byteLength_append, byteLength_cons]
        simp

theorem isRunOf_of_mem_closeRun {token : Token}
    (inside : token ∈ closeRun (byteLength before) run.reverse)
    (joining : ∀ character ∈ run, isJoining character = true)
    (opens : ∀ character ∈ before.getLast?, isJoining character = false)
    (closes : ∀ character ∈ behind.head?, isJoining character = false) :
    token.IsRunOf (before ++ run ++ behind) := by
  rw [closeRun, List.isEmpty_reverse] at inside
  split at inside
  case isTrue => cases inside
  case isFalse filled =>
    rw [List.reverse_reverse, List.mem_singleton] at inside
    subst inside
    exact ⟨before, behind, rfl, .word (mt List.isEmpty_iff.2 filled) joining opens closes, rfl⟩

/-- What is read behind a part of the text, of which a run is still open, are runs. -/
theorem isRunOf_of_mem_tokensFrom {token : Token} (before run rest : List Char)
    (inside : token ∈ tokensFrom (byteLength before) run.reverse (byteLength (before ++ run)) rest)
    (joining : ∀ character ∈ run, isJoining character = true)
    (opens : ∀ character ∈ before.getLast?, isJoining character = false) :
    token.IsRunOf (before ++ run ++ rest) := by
  induction rest generalizing before run with
  | nil => exact isRunOf_of_mem_closeRun inside joining opens (by simp)
  | cons character rest ih =>
      have nextOffset : byteLength (before ++ run) + character.utf8Size =
          byteLength (before ++ run ++ [character]) := by
        rw [byteLength_append _ [character], byteLength_cons, byteLength_nil, Nat.add_zero]
      cases joins : isJoining character with
      | true =>
          rw [tokensFrom_cons_joining joins, nextOffset] at inside
          have start : (if run.reverse.isEmpty then byteLength (before ++ run)
              else byteLength before) = byteLength before := by
            cases run with
            | nil => simp
            | cons => simp
          rw [start, ← List.reverse_concat, List.append_assoc] at inside
          have found := ih before (run ++ [character]) inside
            (List.forall_mem_append.2 ⟨joining, List.forall_mem_singleton.2 joins⟩) opens
          simpa using found
      | false =>
          have closes : ∀ next ∈ (character :: rest).head?, isJoining next = false := by
            simpa using joins
          rw [tokensFrom_cons_apart joins, nextOffset, List.append_assoc, List.mem_append,
            List.mem_append] at inside
          rcases inside with closed | alone | later
          · exact isRunOf_of_mem_closeRun closed joining opens closes
          · rw [loneToken] at alone
            split at alone
            case isTrue han =>
              rw [List.mem_singleton] at alone
              subst alone
              exact ⟨before ++ run, rest, by simp, .han han, rfl⟩
            case isFalse => cases alone
          · have found := ih (before ++ run ++ [character]) [] (by rwa [List.append_nil])
              (by simp) (by simpa using joins)
            simpa using found

/-- The tokens of a text are its runs. -/
theorem mem_tokens_iff {token : Token} : token ∈ tokens text ↔ token.IsRunOf text := by
  constructor
  · intro inside
    exact isRunOf_of_mem_tokensFrom [] [] text inside (by simp) (by simp)
  · exact Token.IsRunOf.mem_tokens

/-! ### The order of the tokens -/

theorem bounds_of_mem_closeRun {token : Token} (reached : start + byteLength run.reverse = offset)
    (inside : token ∈ closeRun start run) : start ≤ token.start ∧ token.stop = offset := by
  rw [closeRun] at inside
  split at inside
  case isTrue => cases inside
  case isFalse =>
    rw [List.mem_singleton] at inside
    subst inside
    exact ⟨Nat.le_refl _, reached⟩

theorem eq_of_mem_loneToken {token : Token} (inside : token ∈ loneToken offset character) :
    token = ⟨[character], offset⟩ := by
  rw [loneToken] at inside
  split at inside
  case isTrue => exact List.mem_singleton.1 inside
  case isFalse => cases inside

theorem reached_cons (reached : start + byteLength run.reverse = offset) (character : Char) :
    (if run.isEmpty then offset else start) + byteLength (character :: run).reverse =
      offset + character.utf8Size := by
  rw [List.reverse_cons, byteLength_append, byteLength_cons, byteLength_nil]
  cases run with
  | nil => simp
  | cons =>
      rw [List.isEmpty_cons, if_neg Bool.false_ne_true]
      omega

theorem start_le_of_mem_tokensFrom {token : Token}
    (reached : start + byteLength run.reverse = offset)
    (inside : token ∈ tokensFrom start run offset text) : start ≤ token.start := by
  induction text generalizing start run offset with
  | nil => exact (bounds_of_mem_closeRun reached inside).1
  | cons character text ih =>
      cases joins : isJoining character with
      | true =>
          rw [tokensFrom_cons_joining joins] at inside
          have later := ih (reached_cons reached character) inside
          split at later <;> omega
      | false =>
          rw [tokensFrom_cons_apart joins, List.append_assoc, List.mem_append,
            List.mem_append] at inside
          rcases inside with closed | alone | later
          · exact (bounds_of_mem_closeRun reached closed).1
          · rw [eq_of_mem_loneToken alone]
            exact Nat.le.intro reached
          · have beyond := ih rfl later
            omega

theorem pairwise_tokensFrom (reached : start + byteLength run.reverse = offset) :
    (tokensFrom start run offset text).Pairwise fun earlier later =>
      earlier.stop ≤ later.start := by
  have closed (offset : Nat) (run : List Char) : (closeRun offset run).Pairwise
      fun earlier later => earlier.stop ≤ later.start := by
    rw [closeRun]
    split <;> simp
  induction text generalizing start run offset with
  | nil => exact closed start run
  | cons character text ih =>
      cases joins : isJoining character with
      | true =>
          rw [tokensFrom_cons_joining joins]
          exact ih (reached_cons reached character)
      | false =>
          rw [tokensFrom_cons_apart joins, List.append_assoc]
          refine List.pairwise_append.2
            ⟨closed start run, List.pairwise_append.2 ⟨?_, ih rfl, ?_⟩, ?_⟩
          · rw [loneToken]
            split <;> simp
          · intro alone isAlone later isLater
            have beyond := start_le_of_mem_tokensFrom rfl isLater
            rw [eq_of_mem_loneToken isAlone]
            simpa [Token.stop, byteLength_cons] using beyond
          · intro before isBefore later isLater
            rw [(bounds_of_mem_closeRun reached isBefore).2]
            rcases List.mem_append.1 isLater with alone | behind
            · exact Nat.le_of_eq (congrArg Token.start (eq_of_mem_loneToken alone)).symm
            · have beyond := start_le_of_mem_tokensFrom rfl behind
              omega

theorem pairwise_tokens (text : List Char) :
    (tokens text).Pairwise fun earlier later => earlier.stop ≤ later.start :=
  pairwise_tokensFrom rfl

/-! ### Texts of one run -/

/-- Whether a text is one run from end to end. -/
def isOneRun (text : List Char) : Bool :=
  (!text.isEmpty && text.all isJoining) || (text.length == 1 && text.all Text.isHan)

theorem tokens_of_isOneRun (one : isOneRun text = true) : tokens text = [⟨text, 0⟩] := by
  rw [isOneRun, Bool.or_eq_true, Bool.and_eq_true, Bool.and_eq_true, List.all_eq_true,
    List.all_eq_true, beq_iff_eq] at one
  rcases one with ⟨filled, joining⟩ | ⟨single, han⟩
  · have nonempty : text ≠ [] := by simpa using filled
    have closes : ∀ character ∈ ([] : List Char).head?, isJoining character = false := by simp
    rw [tokens, ← List.append_nil text, tokensFrom_piece nonempty joining closes]
    simp [tokensFrom, closeRun]
  · obtain ⟨character, rfl⟩ := List.length_eq_one_iff.1 single
    simp [tokens, tokensFrom, closeRun, han character]

/-! ### Terms -/

theorem termOf?_eq_some_iff {characters : List Char} {term : String} :
    termOf? characters = some term ↔ byteLength characters < tokenByteLimit ∧
      isStopWord (String.ofList (Text.lowercaseEach characters)) = false ∧
      term = String.ofList (EnglishStem.stem (Text.lowercaseEach characters)) := by
  rw [termOf?]
  split
  case isTrue long => simp [Nat.not_lt.2 long]
  case isFalse short =>
    dsimp only
    split
    case isTrue stop => simp [stop]
    case isFalse kept => simp [Nat.lt_of_not_le short, kept, eq_comm]

theorem placeTerms_cons (position : Nat) (token : Token) (rest : List Token) :
    placeTerms position (token :: rest) =
      ((termOf? token.characters).map fun term =>
        (⟨position, token.start, token.stop, term⟩ : PlacedTerm)).toList ++
          placeTerms (position + 1) rest := by
  rw [placeTerms]
  cases termOf? token.characters <;> rfl

theorem mem_placeTerms_iff {position : Nat} {tokens : List Token} {placed : PlacedTerm} :
    placed ∈ placeTerms position tokens ↔ ∃ index token, tokens[index]? = some token ∧
      placed.position = position + index ∧ placed.start = token.start ∧
      placed.stop = token.stop ∧ termOf? token.characters = some placed.term := by
  induction tokens generalizing position with
  | nil => simp [placeTerms]
  | cons first tokens ih =>
      obtain ⟨place, start, stop, term⟩ := placed
      have later : (∃ index token, (first :: tokens)[index + 1]? = some token ∧
          place = position + (index + 1) ∧ start = token.start ∧ stop = token.stop ∧
          termOf? token.characters = some term) ↔
            ⟨place, start, stop, term⟩ ∈ placeTerms (position + 1) tokens := by
        simp only [ih, List.getElem?_cons_succ, Nat.add_assoc, Nat.add_comm 1]
      rw [← Nat.or_exists_add_one, later, placeTerms]
      cases made : termOf? first.characters with
      | none => simp [made]
      | some other => simp [made, eq_comm (a := term)]

theorem pairwise_placeTerms (position : Nat) (tokens : List Token) :
    (placeTerms position tokens).Pairwise fun earlier later =>
      earlier.position < later.position := by
  induction tokens generalizing position with
  | nil => exact List.Pairwise.nil
  | cons first tokens ih =>
      rw [placeTerms]
      split
      case h_1 =>
        refine List.pairwise_cons.2 ⟨fun later inside => ?_, ih (position + 1)⟩
        obtain ⟨index, _, _, place, _⟩ := mem_placeTerms_iff.1 inside
        change position < later.position
        omega
      case h_2 => exact ih (position + 1)

/-! ### Stop words -/

/-- The encoded stop words of all lists. -/
def stopWordBytes : List (List UInt8) :=
  (europeanStopWords ++ supplementaryStopWords).map (·.toByteArray.data.toList)

theorem isStopWord_eq_contains (word : String) :
    isStopWord word = stopWordBytes.contains word.toByteArray.data.toList := by
  have same (other : String) :
      other.toByteArray.data.toList = word.toByteArray.data.toList ↔ other = word := by
    rw [Array.toList_inj, ← String.toByteArray_inj]
    exact ByteArray.ext_iff.symm
  have found (words : List String) : words.contains word =
      (words.map (·.toByteArray.data.toList)).contains word.toByteArray.data.toList := by
    rw [Bool.eq_iff_iff, List.contains_iff_mem, List.contains_iff_mem, List.mem_map]
    simp only [same, exists_eq_right]
  rw [isStopWord, stopWordBytes, ← found, List.contains_append]

/-- A run whose length is the limit itself. -/
def longestWord : List Char := List.replicate 255 'x'

-- The lists are encoded once for all the words that are looked up in them.
theorem looked_up_words :
    isStopWord (String.ofList longestWord) = false ∧ isStopWord "error" = false ∧
      isStopWord "don" = false ∧ isStopWord "t" = true ∧ isStopWord "he" = true ∧
      isStopWord "d" = true := by
  simp only [isStopWord_eq_contains]
  decide +kernel

/-! ### Terms of runs -/

/-- The terms of a text come from its runs, listed from left to right. Each run below the limit
that is no stop word yields one, with its place among all runs and the bytes that it covers;
no other run yields any. -/
theorem terms_of_runs (text : String) : ∃ runs : List Token,
    (∀ run, run ∈ runs ↔ run.IsRunOf text.toList) ∧
    (runs.Pairwise fun earlier later => earlier.stop ≤ later.start) ∧
    (∀ placed, placed ∈ analyze text ↔ ∃ run, runs[placed.position]? = some run ∧
      placed.start = run.start ∧ placed.stop = run.stop ∧
      byteLength run.characters < tokenByteLimit ∧
      isStopWord (String.ofList (Text.lowercaseEach run.characters)) = false ∧
      placed.term = String.ofList (EnglishStem.stem (Text.lowercaseEach run.characters))) ∧
    (analyze text).Pairwise fun earlier later => earlier.position < later.position := by
  refine ⟨tokens text.toList, fun run => mem_tokens_iff, pairwise_tokens _, fun placed => ?_,
    pairwise_placeTerms 0 _⟩
  simp only [analyze, mem_placeTerms_iff, termOf?_eq_some_iff, Nat.zero_add]
  constructor
  · rintro ⟨index, run, isRun, rfl, start, stop, term⟩
    exact ⟨run, isRun, start, stop, term⟩
  · rintro ⟨run, isRun, start, stop, term⟩
    exact ⟨_, run, isRun, rfl, start, stop, term⟩

theorem longest_word_leaves_no_term :
    Token.IsRunOf ⟨longestWord, 0⟩ longestWord ∧ byteLength longestWord = tokenByteLimit ∧
      isStopWord (String.ofList (Text.lowercaseEach longestWord)) = false ∧
      analyze (String.ofList longestWord) = [] := by
  have joins : isJoining 'x' = true := rfl
  have oneRun : isOneRun longestWord = true := by
    rw [isOneRun, longestWord, List.all_replicate, joins]
    rfl
  have alone : tokens longestWord = [⟨longestWord, 0⟩] := tokens_of_isOneRun oneRun
  have atLimit : byteLength longestWord = tokenByteLimit := byteLength_replicate 255 'x'
  have small : Text.lowercaseEach longestWord = longestWord := by
    have lowered : Text.lowercaseCharacter 'x' = ['x'] := rfl
    rw [Text.lowercaseEach, longestWord, List.flatMap_replicate, lowered,
      List.flatten_replicate_singleton]
  have noTerm : termOf? longestWord = none := by
    rw [termOf?, if_pos (Nat.le_of_eq atLimit.symm)]
  refine ⟨mem_tokens_iff.1 (alone ▸ List.mem_cons_self), atLimit, ?_, ?_⟩
  · rw [small]
    exact looked_up_words.1
  · rw [analyze, String.toList_ofList, alone, placeTerms, noTerm]
    rfl

end EntitySearch.Analysis
