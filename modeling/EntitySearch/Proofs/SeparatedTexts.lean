import EntitySearch.Proofs.TextRuns
import Mathlib.Data.String.Basic

/-!
# Separated texts

A character that belongs to no token divides the analysis of a text.  What stands
before it has the terms that it has on its own, and so has what stands behind it, with
the tokens and the bytes before counted in.  A stretch between two separators adds its
own terms and no others; a listed stop word adds none if each piece of it, from one
apostrophe to the next, is a stop word.
-/

namespace EntitySearch

/-! ### Characters without case -/

namespace Text

theorem exists_range_of_inRanges {ranges : List (Nat × Nat)} {point : Nat}
    (held : inRanges ranges point = true) :
    ∃ range ∈ ranges, range.1 ≤ point ∧ point ≤ range.2 := by
  induction ranges with
  | nil => exact Bool.noConfusion held
  | cons range ranges ih =>
      rw [inRanges] at held
      split at held
      case isTrue => exact Bool.noConfusion held
      case isFalse notBefore =>
        rw [Bool.or_eq_true] at held
        rcases held with within | later
        · exact ⟨range, List.mem_cons_self, Nat.le_of_not_lt notBefore, of_decide_eq_true within⟩
        · obtain ⟨other, inside, bounds⟩ := ih later
          exact ⟨other, List.mem_cons_of_mem _ inside, bounds⟩

theorem lowercaseDistance_eq_zero {rows : List LowercaseRun} {point : Nat}
    (free : ∀ row ∈ rows, row.run.holds point = false) : lowercaseDistance rows point = 0 := by
  induction rows with
  | nil => rfl
  | cons row rows ih =>
      obtain ⟨here, others⟩ := List.forall_mem_cons.1 free
      rw [lowercaseDistance, here, if_neg Bool.false_ne_true, ih others, ite_self]

theorem holds_eq_false_of_isHan {character : Char} (han : isHan character = true) :
    ∀ row ∈ lowercaseRunTable, row.run.holds character.toNat = false := by
  have disjoint : ∀ range ∈ hanRanges, ∀ row ∈ lowercaseRunTable,
      row.run.last < range.1 ∨ range.2 < row.run.first := by
    decide +kernel
  intro row inside
  obtain ⟨range, isRange, lower, upper⟩ := exists_range_of_inRanges han
  by_contra held
  rw [Bool.not_eq_false, CharacterRun.holds, Bool.and_eq_true, Bool.and_eq_true,
    decide_eq_true_eq, decide_eq_true_eq] at held
  rcases disjoint range isRange row inside with before | behind <;> omega

theorem lowercaseCharacter_of_isHan {character : Char} (han : isHan character = true) :
    lowercaseCharacter character = [character] := by
  have start : ∀ range ∈ hanRanges, 0x2E80 ≤ range.1 := by decide
  obtain ⟨range, isRange, lower, -⟩ := exists_range_of_inRanges han
  have beyond := Nat.le_trans (start range isRange) lower
  have notAscii : isAscii character = false := by
    rw [isAscii, decide_eq_false_iff_not]
    omega
  have notDotted : character ≠ dottedCapitalI := by
    rintro rfl
    exact absurd beyond (by decide)
  rw [lowercaseCharacter, notAscii, if_neg Bool.false_ne_true, if_neg notDotted,
    lowercaseDistance_eq_zero (holds_eq_false_of_isHan han), Int.add_zero, Int.toNat_natCast,
    Char.ofNat_toNat]

end Text

namespace Analysis

/-! ### Pieces further on in a text -/

/-- The token in a text that has so many more bytes before it. -/
def Token.shift (token : Token) (bytes : Nat) : Token :=
  { token with start := token.start + bytes }

/-- The term in a text that has so many more tokens and bytes before it. -/
def PlacedTerm.shift (placed : PlacedTerm) (count bytes : Nat) : PlacedTerm :=
  { placed with
    position := placed.position + count
    start := placed.start + bytes
    stop := placed.stop + bytes }

theorem Token.stop_shift (token : Token) (bytes : Nat) :
    (token.shift bytes).stop = token.stop + bytes :=
  Nat.add_right_comm token.start bytes (byteLength token.characters)

variable {text : List Char} {separator : Char} {bytes count : Nat}

theorem closeRun_shift (start : Nat) (run : List Char) :
    closeRun (start + bytes) run = (closeRun start run).map (·.shift bytes) := by
  unfold closeRun
  split <;> rfl

theorem loneToken_shift (offset : Nat) (character : Char) :
    loneToken (offset + bytes) character = (loneToken offset character).map (·.shift bytes) := by
  unfold loneToken
  split <;> rfl

theorem tokensFrom_shift (bytes start : Nat) (run : List Char) (offset : Nat) (text : List Char) :
    tokensFrom (start + bytes) run (offset + bytes) text =
      (tokensFrom start run offset text).map (·.shift bytes) := by
  induction text generalizing start run offset with
  | nil => exact closeRun_shift start run
  | cons character text ih =>
      have next : offset + bytes + character.utf8Size = offset + character.utf8Size + bytes :=
        Nat.add_right_comm offset bytes character.utf8Size
      cases joins : isJoining character with
      | true =>
          -- An open run keeps its start, a new one starts here; either has moved.
          have opened : (if run.isEmpty then offset + bytes else start + bytes) =
              (if run.isEmpty then offset else start) + bytes := by
            split <;> rfl
          rw [tokensFrom_cons_joining joins, tokensFrom_cons_joining joins, opened, next, ih]
      | false =>
          rw [tokensFrom_cons_apart joins, tokensFrom_cons_apart joins, next, ih, closeRun_shift,
            loneToken_shift, List.map_append, List.map_append]

theorem placeTerms_append (position : Nat) (first second : List Token) :
    placeTerms position (first ++ second) =
      placeTerms position first ++ placeTerms (position + first.length) second := by
  induction first generalizing position with
  | nil => rfl
  | cons token first ih =>
      have next : position + (token :: first).length = position + 1 + first.length := by
        rw [List.length_cons]
        omega
      rw [List.cons_append, placeTerms_cons, placeTerms_cons, ih, next, List.append_assoc]

theorem placeTerms_shift (position : Nat) (tokens : List Token) :
    placeTerms (position + count) (tokens.map (·.shift bytes)) =
      (placeTerms position tokens).map (·.shift count bytes) := by
  induction tokens generalizing position with
  | nil => rfl
  | cons token tokens ih =>
      have characters : (token.shift bytes).characters = token.characters := rfl
      rw [List.map_cons, placeTerms_cons, placeTerms_cons, Nat.add_right_comm, ih, characters,
        Token.stop_shift, List.map_append]
      cases termOf? token.characters <;> rfl

/-! ### Separators -/

theorem byteLength_toList (text : String) : byteLength text.toList = text.utf8ByteSize := by
  have counted (characters : List Char) :
      byteLength characters = (String.ofList characters).utf8ByteSize := by
    rw [String.utf8ByteSize_ofList]
    induction characters with
    | nil => rfl
    | cons character characters ih =>
        rw [byteLength_cons, ih, String.utf8Len_cons, Nat.add_comm]
  rw [counted, String.ofList_toList]

section Separator

variable (notHan : Text.isHan separator = false)
  (notWord : Text.isWordCharacter separator = false)
include notHan notWord

theorem tokens_append_separator (first second : List Char) :
    tokens (first ++ separator :: second) = tokens first ++
      (tokens second).map (·.shift (byteLength first + separator.utf8Size)) := by
  have apart : isJoining separator = false := by rw [isJoining, notWord, Bool.and_false]
  have alone (offset : Nat) : loneToken offset separator = [] := by
    rw [loneToken, notHan, if_neg Bool.false_ne_true]
  have behind := tokensFrom_shift (byteLength first + separator.utf8Size) 0 [] 0 second
  rw [tokens, tokensFrom_append_cons apart, alone, List.append_nil, Nat.add_assoc, behind]
  rfl

theorem analyze_divided (first second : String) :
    analyze (first ++ String.singleton separator ++ second) = analyze first ++
      (analyze second).map (·.shift (tokens first.toList).length
        (byteLength first.toList + separator.utf8Size)) := by
  have divided : (first ++ String.singleton separator ++ second).toList =
      first.toList ++ separator :: second.toList := by
    simp
  rw [analyze, divided, tokens_append_separator notHan notWord, placeTerms_append,
    placeTerms_shift]
  rfl

theorem terms_append_separator (first second : String) :
    terms (first ++ String.singleton separator ++ second) = terms first ++ terms second := by
  rw [terms, analyze_divided notHan notWord, List.map_append, List.map_map]
  rfl

theorem terms_intercalate (pieces : List (List Char)) :
    terms (String.ofList ([separator].intercalate pieces)) =
      pieces.flatMap fun piece => terms (String.ofList piece) := by
  induction pieces with
  | nil => rfl
  | cons piece pieces ih =>
      cases pieces with
      | nil => rw [List.intercalate_singleton, List.flatMap_singleton]
      | cons next pieces =>
          have divided : String.ofList ([separator].intercalate (piece :: next :: pieces)) =
              String.ofList piece ++ String.singleton separator ++
                String.ofList ([separator].intercalate (next :: pieces)) := by
            rw [List.intercalate_cons_cons, String.ofList_append, String.ofList_append,
              String.singleton_eq_ofList]
          rw [divided, terms_append_separator notHan notWord, ih]
          rfl

/-- The terms of a text are those of its pieces from one separator to the next. -/
theorem terms_eq_flatMap_splitOn (text : String) :
    terms text = (text.toList.splitOn separator).flatMap fun piece =>
      terms (String.ofList piece) := by
  rw [← terms_intercalate notHan notWord, List.intercalate_splitOn, String.ofList_toList]

/-- The terms around a separator are those of the text before it and those of the text behind it,
which count on from the tokens before, with or without a term, and from the bytes before. -/
theorem analyze_append_separator (first second : String) :
    analyze (first ++ String.singleton separator ++ second) = analyze first ++
      (analyze second).map (·.shift (tokens first.toList).length
        (first.utf8ByteSize + separator.utf8Size)) := by
  rw [analyze_divided notHan notWord, byteLength_toList]

end Separator

theorem analyze_around_quotation_mark :
    Text.isHan '»' = false ∧ Text.isWordCharacter '»' = false ∧
      analyze ("«A" ++ String.singleton '»' ++ " an Error") = [⟨2, 9, 14, "error"⟩] := by
  have notHan : Text.isHan '»' = false := rfl
  have notWord : Text.isWordCharacter '»' = false := rfl
  have before : analyze "«A" = [] := rfl
  have article : termOf? ['a', 'n'] = none := rfl
  have lowered : String.ofList (Text.lowercaseEach ['E', 'r', 'r', 'o', 'r']) = "error" := rfl
  have error : termOf? ['E', 'r', 'r', 'o', 'r'] = some "error" :=
    termOf?_eq_some_iff.2 ⟨by decide, lowered ▸ looked_up_words.2.1, rfl⟩
  have behind : analyze " an Error" = [⟨1, 4, 9, "error"⟩] := by
    have runs : tokens " an Error".toList = [⟨['a', 'n'], 1⟩, ⟨['E', 'r', 'r', 'o', 'r'], 4⟩] := rfl
    rw [analyze, runs, placeTerms_cons, placeTerms_cons, article, error]
    rfl
  refine ⟨notHan, notWord, ?_⟩
  rw [analyze_append_separator notHan notWord "«A" " an Error", before, behind]
  rfl

/-! ### Listed stop words -/

/-- A text of one run that is small as it stands has no term exactly if it is a stop word. -/
theorem terms_ofList_eq_nil_iff (one : isOneRun text = true)
    (folded : Text.lowercaseEach text = text) (short : byteLength text < tokenByteLimit) :
    terms (String.ofList text) = [] ↔ isStopWord (String.ofList text) = true := by
  have term : termOf? text = if isStopWord (String.ofList text) then none
      else some (String.ofList (EnglishStem.stem text)) := by
    rw [termOf?, if_neg (Nat.not_le.2 short), folded]
  rw [terms, analyze, String.toList_ofList, tokens_of_isOneRun one, placeTerms_cons, term]
  cases isStopWord (String.ofList text) <;> simp [placeTerms]

def apostrophe : Char := '\x27'

/-- A text between two blanks adds no term exactly if it has none of its own. -/
theorem terms_between_blanks_iff (first word second : String) :
    terms (first ++ " " ++ word ++ " " ++ second) = terms (first ++ " " ++ second) ↔
      terms word = [] := by
  have blank : " " = String.singleton ' ' := by decide
  have notHan : Text.isHan ' ' = false := rfl
  have notWord : Text.isWordCharacter ' ' = false := rfl
  have divided := terms_append_separator notHan notWord
  rw [blank, divided, divided, divided, List.append_assoc, List.append_cancel_left_eq,
    List.append_left_eq_self]

theorem pieces_of_english_word : ∀ word ∈ englishStopWords,
    ∀ piece ∈ word.toList.splitOn apostrophe, isOneRun piece = true ∧
      Text.lowercaseEach piece = piece ∧ byteLength piece < tokenByteLimit := by
  decide +kernel

theorem chinese_word_is_han : ∀ word ∈ chineseStopWords,
    word.toList.length = 1 ∧ word.toList.all Text.isHan = true := by
  decide +kernel

theorem pieces_of_listed_word {word : String} (listed : word ∈ supplementaryStopWords) :
    ∀ piece ∈ word.toList.splitOn apostrophe, isOneRun piece = true ∧
      Text.lowercaseEach piece = piece ∧ byteLength piece < tokenByteLimit := by
  -- The English words are checked one by one; of a Chinese word it is enough to know that it is one
  -- Han character.
  rcases List.mem_append.1 listed with english | chinese
  · exact pieces_of_english_word word english
  · obtain ⟨single, isHan⟩ := chinese_word_is_han word chinese
    obtain ⟨character, alone⟩ := List.length_eq_one_iff.1 single
    rw [alone] at isHan ⊢
    have han : Text.isHan character = true := by simpa using isHan
    have whole : apostrophe ∉ [character] := by
      rw [List.mem_singleton]
      rintro rfl
      exact absurd han Bool.false_ne_true
    have oneRun : isOneRun [character] = true := by simp [isOneRun, han]
    have folded : Text.lowercaseEach [character] = [character] := by
      rw [Text.lowercaseEach, List.flatMap_singleton, Text.lowercaseCharacter_of_isHan han]
    have short : byteLength [character] < tokenByteLimit := by
      have size := character.utf8Size_le_four
      rw [byteLength_cons, byteLength_nil, tokenByteLimit]
      omega
    intro piece inside
    rw [List.splitOn_eq_singleton whole, List.mem_singleton] at inside
    rw [inside]
    exact ⟨oneRun, folded, short⟩

/-- A listed word has no term exactly if each of its pieces from one apostrophe to the next is a
stop word. -/
theorem terms_listed_word_eq_nil_iff {word : String} (listed : word ∈ supplementaryStopWords) :
    terms word = [] ↔
      ∀ piece ∈ word.toList.splitOn apostrophe, isStopWord (String.ofList piece) = true := by
  have notHan : Text.isHan apostrophe = false := rfl
  have notWord : Text.isWordCharacter apostrophe = false := rfl
  rw [terms_eq_flatMap_splitOn notHan notWord, List.flatMap_eq_nil_iff]
  refine forall₂_congr fun piece inside => ?_
  obtain ⟨one, folded, short⟩ := pieces_of_listed_word listed piece inside
  exact terms_ofList_eq_nil_iff one folded short

/-- A listed word between blanks adds no term exactly if all its pieces are stop words. -/
theorem listed_word_adds_no_term_iff {word : String} (listed : word ∈ supplementaryStopWords)
    (first second : String) :
    terms (first ++ " " ++ word ++ " " ++ second) = terms (first ++ " " ++ second) ↔
      ∀ piece ∈ word.toList.splitOn apostrophe, isStopWord (String.ofList piece) = true :=
  (terms_between_blanks_iff ..).trans (terms_listed_word_eq_nil_iff listed)

/-- Of a listed contraction both pieces are stop words here. -/
theorem he_had_adds_no_term :
    "he'd" ∈ supplementaryStopWords ∧
      terms ("know" ++ " " ++ "he'd" ++ " " ++ "go") = terms ("know" ++ " " ++ "go") := by
  obtain ⟨-, -, -, -, he, had⟩ := looked_up_words
  have listed : "he'd" ∈ supplementaryStopWords := List.mem_append_left _ (by decide)
  have pieces : "he'd".toList.splitOn apostrophe = [['h', 'e'], ['d']] := rfl
  refine ⟨listed, (listed_word_adds_no_term_iff listed _ _).2 ?_⟩
  rw [pieces]
  exact List.forall_mem_cons.2 ⟨he, List.forall_mem_singleton.2 had⟩

/-- A listed word without an apostrophe adds no term between blanks. -/
theorem listed_word_adds_no_term {word : String} (listed : word ∈ supplementaryStopWords)
    (whole : apostrophe ∉ word.toList) (first second : String) :
    terms (first ++ " " ++ word ++ " " ++ second) = terms (first ++ " " ++ second) := by
  have stops : isStopWord word = true := by
    rw [isStopWord, List.contains_iff_mem.2 listed, Bool.or_true]
  rw [terms_between_blanks_iff, terms_listed_word_eq_nil_iff listed,
    List.splitOn_eq_singleton whole]
  intro piece inside
  rwa [List.mem_singleton.1 inside, String.ofList_toList]

/-- A listed contraction of which the first piece is no stop word. -/
theorem contraction_adds_term :
    "don't" ∈ supplementaryStopWords ∧ terms ("" ++ " " ++ "don't" ++ " " ++ "") = ["don"] ∧
      terms ("" ++ " " ++ "") = [] := by
  obtain ⟨-, -, don, t, -⟩ := looked_up_words
  have kept : termOf? ['d', 'o', 'n'] = some "don" := termOf?_eq_some_iff.2 ⟨by decide, don, rfl⟩
  have dropped : termOf? ['t'] = none := by
    rw [termOf?, if_neg (by decide)]
    exact if_pos t
  have runs : tokens ("" ++ " " ++ "don't" ++ " " ++ "").toList =
      [⟨['d', 'o', 'n'], 1⟩, ⟨['t'], 5⟩] := rfl
  refine ⟨List.mem_append_left _ (by decide), ?_, rfl⟩
  rw [terms, analyze, runs, placeTerms_cons, placeTerms_cons, kept, dropped]
  rfl

end Analysis

end EntitySearch
