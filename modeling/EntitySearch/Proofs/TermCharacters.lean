import EntitySearch.Index.Posting
import EntitySearch.Proofs.TextRuns

/-!
# The characters of terms

The analysis never puts a line feed into a term.  A token has word characters only,
no character but the line feed itself has it in its lowercase form, and a stem is
made of characters of the word and of letters.  The last fact holds step by step:
every rule of the reduction takes characters away from the word or writes letters at
its end.
-/

namespace EntitySearch

/-! ### Stems -/

namespace Analysis.EnglishStem

/-- The word has characters of the alphabet only. -/
def IsWrittenIn (alphabet : Char → Prop) (word : List Char) : Prop :=
  ∀ character ∈ word, alphabet character

variable {alphabet : Char → Prop} {word : List Char}

theorem IsWrittenIn.append {suffix : List Char} (written : IsWrittenIn alphabet word)
    (suffixWritten : IsWrittenIn alphabet suffix) : IsWrittenIn alphabet (word ++ suffix) :=
  List.forall_mem_append.2 ⟨written, suffixWritten⟩

theorem IsWrittenIn.take (written : IsWrittenIn alphabet word) (count : Nat) :
    IsWrittenIn alphabet (word.take count) :=
  fun character inside => written character (List.mem_of_mem_take inside)

theorem IsWrittenIn.dropLast (written : IsWrittenIn alphabet word) :
    IsWrittenIn alphabet word.dropLast :=
  fun character inside => written character (List.dropLast_subset _ inside)

theorem isWrittenIn_reverse : IsWrittenIn alphabet word.reverse ↔ IsWrittenIn alphabet word := by
  simp only [IsWrittenIn, List.mem_reverse]

/-- What precedes a suffix belongs to the word, and the entry to the table. -/
theorem IsWrittenIn.of_findSuffix? {Action : Type} {table : List (String × Action)}
    (written : IsWrittenIn alphabet word) {stem : List Char} {action : Action}
    (found : findSuffix? table word = some (stem, action)) :
    IsWrittenIn alphabet stem ∧ ∃ entry ∈ table, entry.2 = action := by
  obtain ⟨entry, inside, isEntry⟩ := List.exists_of_findSome?_eq_some found
  obtain ⟨before, isStem, same⟩ := Option.map_eq_some_iff.1 isEntry
  cases same
  unfold withoutSuffix? at isStem
  split at isStem
  case isTrue =>
    cases isStem
    exact ⟨written.take _, entry, inside, rfl⟩
  case isFalse => cases isStem

section Steps

variable (letters : ∀ character, character.isAlpha = true → alphabet character)
include letters

theorem IsWrittenIn.of_letters {suffix : List Char} (isLetter : suffix.all Char.isAlpha = true) :
    IsWrittenIn alphabet suffix :=
  fun character inside => letters character (List.all_eq_true.1 isLetter character inside)

theorem IsWrittenIn.markConsonants (written : IsWrittenIn alphabet word)
    (previous : Option Char) :
    IsWrittenIn alphabet (EnglishStem.markConsonants previous word) := by
  induction word generalizing previous with
  | nil => exact written
  | cons character word ih =>
      obtain ⟨here, others⟩ := List.forall_mem_cons.1 written
      rw [EnglishStem.markConsonants]
      refine List.forall_mem_cons.2 ⟨?_, ih others _⟩
      split
      · exact letters 'Y' rfl
      · exact here

theorem IsWrittenIn.unmarkConsonants (written : IsWrittenIn alphabet word) :
    IsWrittenIn alphabet (EnglishStem.unmarkConsonants word) := by
  intro marked inside
  obtain ⟨character, isCharacter, rfl⟩ := List.mem_map.1 inside
  split
  · exact letters 'y' rfl
  · exact written character isCharacter

omit letters in
theorem IsWrittenIn.dropInitialApostrophe (written : IsWrittenIn alphabet word) :
    IsWrittenIn alphabet (EnglishStem.dropInitialApostrophe word) := by
  unfold EnglishStem.dropInitialApostrophe
  split
  · exact (List.forall_mem_cons.1 written).2
  · exact written

omit letters in
theorem IsWrittenIn.removePossessive (written : IsWrittenIn alphabet word) :
    IsWrittenIn alphabet (EnglishStem.removePossessive word) := by
  unfold EnglishStem.removePossessive
  split
  case h_1 stem _ found => exact (written.of_findSuffix? found).1
  case h_2 => exact written

theorem IsWrittenIn.removePlural (written : IsWrittenIn alphabet word) :
    IsWrittenIn alphabet (EnglishStem.removePlural word) := by
  unfold EnglishStem.removePlural
  split
  case h_1 stem found => exact (written.of_findSuffix? found).1.append (.of_letters letters rfl)
  case h_2 stem found =>
    split
    · exact (written.of_findSuffix? found).1.append (.of_letters letters rfl)
    · exact (written.of_findSuffix? found).1.append (.of_letters letters rfl)
  case h_3 stem found =>
    split
    · exact (written.of_findSuffix? found).1
    · exact written
  case h_4 => exact written
  case h_5 => exact written

theorem IsWrittenIn.mendStem (written : IsWrittenIn alphabet word) (areas : Regions) :
    IsWrittenIn alphabet (EnglishStem.mendStem areas word) := by
  unfold EnglishStem.mendStem
  split
  · exact written.append (.of_letters letters rfl)
  · split
    · exact written.dropLast
    · split
      · exact written.append (.of_letters letters rfl)
      · exact written

theorem IsWrittenIn.removeParticiple (written : IsWrittenIn alphabet word) (areas : Regions) :
    IsWrittenIn alphabet (EnglishStem.removeParticiple areas word) := by
  unfold EnglishStem.removeParticiple
  split
  case h_1 stem found =>
    split
    · exact (written.of_findSuffix? found).1.append (.of_letters letters rfl)
    · exact written
  case h_2 stem found =>
    split
    · exact (written.of_findSuffix? found).1.mendStem letters areas
    · exact written
  case h_3 => exact written

theorem IsWrittenIn.replaceFinalY (written : IsWrittenIn alphabet word) :
    IsWrittenIn alphabet (EnglishStem.replaceFinalY word) := by
  unfold EnglishStem.replaceFinalY
  split
  case h_1 last before earlier rest backwards =>
    split
    · have reversed : IsWrittenIn alphabet (last :: before :: earlier :: rest) :=
        backwards ▸ isWrittenIn_reverse.2 written
      exact isWrittenIn_reverse.2
        (List.forall_mem_cons.2 ⟨letters 'i' rfl, (List.forall_mem_cons.1 reversed).2⟩)
    · exact written
  case h_2 => exact written

theorem IsWrittenIn.replaceSuffix (written : IsWrittenIn alphabet word)
    (table : List (String × String × SuffixCondition))
    (isLetter : table.all (fun entry => entry.2.1.toList.all Char.isAlpha) = true)
    (areas : Regions) (region : Nat) :
    IsWrittenIn alphabet (EnglishStem.replaceSuffix table areas region word) := by
  unfold EnglishStem.replaceSuffix
  split
  case h_1 stem replacement condition found =>
    split
    · obtain ⟨stemWritten, entry, inside, isEntry⟩ := written.of_findSuffix? found
      have replacementLetters := List.all_eq_true.1 isLetter entry inside
      rw [isEntry] at replacementLetters
      exact stemWritten.append (.of_letters letters replacementLetters)
    · exact written
  case h_2 => exact written

omit letters in
theorem IsWrittenIn.removeFinalLetter (written : IsWrittenIn alphabet word) (areas : Regions) :
    IsWrittenIn alphabet (EnglishStem.removeFinalLetter areas word) := by
  unfold EnglishStem.removeFinalLetter
  dsimp only
  split
  · split
    · exact written.dropLast
    · exact written
  · split
    · exact written.dropLast
    · exact written

theorem IsWrittenIn.reduce (written : IsWrittenIn alphabet word) :
    IsWrittenIn alphabet (EnglishStem.reduce word) := by
  have singular := (written.dropInitialApostrophe.markConsonants letters none).removePossessive
    |>.removePlural letters
  unfold EnglishStem.reduce
  dsimp only
  refine IsWrittenIn.unmarkConsonants letters ?_
  split
  · exact singular
  · refine .removeFinalLetter (.replaceSuffix letters (.replaceSuffix letters
      (.replaceSuffix letters ?_ derivedEndings (by decide) _ _)
      adjectivalEndings (by decide) _ _) residualEndings (by decide +kernel) _ _) _
    exact (singular.removeParticiple letters _).replaceFinalY letters

/-- A stem is made of characters of the word and of letters. -/
theorem IsWrittenIn.stem (written : IsWrittenIn alphabet word) :
    IsWrittenIn alphabet (EnglishStem.stem word) := by
  unfold EnglishStem.stem
  split
  case h_1 entry stem found =>
    have stemLetters : exceptionalStems.all (fun entry => entry.2.toList.all Char.isAlpha) =
        true := by decide
    exact .of_letters letters (List.all_eq_true.1 stemLetters _ (List.mem_of_find?_eq_some found))
  case h_2 =>
    split
    · exact written
    · exact written.reduce letters

end Steps

end Analysis.EnglishStem

/-! ### Lowercase forms -/

namespace Text

theorem eq_toNat_of_ofNat_eq {point : Nat} {character : Char} (same : Char.ofNat point = character)
    (notNull : character.toNat ≠ 0) : point = character.toNat := by
  subst same
  by_cases valid : point.isValidChar
  · exact congrArg Char.toNat (dif_pos valid : Char.ofNat point = Char.ofNatAux point valid).symm
  · have replaced : Char.ofNat point = ⟨0, .inl (by decide)⟩ := dif_neg valid
    exact (notNull (congrArg Char.toNat replaced)).elim

theorem lowercaseDistance_cases (rows : List LowercaseRun) (point : Nat) :
    lowercaseDistance rows point = 0 ∨ ∃ row ∈ rows, row.run.first ≤ point ∧
      lowercaseDistance rows point = row.distance := by
  induction rows with
  | nil => exact .inl rfl
  | cons row rows ih =>
      rw [lowercaseDistance]
      split
      case isTrue => exact .inl rfl
      case isFalse notBefore =>
        split
        case isTrue => exact .inr ⟨row, List.mem_cons_self, Nat.le_of_not_lt notBefore, rfl⟩
        case isFalse =>
          exact ih.imp id fun ⟨other, inside, first, same⟩ =>
            ⟨other, List.mem_cons_of_mem _ inside, first, same⟩

/-- The lowercase form of a character beyond ASCII is no control character of ASCII. -/
theorem lt_add_lowercaseDistance {point : Nat} (beyond : 128 ≤ point) :
    31 < (point : Int) + lowercaseDistance lowercaseRunTable point := by
  have rows : lowercaseRunTable.all (fun row => 31 < (row.run.first : Int) + row.distance) =
      true := by decide
  rcases lowercaseDistance_cases lowercaseRunTable point with same | ⟨row, inside, first, same⟩
  · omega
  · have above := of_decide_eq_true (List.all_eq_true.1 rows row inside)
    omega

theorem eq_lineFeed_of_mem_lowercaseCharacter {character : Char}
    (inside : '\n' ∈ lowercaseCharacter character) : character = '\n' := by
  unfold lowercaseCharacter at inside
  split at inside
  case isTrue ascii =>
    have lowered : ∀ point < 128, (Char.ofNat point).toLower = '\n' → point = 10 := by
      decide
    have same : character.toNat = 10 := by
      apply lowered _ (of_decide_eq_true ascii)
      rw [Char.ofNat_toNat]
      exact (List.mem_singleton.1 inside).symm
    rw [← Char.ofNat_toNat character, same]
  case isFalse beyond =>
    split at inside
    case isTrue => exact absurd inside (by decide)
    case isFalse =>
      have same := eq_toNat_of_ofNat_eq (List.mem_singleton.1 inside).symm (by decide)
      have above := lt_add_lowercaseDistance (Nat.le_of_not_lt (mt decide_eq_true beyond))
      have lineFeed : '\n'.toNat = 10 := rfl
      omega

theorem lineFeed_mem_lowercaseEach {text : List Char} (inside : '\n' ∈ lowercaseEach text) :
    '\n' ∈ text := by
  obtain ⟨character, isCharacter, lowered⟩ := List.mem_flatMap.1 inside
  rw [eq_lineFeed_of_mem_lowercaseCharacter lowered] at isCharacter
  exact isCharacter

end Text

/-! ### Tokens and terms -/

namespace Analysis

def IsTokenCharacter (character : Char) : Prop :=
  Text.isHan character = true ∨ Text.isWordCharacter character = true

theorem Token.IsRunOf.isTokenCharacter {text : List Char} {token : Token}
    (isRunOf : token.IsRunOf text) :
    ∀ character ∈ token.characters, IsTokenCharacter character := by
  obtain ⟨characters, start⟩ := token
  obtain ⟨before, behind, -, isRun, -⟩ := isRunOf
  cases isRun with
  | han han => exact List.forall_mem_singleton.2 (.inl han)
  | word _ joining =>
      intro character inside
      exact .inr (Bool.and_eq_true_iff.1 (joining character inside)).2

theorem lineFeed_not_mem_token {text : List Char} {token : Token} (inside : token ∈ tokens text) :
    '\n' ∉ token.characters := by
  intro lineFeed
  have isTokenCharacter : IsTokenCharacter '\n' :=
    (mem_tokens_iff.1 inside).isTokenCharacter _ lineFeed
  exact absurd isTokenCharacter (by unfold IsTokenCharacter; decide)

theorem lineFeed_not_mem_termOf? {characters : List Char} (noLineFeed : '\n' ∉ characters)
    {term : String} (made : termOf? characters = some term) : '\n' ∉ term.toList := by
  obtain ⟨-, -, rfl⟩ := termOf?_eq_some_iff.1 made
  have letters : ∀ character : Char, character.isAlpha = true → character ≠ '\n' := by
    rintro character isLetter rfl
    cases isLetter
  have lowered : EnglishStem.IsWrittenIn (· ≠ '\n') (Text.lowercaseEach characters) := by
    rintro character inside rfl
    exact noLineFeed (Text.lineFeed_mem_lowercaseEach inside)
  rw [String.toList_ofList]
  exact fun inside => lowered.stem letters _ inside rfl

theorem lineFeed_not_mem_term {text : String} {placed : PlacedTerm}
    (inside : placed ∈ analyze text) : '\n' ∉ placed.term.toList := by
  obtain ⟨index, token, isToken, -, -, -, made⟩ := mem_placeTerms_iff.1 inside
  exact lineFeed_not_mem_termOf? (lineFeed_not_mem_token (List.mem_of_getElem? isToken)) made

end Analysis

/-- The postings of analysed values have texts without line feeds. -/
theorem lineFeed_not_mem_wordPostings {field : String} {base : Nat} {values : List FieldValue}
    {posting : Posting} (inside : posting ∈ wordPostings field base values) {term : String}
    (isTerm : posting.value = .text term) : '\n' ∉ term.toList := by
  induction values generalizing base with
  | nil => cases inside
  | cons value values ih =>
      cases value with
      | text value =>
          rcases List.mem_append.1 inside with here | later
          · obtain ⟨placed, isPlaced, rfl⟩ := List.mem_map.1 here
            cases isTerm
            exact Analysis.lineFeed_not_mem_term isPlaced
          · exact ih later
      | unsigned value => exact ih inside
      | signed value => exact ih inside

end EntitySearch
