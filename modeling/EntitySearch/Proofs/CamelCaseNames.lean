import EntitySearch.Text.IndexName
import Mathlib.Data.List.Basic

/-!
# Camel-case names

The words of a camel-case name are capitalized words and acronyms, no two acronyms side
by side.  Inside a word no character opens another one, and every word opens behind the
one before it, so the index name of a camel-case name is the list of its words, in small
letters and joined by underscores.  A name of that form is its own index name.
-/

namespace EntitySearch.Text

/-! ### Words -/

/-- A capital letter, a small letter, and small letters or digits behind them. -/
def isCapitalized : List Char → Bool
  | capital :: small :: rest =>
      capital.isUpper && small.isLower &&
        rest.all fun character => character.isLower || character.isDigit
  | _ => false

/-- Capital letters alone. -/
def isAcronym (word : List Char) : Bool :=
  !word.isEmpty && word.all Char.isUpper

def IsWord (word : List Char) : Prop :=
  isCapitalized word = true ∨ isAcronym word = true

instance : DecidablePred IsWord :=
  fun word => inferInstanceAs (Decidable (isCapitalized word = true ∨ isAcronym word = true))

/-- Words that a camel-case name keeps apart: of two acronyms side by side it would not show where
the first one ends. -/
structure IsCamelCase (words : List (List Char)) : Prop where
  worded : ∀ word ∈ words, IsWord word
  apart : words.IsChain fun word next => ¬ (isAcronym word = true ∧ isAcronym next = true)

/-- The words in small letters, joined by underscores. -/
def snakeCase (words : List (List Char)) : List Char :=
  ['_'].intercalate (words.map fun word => word.map Char.toLower)

variable {word piece behind name : List Char} {words : List (List Char)}
  {before first character : Char}

theorem isCapitalized_iff : isCapitalized word = true ↔ ∃ capital small rest,
    word = capital :: small :: rest ∧ capital.isUpper = true ∧ small.isLower = true ∧
      ∀ character ∈ rest, character.isLower = true ∨ character.isDigit = true := by
  match word with
  | [] => simp [isCapitalized]
  | [_] => simp [isCapitalized]
  | capital :: small :: rest => simp [isCapitalized, and_assoc]

theorem isAcronym_iff :
    isAcronym word = true ↔ word ≠ [] ∧ ∀ character ∈ word, character.isUpper = true := by
  rw [isAcronym, Bool.and_eq_true, List.all_eq_true, Bool.not_eq_true',
    List.isEmpty_eq_false_iff]

/-! ### Letters and digits -/

/-- A property of the letters and digits among the first 128 code points is one of all letters and
digits of names. -/
theorem of_isAlphanum (p : Char → Prop) (named : character.isAlphanum = true)
    (checked : ∀ point < 128, (Char.ofNat point).isAlphanum = true → p (Char.ofNat point)) :
    p character := by
  have bounded : character.toNat < 128 := by
    have ranges := named
    change (decide (character.val ≥ 'A'.val ∧ character.val ≤ 'Z'.val) ||
      (decide (character.val ≥ 'a'.val) && decide (character.val ≤ 'z'.val)) ||
        (decide (character.val ≥ '0'.val) && decide (character.val ≤ '9'.val))) = true at ranges
    simp only [Bool.or_eq_true, Bool.and_eq_true, decide_eq_true_eq, ge_iff_le,
      UInt32.le_iff_toNat_le] at ranges
    change ((65 ≤ character.toNat ∧ character.toNat ≤ 90) ∨
      (97 ≤ character.toNat ∧ character.toNat ≤ 122)) ∨
        (48 ≤ character.toNat ∧ character.toNat ≤ 57) at ranges
    omega
  rw [← Char.ofNat_toNat character] at named ⊢
  exact checked character.toNat bounded named

theorem isAlphanum_of_isUpper (isCapital : character.isUpper = true) :
    character.isAlphanum = true := by
  change (character.isUpper || character.isLower || character.isDigit) = true
  rw [isCapital, Bool.true_or, Bool.true_or]

theorem isAlphanum_of_small (small : character.isLower = true ∨ character.isDigit = true) :
    character.isAlphanum = true := by
  change (character.isUpper || character.isLower || character.isDigit) = true
  rcases small with isSmall | isDigit
  · rw [isSmall, Bool.or_true, Bool.true_or]
  · rw [isDigit, Bool.or_true]

theorem case_of_isUpper (isCapital : character.isUpper = true) :
    isUppercase character = true ∧ isLowercase character = false ∧
      character.isDigit = false := by
  have checked := of_isAlphanum (fun character => character.isUpper = true →
    isUppercase character = true ∧ isLowercase character = false ∧ character.isDigit = false)
    (isAlphanum_of_isUpper isCapital) (by decide)
  exact checked isCapital

theorem isUppercase_of_small (small : character.isLower = true ∨ character.isDigit = true) :
    isUppercase character = false := by
  have checked := of_isAlphanum (fun character =>
    character.isLower = true ∨ character.isDigit = true → isUppercase character = false)
    (isAlphanum_of_small small) (by decide)
  exact checked small

theorem isLowercase_of_isLower (small : character.isLower = true) :
    isLowercase character = true := by
  have checked := of_isAlphanum (fun character =>
    character.isLower = true → isLowercase character = true)
    (isAlphanum_of_small (.inl small)) (by decide)
  exact checked small

/-- Characters that index names keep as they are. -/
def isKept (character : Char) : Bool :=
  !isUppercase character && lowercaseCharacter character == [character] && character != ':'

theorem lowercaseCharacter_of_isAlphanum (named : character.isAlphanum = true) :
    lowercaseCharacter character = [character.toLower] ∧ isKept character.toLower = true :=
  of_isAlphanum (fun character =>
    lowercaseCharacter character = [character.toLower] ∧ isKept character.toLower = true)
    named (by decide)

theorem lowercaseEach_of_isAlphanum
    (named : ∀ character ∈ word, character.isAlphanum = true) :
    lowercaseEach word = word.map Char.toLower := by
  induction word with
  | nil => rfl
  | cons first word ih =>
      obtain ⟨here, others⟩ := List.forall_mem_cons.1 named
      rw [lowercaseEach, List.flatMap_cons, (lowercaseCharacter_of_isAlphanum here).1,
        ← lowercaseEach, ih others]
      rfl

theorem isAlphanum_of_mem (worded : IsWord word) :
    ∀ character ∈ word, character.isAlphanum = true := by
  rcases worded with capitalized | acronym
  · obtain ⟨capital, small, rest, rfl, isCapital, isSmall, others⟩ :=
      isCapitalized_iff.1 capitalized
    refine List.forall_mem_cons.2 ⟨isAlphanum_of_isUpper isCapital, List.forall_mem_cons.2
      ⟨isAlphanum_of_small (.inl isSmall), fun character inside => ?_⟩⟩
    exact isAlphanum_of_small (others character inside)
  · intro character inside
    exact isAlphanum_of_isUpper ((isAcronym_iff.1 acronym).2 character inside)

theorem exists_capital (worded : IsWord word) :
    ∃ capital others, word = capital :: others ∧ capital.isUpper = true := by
  rcases worded with capitalized | acronym
  · obtain ⟨capital, small, rest, rfl, isCapital, -⟩ := isCapitalized_iff.1 capitalized
    exact ⟨capital, small :: rest, rfl, isCapital⟩
  · obtain ⟨filled, capitals⟩ := isAcronym_iff.1 acronym
    obtain ⟨capital, others, rfl⟩ := List.exists_cons_of_ne_nil filled
    exact ⟨capital, others, rfl, capitals capital List.mem_cons_self⟩

/-! ### Inside a word -/

theorem opensWord_some (before character : Char) (rest : List Char) :
    opensWord (some before) character rest =
      (isUppercase character && (isLowercase before || before.isDigit ||
        (isUppercase before && rest.head?.any isLowercase))) :=
  rfl

theorem opensWord_of_small (small : isUppercase character = false) (previous : Option Char)
    (rest : List Char) : opensWord previous character rest = false := by
  unfold opensWord
  rw [small, Bool.false_and]

theorem separateWords_append (joined : ∀ earlier character later,
      piece = earlier ++ character :: later →
        opensWord (before :: earlier).getLast? character (later ++ behind) = false) :
    separateWords (some before) (piece ++ behind) =
      lowercaseEach piece ++ separateWords (before :: piece).getLast? behind := by
  induction piece generalizing before with
  | nil => rfl
  | cons first piece ih =>
      have here : opensWord (some before) first (piece ++ behind) = false :=
        joined [] first piece rfl
      have others : separateWords (some first) (piece ++ behind) =
          lowercaseEach piece ++ separateWords (first :: piece).getLast? behind := by
        refine ih fun earlier character later parts => ?_
        rw [← List.getLast?_cons_cons (a := before)]
        exact joined (first :: earlier) character later (parts ▸ rfl)
      rw [List.cons_append, separateWords, here, if_neg Bool.false_ne_true, others,
        List.getLast?_cons_cons, ← List.append_assoc]
      rfl

theorem isUpper_of_mem_head? {later : List Char}
    (capitals : ∀ character ∈ later, character.isUpper = true)
    (closes : ∀ next ∈ behind.head?, next.isUpper = true) :
    ∀ next ∈ (later ++ behind).head?, next.isUpper = true := by
  cases later with
  | nil => exact closes
  | cons next later =>
      intro other isNext
      cases isNext
      exact capitals next List.mem_cons_self

/-- No character opens a word inside of another, whatever capital letter follows. -/
theorem opensWord_inside {others : List Char}
    (worded : IsWord (first :: others))
    (closes : ∀ next ∈ behind.head?, next.isUpper = true) {earlier later : List Char}
    (parts : others = earlier ++ character :: later) :
    opensWord (first :: earlier).getLast? character (later ++ behind) = false := by
  have inside : character ∈ others := parts ▸ List.mem_append_right _ List.mem_cons_self
  rcases worded with capitalized | acronym
  · obtain ⟨capital, small, rest, same, -, isSmall, smallRest⟩ :=
      isCapitalized_iff.1 capitalized
    cases same
    have notCapital : isUppercase character = false := by
      rcases List.mem_cons.1 inside with rfl | behindSmall
      · exact isUppercase_of_small (.inl isSmall)
      · exact isUppercase_of_small (smallRest character behindSmall)
    exact opensWord_of_small notCapital _ _
  · -- A capital letter stands before the character, and no small one behind it.
    have capitals := (isAcronym_iff.1 acronym).2
    have isLast := List.getLast?_eq_some_getLast (List.cons_ne_nil first earlier)
    have lastInside : (first :: earlier).getLast (List.cons_ne_nil _ _) ∈ first :: others := by
      rw [parts, ← List.cons_append]
      exact List.mem_append_left _ (List.getLast_mem _)
    obtain ⟨-, notSmall, noDigit⟩ := case_of_isUpper (capitals _ lastInside)
    have laterCapitals : ∀ next ∈ later, next.isUpper = true := fun next isLater =>
      capitals next (List.mem_cons_of_mem _ (parts ▸ by simp [isLater]))
    have noSmall : (later ++ behind).head?.any isLowercase = false := by
      rw [Option.any_eq_false]
      intro next isNext
      exact (case_of_isUpper (isUpper_of_mem_head? laterCapitals closes next isNext)).2.1
    rw [isLast, opensWord_some, notSmall, noDigit, noSmall, Bool.and_false, Bool.or_false,
      Bool.or_false, Bool.and_false]

/-- A word is written in one, with an underscore before it if its first letter opens a word. -/
theorem separateWords_word {others : List Char} (previous : Option Char)
    (worded : IsWord (first :: others))
    (closes : ∀ next ∈ behind.head?, next.isUpper = true) :
    separateWords previous (first :: others ++ behind) =
      (if opensWord previous first (others ++ behind) then ['_'] else []) ++
        lowercaseEach (first :: others) ++ separateWords (first :: others).getLast? behind := by
  have inside : separateWords (some first) (others ++ behind) =
      lowercaseEach others ++ separateWords (first :: others).getLast? behind :=
    separateWords_append fun _ _ _ parts => opensWord_inside worded closes parts
  rw [List.cons_append, separateWords, inside, lowercaseEach, lowercaseEach, List.flatMap_cons]
  simp only [List.append_assoc]

/-! ### From word to word -/

/-- The first letter of a word opens it behind another word, unless both are acronyms. -/
theorem opensWord_behind {others : List Char}
    (earlierWorded : IsWord word)
    (worded : IsWord (first :: others))
    (apart : ¬ (isAcronym word = true ∧ isAcronym (first :: others) = true)) :
    opensWord word.getLast? first (others ++ behind) = true := by
  obtain ⟨capital, rest, same, isCapital⟩ := exists_capital worded
  cases same
  have isFirst := (case_of_isUpper isCapital).1
  rcases earlierWorded with capitalized | acronym
  · -- A capitalized word ends in a small letter or a digit.
    obtain ⟨begin, small, rest, rfl, -, isSmall, smallRest⟩ := isCapitalized_iff.1 capitalized
    have isLast := List.getLast?_eq_some_getLast (List.cons_ne_nil small rest)
    have lastSmall : ((small :: rest).getLast (List.cons_ne_nil _ _)).isLower = true ∨
        ((small :: rest).getLast (List.cons_ne_nil _ _)).isDigit = true := by
      rcases List.mem_cons.1 (List.getLast_mem (List.cons_ne_nil small rest)) with same | inside
      · rw [same]
        exact .inl isSmall
      · exact smallRest _ inside
    rw [List.getLast?_cons_cons, isLast, opensWord_some, isFirst, Bool.true_and]
    rcases lastSmall with isSmall | isDigit
    · rw [isLowercase_of_isLower isSmall, Bool.true_or, Bool.true_or]
    · rw [isDigit, Bool.or_true, Bool.true_or]
  · -- What follows an acronym is capitalized, so a small letter stands behind its first one.
    obtain ⟨filled, capitals⟩ := isAcronym_iff.1 acronym
    have isLast := List.getLast?_eq_some_getLast filled
    have lastCapital := (case_of_isUpper (capitals _ (List.getLast_mem filled))).1
    have capitalized := Or.resolve_right worded fun both => apart ⟨acronym, both⟩
    obtain ⟨_, small, rest, same, -, isSmall, -⟩ := isCapitalized_iff.1 capitalized
    cases same
    have small? : (small :: rest ++ behind).head?.any isLowercase = true :=
      isLowercase_of_isLower isSmall
    rw [isLast, opensWord_some, isFirst, lastCapital, small?, Bool.true_and, Bool.true_and,
      Bool.or_true]

theorem isUpper_of_mem_head?_flatten
    (worded : ∀ word ∈ words, IsWord word) :
    ∀ next ∈ words.flatten.head?, next.isUpper = true := by
  cases words with
  | nil => exact fun next isNext => by cases isNext
  | cons word words =>
      obtain ⟨capital, others, rfl, isCapital⟩ := exists_capital (worded word List.mem_cons_self)
      intro next isNext
      cases isNext
      exact isCapital

/-- Behind a word, each of the others follows with an underscore. -/
theorem separateWords_flatten_behind (camelCase : IsCamelCase (word :: words)) :
    separateWords word.getLast? words.flatten =
      words.flatMap fun next => '_' :: lowercaseEach next := by
  induction words generalizing word with
  | nil => rfl
  | cons next words ih =>
      obtain ⟨worded, apart⟩ := camelCase
      obtain ⟨earlierWorded, laterWorded⟩ := List.forall_mem_cons.1 worded
      obtain ⟨nextWorded, others⟩ := List.forall_mem_cons.1 laterWorded
      obtain ⟨notBoth, othersApart⟩ := List.isChain_cons_cons.1 apart
      obtain ⟨capital, rest, rfl, -⟩ := exists_capital nextWorded
      rw [List.flatten_cons, separateWords_word _ nextWorded (isUpper_of_mem_head?_flatten others),
        opensWord_behind earlierWorded nextWorded notBoth, if_pos rfl,
        ih ⟨laterWorded, othersApart⟩, List.flatMap_cons]
      rfl

theorem intercalate_cons (separator first : List Char) (others : List (List Char)) :
    separator.intercalate (first :: others) =
      first ++ others.flatMap fun next => separator ++ next := by
  induction others generalizing first with
  | nil => rw [List.intercalate_singleton, List.flatMap_nil, List.append_nil]
  | cons next others ih =>
      rw [List.intercalate_cons_cons, ih, List.flatMap_cons]
      simp only [List.append_assoc]

theorem separateWords_flatten (camelCase : IsCamelCase words) :
    separateWords none words.flatten = snakeCase words := by
  have written : words.map lowercaseEach = words.map fun word => word.map Char.toLower :=
    List.map_congr_left fun word inside =>
      lowercaseEach_of_isAlphanum (isAlphanum_of_mem (camelCase.worded word inside))
  rw [snakeCase, ← written]
  cases words with
  | nil => rfl
  | cons word words =>
      obtain ⟨firstWorded, others⟩ := List.forall_mem_cons.1 camelCase.worded
      obtain ⟨capital, rest, rfl, -⟩ := exists_capital firstWorded
      have unopened : opensWord none capital (rest ++ words.flatten) = false := Bool.and_false _
      rw [List.flatten_cons, separateWords_word _ firstWorded (isUpper_of_mem_head?_flatten others),
        unopened, if_neg Bool.false_ne_true, separateWords_flatten_behind camelCase,
        List.map_cons, intercalate_cons, List.flatMap_map]
      rfl

/-! ### Paths -/

theorem afterLastDoubleColon_cons_of_some {rest part : List Char}
    (found : afterLastDoubleColon rest = some part) (character : Char) :
    afterLastDoubleColon (character :: rest) = some part := by
  unfold afterLastDoubleColon
  rw [found]

theorem afterLastDoubleColon_eq_none (noColon : ':' ∉ name) :
    afterLastDoubleColon name = none := by
  induction name with
  | nil => rfl
  | cons first name ih =>
      have notColon : first ≠ ':' := fun same => noColon (same ▸ List.mem_cons_self)
      have others := ih fun inside => noColon (List.mem_cons_of_mem _ inside)
      unfold afterLastDoubleColon
      rw [others]
      exact if_neg notColon

theorem lastPathPart_of_not_mem (noColon : ':' ∉ name) : lastPathPart name = name := by
  rw [lastPathPart, afterLastDoubleColon_eq_none noColon, Option.getD_none]

theorem lastPathPart_append (parent : List Char) (noColon : ':' ∉ name) :
    lastPathPart (parent ++ ':' :: ':' :: name) = name := by
  have behind : afterLastDoubleColon (':' :: name) = none := by
    unfold afterLastDoubleColon
    rw [afterLastDoubleColon_eq_none noColon]
    dsimp only
    rw [if_pos rfl]
    split
    case h_1 part => exact absurd List.mem_cons_self noColon
    case h_2 => rfl
  have found : afterLastDoubleColon (parent ++ ':' :: ':' :: name) = some name := by
    induction parent with
    | nil =>
        rw [List.nil_append]
        unfold afterLastDoubleColon
        rw [behind]
        exact if_pos rfl
    | cons first parent ih => exact afterLastDoubleColon_cons_of_some ih first
  rw [lastPathPart, found, Option.getD_some]

/-! ### Index names -/

theorem isKept_iff : isKept character = true ↔ isUppercase character = false ∧
    lowercaseCharacter character = [character] ∧ character ≠ ':' := by
  simp [isKept, and_assoc]

theorem separateWords_of_isKept (kept : ∀ character ∈ name, isKept character = true)
    (previous : Option Char) : separateWords previous name = name := by
  induction name generalizing previous with
  | nil => rfl
  | cons first name ih =>
      obtain ⟨firstKept, others⟩ := List.forall_mem_cons.1 kept
      obtain ⟨small, lowered, -⟩ := isKept_iff.1 firstKept
      rw [separateWords, opensWord_of_small small, if_neg Bool.false_ne_true, lowered, ih others]
      rfl

theorem not_mem_of_isKept (kept : ∀ character ∈ name, isKept character = true) :
    ':' ∉ name :=
  fun inside => (isKept_iff.1 (kept ':' inside)).2.2 rfl

theorem isKept_of_mem_snakeCase
    (worded : ∀ word ∈ words, IsWord word) :
    ∀ character ∈ snakeCase words, isKept character = true := by
  have kept : ∀ word ∈ words, ∀ character ∈ word.map Char.toLower, isKept character = true := by
    intro word isWord character inside
    obtain ⟨letter, isLetter, rfl⟩ := List.mem_map.1 inside
    have named := isAlphanum_of_mem (worded word isWord) letter isLetter
    exact (lowercaseCharacter_of_isAlphanum named).2
  intro character inside
  cases words with
  | nil => exact absurd inside List.not_mem_nil
  | cons word words =>
      obtain ⟨firstKept, othersKept⟩ := List.forall_mem_cons.1 kept
      rw [snakeCase, List.map_cons, intercalate_cons, List.mem_append, List.mem_flatMap] at inside
      rcases inside with first | ⟨lowered, isLowered, joined⟩
      · exact firstKept character first
      · obtain ⟨next, isNext, rfl⟩ := List.mem_map.1 isLowered
        rcases List.mem_cons.1 joined with rfl | inNext
        · decide
        · exact othersKept next isNext character inNext

theorem colon_not_mem_flatten
    (worded : ∀ word ∈ words, IsWord word) :
    ':' ∉ words.flatten := by
  intro inside
  obtain ⟨word, isWord, colon⟩ := List.mem_flatten.1 inside
  exact absurd (isAlphanum_of_mem (worded word isWord) ':' colon) (by decide)

theorem toList_intercalate_toLower (words : List String) :
    ("_".intercalate (words.map String.toLower)).toList = snakeCase (words.map String.toList) := by
  rw [String.toList_intercalate, snakeCase, List.map_map, List.map_map]
  have lowered (word : String) : word.toLower.toList = word.toList.map Char.toLower :=
    String.toList_map
  simp only [Function.comp_def, lowered]
  rfl

/-- The index name of a type with a camel-case name, on whatever path, is the list of its words in
small letters, joined by underscores; and that name is its own index name. -/
theorem indexNameFor_camelCase {path : String} {words : List String}
    (isPath : path = "" ∨ ∃ parent, path = parent ++ "::")
    (camelCase : IsCamelCase (words.map String.toList)) :
    indexNameFor (path ++ String.join words) = "_".intercalate (words.map String.toLower) ∧
      indexNameFor ("_".intercalate (words.map String.toLower)) =
        "_".intercalate (words.map String.toLower) := by
  have joined : (String.join words).toList = (words.map String.toList).flatten := by
    rw [String.toList_join, List.flatMap_def]
  have noColon := colon_not_mem_flatten camelCase.worded
  have part : lastPathPart (path ++ String.join words).toList =
      (words.map String.toList).flatten := by
    rw [String.toList_append, joined]
    rcases isPath with rfl | ⟨parent, rfl⟩
    · exact lastPathPart_of_not_mem noColon
    · rw [String.toList_append, List.append_assoc]
      exact lastPathPart_append parent.toList noColon
  have kept := isKept_of_mem_snakeCase camelCase.worded
  constructor
  · rw [indexNameFor, part, separateWords_flatten camelCase, ← toList_intercalate_toLower,
      String.ofList_toList]
  · rw [indexNameFor, toList_intercalate_toLower, lastPathPart_of_not_mem (not_mem_of_isKept kept),
      separateWords_of_isKept kept, ← toList_intercalate_toLower, String.ofList_toList]

theorem indexNameFor_httpRequest :
    (("models::" = "" ∨ ∃ parent, "models::" = parent ++ "::") ∧
      IsCamelCase (["Open", "HTTP", "Request2", "A", "Log"].map String.toList)) ∧
      indexNameFor ("models::" ++ String.join ["Open", "HTTP", "Request2", "A", "Log"]) =
        "open_http_request2_a_log" ∧
      indexNameFor "open_http_request2_a_log" = "open_http_request2_a_log" := by
  have isPath : "models::" = "" ∨ ∃ parent, "models::" = parent ++ "::" :=
    .inr ⟨"models", by decide⟩
  have camelCase : IsCamelCase (["Open", "HTTP", "Request2", "A", "Log"].map String.toList) :=
    ⟨by decide +kernel, by decide +kernel⟩
  have joined : "_".intercalate (["Open", "HTTP", "Request2", "A", "Log"].map String.toLower) =
      "open_http_request2_a_log" := by
    decide +kernel
  have named := indexNameFor_camelCase isPath camelCase
  rw [joined] at named
  exact ⟨⟨isPath, camelCase⟩, named⟩

end EntitySearch.Text
