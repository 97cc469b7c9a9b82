import EntitySearch.Proofs.WildcardSearches

/-!
# Folded wildcards

The analysis folds every character of a text on its own, a wildcard is folded as a
whole text.  The two foldings agree exactly where no capital sigma ends a word: there
wildcards that differ in letter case alone find the same entities.  A capital sigma at
the end of a word becomes the final sigma in the wildcard, and so the wildcard misses
the term that the same capital letters leave in the index.
-/

namespace EntitySearch

/-! ### The two foldings -/

namespace Text

/-- A capital sigma ends a word of the text, whose preceding characters, last one first, are
`before`. -/
def endsWordInSigma (before : List Char) : List Char → Bool
  | [] => false
  | character :: rest =>
      (character == capitalSigma && reachesCased before && !reachesCased rest) ||
        endsWordInSigma (character :: before) rest

theorem lowercaseCharacter_capitalSigma : lowercaseCharacter capitalSigma = [smallSigma] := by
  decide +kernel

theorem finalSigma_ne_smallSigma : finalSigma ≠ smallSigma := by
  decide

theorem lowercaseAfter_eq_iff {before text : List Char} :
    lowercaseAfter before text = lowercaseEach text ↔ endsWordInSigma before text = false := by
  induction text generalizing before with
  | nil => exact iff_of_true rfl rfl
  | cons character rest ih =>
      rw [lowercaseAfter, lowercaseEach, List.flatMap_cons, ← lowercaseEach, endsWordInSigma,
        Bool.or_eq_false_iff, ← ih]
      by_cases sigma : character = capitalSigma
      · subst sigma
        rw [if_pos rfl, lowercaseCharacter_capitalSigma, beq_self_eq_true, Bool.true_and]
        -- either sigma is one character, so the heads and the tails are compared apart
        cases wordEnds : reachesCased before && !reachesCased rest with
        | true => simp [finalSigma_ne_smallSigma]
        | false => simp
      · simp [sigma]

/-- The two foldings of a text agree exactly if no capital sigma ends a word of it. -/
theorem lowercaseInContext_eq_iff {text : List Char} :
    lowercaseInContext text = lowercaseEach text ↔ endsWordInSigma [] text = false :=
  lowercaseAfter_eq_iff

end Text

/-! ### Wildcards of the same letters -/

section Foldings

open Translator Query IndexContent IndexLife

variable {configuration : IndexConfiguration} {translator : Translator} {spec : FieldSpec}
  {first second : String}

theorem translate_wildcardQuery {defaultNames : List String}
    (made : Translator.ofLayout configuration.layout defaultNames = .ok translator)
    (declared : spec ∈ configuration.fields) {kept : Bool} (analysed : spec.kind = .text kept)
    {wildcard : String} (isWildcard : IsWildcard wildcard.toList)
    (readable : (read? (wildcardQuery spec.name wildcard).toList).isSome = true) :
    translator.translate (wildcardQuery spec.name wildcard) =
      ((patternPlan ⟨spec.name, spec.kind.queryClass⟩
        (Text.lowercaseInContext wildcard.toList)).map some).map wholePlan := by
  have read := read?_wildcardQuery (configuration.isFieldName_declared declared)
    (ne_negation_of_readable readable) isWildcard
  rw [translate_oneClause read, bodyPlan_wildcard (ofLayout_cases made).1 declared,
    wildcardPlan_text analysed]

/-- In a field of analysed text, two wildcards whose characters have the same lowercase forms ask
for the same, provided that no capital sigma ends a word in either. -/
theorem translate_eq_of_lowercaseEach_eq {defaultNames : List String}
    (made : Translator.ofLayout configuration.layout defaultNames = .ok translator)
    (declared : spec ∈ configuration.fields) {kept : Bool} (analysed : spec.kind = .text kept)
    (firstWildcard : IsWildcard first.toList) (secondWildcard : IsWildcard second.toList)
    (firstReadable : (read? (wildcardQuery spec.name first).toList).isSome = true)
    (secondReadable : (read? (wildcardQuery spec.name second).toList).isSome = true)
    (firstEnds : Text.endsWordInSigma [] first.toList = false)
    (secondEnds : Text.endsWordInSigma [] second.toList = false)
    (sameLetters : Text.lowercaseEach first.toList = Text.lowercaseEach second.toList) :
    translator.translate (wildcardQuery spec.name first) =
      translator.translate (wildcardQuery spec.name second) := by
  have sameFolding : Text.lowercaseInContext first.toList =
      Text.lowercaseInContext second.toList :=
    calc Text.lowercaseInContext first.toList
        = Text.lowercaseEach first.toList := Text.lowercaseInContext_eq_iff.2 firstEnds
      _ = Text.lowercaseEach second.toList := sameLetters
      _ = Text.lowercaseInContext second.toList :=
        (Text.lowercaseInContext_eq_iff.2 secondEnds).symm
  rw [translate_wildcardQuery made declared analysed firstWildcard firstReadable,
    translate_wildcardQuery made declared analysed secondWildcard secondReadable, sameFolding]

/-- Two ways of writing a wildcard whose capital sigma does not end a word. -/
theorem sigmas_ask_the_same :
    ∃ translator, Translator.ofLayout letterConfiguration.layout letterConfiguration.defaultFields =
        .ok translator ∧
      translator.translate (wildcardQuery "title" "ΣΑ*") =
        translator.translate (wildcardQuery "title" "σα*") := by
  obtain ⟨translator, made, -⟩ := letterConfiguration.exists_translator
  have same := @translate_eq_of_lowercaseEach_eq letterConfiguration translator _ "ΣΑ*" "σα*" _
    made title_declared true rfl (by decide +kernel) (by decide +kernel) (by decide +kernel)
    (by decide +kernel) (by decide +kernel) (by decide +kernel) (by decide +kernel)
  exact ⟨translator, made, same⟩

end Foldings

namespace IndexLife

open Query Translator IndexContent

/-- A letter with a Greek title, whose last letter is a sigma. -/
def greekLetter : Entity := ⟨1, 1, [("title", .text "ΟΔΟΣ")]⟩

theorem postings_greekTitle :
    (letterConfiguration.layout.postings
      (letterConfiguration.layout.documentFor greekLetter).document).filter (·.field == "title") =
        [⟨"title", .text "οδοσ", 0⟩] := by
  decide +kernel

/-- The only term of the title has a sigma as it stands inside a word. -/
theorem hasValue_greekTitle (test : FieldValue → Bool) :
    hasValue (letterConfiguration.layout.postings
      (letterConfiguration.layout.documentFor greekLetter).document) "title" test =
        test (.text "οδοσ") := by
  rw [hasValue, ← List.any_filter, postings_greekTitle, List.any_cons, List.any_nil, Bool.or_false]

/-- Two wildcards of the same letters, of which only the small ones find the letter. -/
theorem greekLetter_is_found_by_small_letters :
    ∃ (content : IndexContent) (translator : Translator)
        (bySmall byCapitals : Set (StoredDocument content.layout)),
      ((begin letterOwner .missing).run (letterOperations greekLetter)).index.directory =
          .readable content ∧
        Translator.ofLayout letterConfiguration.layout letterConfiguration.defaultFields =
          .ok translator ∧
        Text.lowercaseEach "οδοσ*".toList = Text.lowercaseEach "ΟΔΟΣ*".toList ∧
        content.Finds translator (wildcardQuery "title" "οδοσ*") bySmall ∧
        content.Finds translator (wildcardQuery "title" "ΟΔΟΣ*") byCapitals ∧
        content.Includes bySmall greekLetter ∧ ¬ content.Includes byCapitals greekLetter := by
  obtain ⟨content, translator, readable, sameLayout, made, describes, survives⟩ :=
    exists_letterSearch greekLetter
  have foldedSmall : Text.lowercaseInContext "οδοσ*".toList = "οδοσ*".toList := by decide +kernel
  have foldedCapitals : Text.lowercaseInContext "ΟΔΟΣ*".toList = "οδος*".toList := by
    decide +kernel
  have findsSmall := content.finds_wildcard made title_declared
    (by decide +kernel : IsWildcard "οδοσ*".toList) (by decide +kernel)
    (wildcardPlan_text rfl "οδοσ*".toList)
  have findsCapitals := content.finds_wildcard made title_declared
    (by decide +kernel : IsWildcard "ΟΔΟΣ*".toList) (by decide +kernel)
    (wildcardPlan_text rfl "ΟΔΟΣ*".toList)
  rw [foldedSmall] at findsSmall
  rw [foldedCapitals] at findsCapitals
  have small : patternIsAccepted (String.ofList (globPattern "οδοσ*".toList)) = true := by
    rw [patternIsAccepted_eq]
    decide +kernel
  have smallCapitals : patternIsAccepted (String.ofList (globPattern "οδος*".toList)) = true := by
    rw [patternIsAccepted_eq]
    decide +kernel
  refine ⟨content, translator, _, _, readable, made, by decide +kernel, findsSmall.1 small,
    findsCapitals.1 smallCapitals, ?_, ?_⟩
  · rw [includes_withGlob_iff describes survives, sameLayout]
    refine ⟨"οδοσ", ?_, (matchAll_globPattern_iff _ _).1 (by decide +kernel)⟩
    rw [hasValue_greekTitle, beq_self_eq_true]
  · rw [includes_withGlob_iff describes survives, sameLayout]
    rintro ⟨term, isTerm, matched⟩
    rw [hasValue_greekTitle] at isTerm
    cases beq_iff_eq.1 isTerm
    exact absurd ((matchAll_globPattern_iff _ _).2 matched) (by decide +kernel)

end IndexLife

end EntitySearch
