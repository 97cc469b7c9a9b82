import EntitySearch.Proofs.AlikePlans
import EntitySearch.Proofs.GlobLanguage
import EntitySearch.Proofs.QuotedSearches
import EntitySearch.Proofs.TermCharacters

/-!
# Wildcard searches

A wildcard under the name of a field is a glob.  In a field of analysed text it
finds the entities with a term that the lowercase form of the glob matches; since no
term has a line feed, the signs of the glob may stand for any character.  In a field
of texts taken whole it finds the entities with a value that the glob matches as it
is written, but there a line feed is a character that no sign stands for: even the
single asterisk leaves out a text of two lines.
-/

namespace EntitySearch

/-! ### Small patterns -/

namespace PatternAutomaton

/-- The exploration with the known states in a list. -/
def exploreListed (items : List PatternItem) (samples : List Nat) :
    Nat → List (List Place) → List (List Place) → Bool
  | _, _, [] => true
  | 0, _, _ :: _ => false
  | allowance + 1, known, state :: unexplored =>
      let next := ((samples.map (stepState items state)).filter (!·.isEmpty)).eraseDups
      let fresh := next.filter (!known.contains ·)
      exploreListed items samples allowance (known ++ fresh) (fresh ++ unexplored)

theorem exploreWithin_eq (items : List PatternItem) (samples : List Nat) (allowance : Nat)
    {known : Std.HashSet (List Place)} {listed : List (List Place)}
    (same : ∀ state, known.contains state = listed.contains state)
    (unexplored : List (List Place)) :
    exploreWithin items samples allowance known unexplored =
      exploreListed items samples allowance listed unexplored := by
  induction allowance generalizing known listed unexplored with
  | zero => cases unexplored <;> rfl
  | succ allowance ih =>
      cases unexplored with
      | nil => rfl
      | cons state unexplored =>
          simp only [exploreWithin, exploreListed, same]
          refine ih (fun other => ?_) _
          rw [Std.HashSet.contains_insertMany_list, same, List.contains_append]

end PatternAutomaton

/-- Whether a pattern is accepted does not depend on how the known states of its automaton are
kept. -/
theorem patternIsAccepted_eq (pattern : String) :
    patternIsAccepted pattern =
      let items := PatternItem.ofText pattern.toList
      PatternAutomaton.exploreListed items (PatternAutomaton.sampleBytes items)
        PatternAutomaton.stateLimit [PatternAutomaton.placesBefore items 0]
        [PatternAutomaton.placesBefore items 0] := by
  refine PatternAutomaton.exploreWithin_eq _ _ _ (fun state => ?_) _
  rw [Std.HashSet.contains_insert, Std.HashSet.contains_emptyWithCapacity, List.contains_cons,
    List.contains_nil, BEq.comm]

/-! ### Reading wildcards -/

namespace Query

/-- The text is a wildcard from end to end. -/
def IsWildcard (text : List Char) : Prop :=
  readWildcard? text = some (⟨.wildcard, text⟩, [])

instance (text : List Char) : Decidable (IsWildcard text) :=
  inferInstanceAs (Decidable (_ = _))

def wildcardQuery (name wildcard : String) : String :=
  name ++ ":" ++ wildcard

theorem readLeaf?_of_isWildcard {text : List Char} (isWildcard : IsWildcard text) :
    readLeaf? text = some (⟨.wildcard, text⟩, []) := by
  cases text with
  | nil => cases isWildcard
  | cons character source =>
      have notQuote : character ≠ '"' := by
        rintro rfl
        cases isWildcard
      rw [readLeaf?_of_ne_quote notQuote, isWildcard, Option.some_or]

variable {name wildcard : String}

theorem ne_negation_of_readable (readable : (read? (wildcardQuery name wildcard).toList).isSome) :
    name ≠ "NOT" := by
  rintro rfl
  have characters : (wildcardQuery "NOT" wildcard).toList =
      ['N', 'O', 'T'] ++ ':' :: wildcard.toList := by
    simp [wildcardQuery]
  rw [characters, read?_negation_colon] at readable
  cases readable

theorem read?_wildcardQuery (named : isFieldName name = true) (notNegation : name ≠ "NOT")
    (isWildcard : IsWildcard wildcard.toList) :
    read? (wildcardQuery name wildcard).toList =
      some (oneClause none (.fieldLeaf name.toList ⟨.wildcard, wildcard.toList⟩)) := by
  have characters : (wildcardQuery name wildcard).toList =
      name.toList ++ ':' :: wildcard.toList := by
    simp [wildcardQuery]
  rw [characters]
  exact read?_fieldClause named notNegation (.leaf (readLeaf?_of_isWildcard isWildcard))

end Query

/-! ### What patterns match -/

theorem isMatch_pattern_iff {layout : Layout} (stored : StoredDocument layout) (field : String)
    (glob : List Char) :
    (QueryPlan.pattern field (String.ofList (globPattern glob))).isMatch stored.postings = true ↔
      ∃ term, stored.content.hasTerm field (.text term) = true ∧
        GlobMatches (PatternItem.admits · = true) glob term.toList := by
  have items (term : String) :
      FieldValue.hasPattern (PatternItem.ofText (String.ofList (globPattern glob)).toList)
          (.text term) = true ↔ GlobMatches (PatternItem.admits · = true) glob term.toList := by
    rw [String.toList_ofList]
    exact matchAll_globPattern_iff glob term.toList
  simp only [QueryPlan.isMatch, hasValue, IndexedDocument.hasTerm, List.any_eq_true,
    Bool.and_eq_true, beq_iff_eq]
  constructor
  · rintro ⟨⟨other, value, position⟩, inside, rfl, matched⟩
    cases value with
    | text term => exact ⟨term, ⟨_, inside, rfl, rfl⟩, (items term).1 matched⟩
    | unsigned number => cases matched
    | signed number => cases matched
  · rintro ⟨term, ⟨posting, inside, rfl, isTerm⟩, matched⟩
    exact ⟨posting, inside, rfl, isTerm ▸ (items term).2 matched⟩

theorem globMatches_asterisk_iff {wild : Char → Prop} {text : List Char} :
    GlobMatches wild ['*'] text ↔ ∀ character ∈ text, wild character := by
  constructor
  · intro matched
    cases matched with
    | anyRun admitted rest =>
        cases rest
        rw [List.append_nil]
        exact admitted
    | plain noSign => exact (noSign (by decide)).elim
  · intro admitted
    have matched := GlobMatches.anyRun admitted .nothing
    rw [List.append_nil] at matched
    exact matched

/-! ### What wildcards find -/

namespace IndexContent

open Query QueryPlan Translator

/-- The entity documents that have a text among their terms in a field that the glob matches. -/
def withGlob (content : IndexContent) (field : String) (wild : Char → Prop) (glob : List Char) :
    Set (StoredDocument content.layout) :=
  {stored | stored ∈ content.entities ∧ ∃ term,
    stored.content.hasTerm field (.text term) = true ∧ GlobMatches wild glob term.toList}

variable {content : IndexContent} {configuration : IndexConfiguration} {translator : Translator}
  {spec : FieldSpec} {query wildcard : String} {body : Body} {field : QueryField}
  {glob : List Char}

theorem translate_oneClause (read : read? query.toList = some (oneClause none body)) :
    translator.translate query = (bodyPlan translator none body).map wholePlan := by
  rw [← planOf_oneClause, Translator.translate, read]

/-- Where the body of a query becomes a pattern, the query finds what its glob matches, line feeds
under the signs apart, unless the pattern is too large. -/
theorem finds_pattern (read : read? query.toList = some (oneClause none body))
    (planned : bodyPlan translator none body = (patternPlan field glob).map some) :
    (patternIsAccepted (String.ofList (globPattern glob)) = true →
        content.Finds translator query
          (content.withGlob field.name (PatternItem.admits · = true) glob)) ∧
      (patternIsAccepted (String.ofList (globPattern glob)) = false →
        translator.translate query = .error (.unusableWildcard (String.ofList glob))) := by
  constructor
  · intro small
    rw [patternPlan, if_pos small] at planned
    have clauses := hasClauses_oneClause read planned
    refine (content.finds_of_hasClauses clauses (List.cons_ne_nil _ _)).congr fun stored => ?_
    rw [Set.mem_ofPred_eq, holds_single, isMatch_pattern_iff]
    exact Iff.rfl
  · intro large
    rw [patternPlan, if_neg (by simp [large])] at planned
    rw [translate_oneClause read, planned]
    rfl

theorem bodyPlan_wildcard (fields : translator.fields = configuration.queryFields)
    (declared : spec ∈ configuration.fields) (wildcard : List Char) :
    bodyPlan translator none (.fieldLeaf spec.name.toList ⟨.wildcard, wildcard⟩) =
      (wildcardPlan ⟨spec.name, spec.kind.queryClass⟩ wildcard).map some := by
  have found := configuration.find?_queryFields declared
  simp only [bodyPlan, String.ofList_toList, fields, found, leafPlan, leafText, if_true]

theorem withGlob_congr {wild other : Char → Prop} (glob : List Char)
    (same : ∀ stored ∈ content.entities, ∀ term,
      stored.content.hasTerm spec.name (.text term) = true →
        ∀ character ∈ term.toList, wild character ↔ other character) :
    content.withGlob spec.name wild glob = content.withGlob spec.name other glob := by
  ext stored
  refine and_congr_right fun entity => exists_congr fun term => and_congr_right fun isTerm => ?_
  have agree := same stored entity term isTerm
  exact ⟨fun matched => matched.of_admitted fun character inside => (agree character inside).1,
    fun matched => matched.of_admitted fun character inside => (agree character inside).2⟩

theorem lineFeed_not_mem_of_hasTerm {layout : Layout} (accepted : layout = configuration.layout)
    (declared : spec ∈ configuration.fields) {kept : Bool} (analysed : spec.kind = .text kept)
    {indexed : IndexedDocument layout} {term : String}
    (isTerm : indexed.hasTerm spec.name (.text term) = true) : '\n' ∉ term.toList := by
  subst accepted
  obtain ⟨posting, inside, found⟩ := List.any_eq_true.1 isTerm
  obtain ⟨named, same⟩ := Bool.and_eq_true_iff.1 found
  rw [indexed.indexed, configuration.mem_postings (configuration.layoutField_mem declared) _
    ((beq_iff_eq.1 named).trans spec.name_layoutField.symm), LayoutField.postings,
    FieldSpec.layoutField, analysed] at inside
  exact lineFeed_not_mem_wordPostings inside (beq_iff_eq.1 same)

/-- A wildcard under the name of a declared field of texts is the pattern that its field makes of
it. -/
theorem finds_wildcard (content : IndexContent) {defaultNames : List String}
    (made : Translator.ofLayout configuration.layout defaultNames = .ok translator)
    (declared : spec ∈ configuration.fields) (isWildcard : IsWildcard wildcard.toList)
    (readable : (read? (wildcardQuery spec.name wildcard).toList).isSome = true)
    (planned : wildcardPlan ⟨spec.name, spec.kind.queryClass⟩ wildcard.toList =
      patternPlan ⟨spec.name, spec.kind.queryClass⟩ glob) :
    (patternIsAccepted (String.ofList (globPattern glob)) = true →
        content.Finds translator (wildcardQuery spec.name wildcard)
          (content.withGlob spec.name (PatternItem.admits · = true) glob)) ∧
      (patternIsAccepted (String.ofList (globPattern glob)) = false →
        translator.translate (wildcardQuery spec.name wildcard) =
          .error (.unusableWildcard (String.ofList glob))) := by
  have read := read?_wildcardQuery (configuration.isFieldName_declared declared)
    (ne_negation_of_readable readable) isWildcard
  have body := bodyPlan_wildcard (ofLayout_cases made).1 declared wildcard.toList
  rw [planned] at body
  exact finds_pattern read body

theorem wildcardPlan_text {kept : Bool} (analysed : spec.kind = .text kept) (wildcard : List Char) :
    wildcardPlan ⟨spec.name, spec.kind.queryClass⟩ wildcard =
      patternPlan ⟨spec.name, spec.kind.queryClass⟩ (Text.lowercaseInContext wildcard) := by
  rw [analysed]
  rfl

theorem wildcardPlan_keyword (whole : spec.kind = .keyword) (wildcard : List Char) :
    wildcardPlan ⟨spec.name, spec.kind.queryClass⟩ wildcard =
      patternPlan ⟨spec.name, spec.kind.queryClass⟩ wildcard := by
  rw [whole]
  rfl

end IndexContent

/-! ### Entities that wildcards find -/

namespace IndexLife

theorem exists_letterSearch (letter : Entity) :
    let life := (begin letterOwner .missing).run (letterOperations letter)
    ∃ (content : IndexContent) (translator : Translator),
      life.index.directory = .readable content ∧
        content.layout = letterConfiguration.layout ∧
        Translator.ofLayout letterConfiguration.layout letterConfiguration.defaultFields =
          .ok translator ∧
        life.chronicle.Describes content ∧
        life.chronicle.Survives (content.layout.documentFor letter) := by
  intro life
  obtain ⟨content, readable, sameLayout, survives⟩ := exists_letterContent letter
  obtain ⟨translator, made, -⟩ := letterConfiguration.exists_translator
  have sound : life.Sound := (sound_begin letterOwner rfl).run (letterOperations letter)
  exact ⟨content, translator, readable, sameLayout, made, sound.describes (.inl readable), survives⟩

theorem title_declared : (⟨"title", .text true⟩ : FieldSpec) ∈ letterConfiguration.fields :=
  List.mem_cons_of_mem _ List.mem_cons_self

end IndexLife

section Wildcards

open Translator Query IndexContent IndexLife

variable {chronicle : Chronicle} {content : IndexContent} {configuration : IndexConfiguration}
  {translator : Translator} {spec : FieldSpec} {wildcard : String}

theorem includes_withGlob_iff (describes : chronicle.Describes content) {entity : Entity}
    (survives : chronicle.Survives (content.layout.documentFor entity)) (field : String)
    (wild : Char → Prop) (glob : List Char) :
    content.Includes (content.withGlob field wild glob) entity ↔ ∃ term,
      hasValue (content.layout.postings (content.layout.documentFor entity).document) field
          (· == .text term) = true ∧ GlobMatches wild glob term.toList :=
  describes.includes_iff survives fun postings => ∃ term,
    hasValue postings field (· == .text term) = true ∧ GlobMatches wild glob term.toList

/-- In a field of analysed text, a wildcard finds the entities with a term that its lowercase form
matches as a glob, whatever characters its signs stand for; a wildcard whose automaton is too large
is refused. -/
theorem wildcards_are_globs_over_terms (accepted : content.layout = configuration.layout)
    {defaultNames : List String}
    (made : Translator.ofLayout configuration.layout defaultNames = .ok translator)
    (declared : spec ∈ configuration.fields) {kept : Bool} (analysed : spec.kind = .text kept)
    (isWildcard : IsWildcard wildcard.toList)
    (readable : (read? (wildcardQuery spec.name wildcard).toList).isSome = true) :
    let glob := Text.lowercaseInContext wildcard.toList
    (patternIsAccepted (String.ofList (globPattern glob)) = true →
        content.Finds translator (wildcardQuery spec.name wildcard)
          (content.withGlob spec.name (fun _ => True) glob)) ∧
      (patternIsAccepted (String.ofList (globPattern glob)) = false →
        translator.translate (wildcardQuery spec.name wildcard) =
          .error (.unusableWildcard (String.ofList glob))) := by
  have anyCharacter : content.withGlob spec.name (PatternItem.admits · = true)
      (Text.lowercaseInContext wildcard.toList) =
        content.withGlob spec.name (fun _ => True) (Text.lowercaseInContext wildcard.toList) := by
    refine withGlob_congr _ fun stored _ term isTerm character inside => ?_
    have noLineFeed := lineFeed_not_mem_of_hasTerm accepted declared analysed isTerm
    simp only [PatternItem.admits, bne_iff_ne, iff_true]
    rintro rfl
    exact noLineFeed inside
  have found := content.finds_wildcard made declared isWildcard readable
    (wildcardPlan_text analysed wildcard.toList)
  rw [anyCharacter] at found
  exact found

/-- The letter about an open door is found by a glob over the words of its title. -/
theorem openLetter_matches_glob :
    ∃ (content : IndexContent) (translator : Translator)
        (found : Set (StoredDocument content.layout)),
      content.layout = letterConfiguration.layout ∧
        Translator.ofLayout letterConfiguration.layout letterConfiguration.defaultFields =
          .ok translator ∧
        found = content.withGlob "title" (fun _ => True)
          (Text.lowercaseInContext "\\O?*\\".toList) ∧
        content.Finds translator (wildcardQuery "title" "\\O?*\\") found ∧
        content.Includes found openLetter := by
  obtain ⟨content, translator, -, sameLayout, made, describes, survives⟩ :=
    exists_letterSearch openLetter
  have finds := @wildcards_are_globs_over_terms content letterConfiguration translator _
    "\\O?*\\" sameLayout _ made title_declared true rfl (by decide +kernel) (by decide +kernel)
  have small : patternIsAccepted (String.ofList
      (globPattern (Text.lowercaseInContext "\\O?*\\".toList))) = true := by
    rw [patternIsAccepted_eq]
    decide +kernel
  refine ⟨content, translator, _, sameLayout, made, rfl, finds.1 small, ?_⟩
  rw [includes_withGlob_iff describes survives, sameLayout]
  have titled : FieldValue.text "open door" ∈
      (letterConfiguration.layout.documentFor openLetter).document.valuesOf "title" := by
    decide
  obtain ⟨base, placed⟩ := letterConfiguration.exists_base_postings title_declared rfl _ titled
  refine ⟨"open", List.any_eq_true.2 ⟨_, placed _ openDoor_placed, by simp⟩, ?_⟩
  have lowered : Text.lowercaseInContext "\\O?*\\".toList = ['\\', 'o', '?', '*', '\\'] := by
    decide +kernel
  rw [lowered]
  have behind : GlobMatches (fun _ => True) ['*', '\\'] (['e', 'n'] ++ []) :=
    .anyRun (fun _ _ => trivial) .unpaired
  exact .escaped (.anyOne trivial behind)

/-- In a field of texts taken whole, the terms that a glob is held against are the values that are
short enough for a term. -/
theorem includes_withGlob_keyword (describes : chronicle.Describes content)
    (accepted : content.layout = configuration.layout) (declared : spec ∈ configuration.fields)
    (whole : spec.kind = .keyword) {entity : Entity}
    (survives : chronicle.Survives (content.layout.documentFor entity)) (wild : Char → Prop)
    (glob : List Char) :
    content.Includes (content.withGlob spec.name wild glob) entity ↔
      ∃ value, (spec.name, .text value) ∈ entity.values ∧
        (FieldValue.text value).fitsTerm = true ∧ GlobMatches wild glob value.toList := by
  have textual : spec.kind.isTextual = true := by rw [whole]; rfl
  rw [includes_withGlob_iff describes survives, accepted]
  refine exists_congr fun value => ?_
  rw [configuration.hasValue_keyword declared whole,
    configuration.text_mem_valuesOf declared textual, and_assoc]

/-- In a field of texts taken whole, the signs of a wildcard stand for any characters but line
feeds. -/
theorem finds_keyword_wildcard {defaultNames : List String}
    (made : Translator.ofLayout configuration.layout defaultNames = .ok translator)
    (declared : spec ∈ configuration.fields) (whole : spec.kind = .keyword)
    (isWildcard : IsWildcard wildcard.toList)
    (readable : (read? (wildcardQuery spec.name wildcard).toList).isSome = true)
    (small : patternIsAccepted (String.ofList (globPattern wildcard.toList)) = true) :
    content.Finds translator (wildcardQuery spec.name wildcard)
      (content.withGlob spec.name (· ≠ '\n') wildcard.toList) := by
  have found := (content.finds_wildcard made declared isWildcard readable
    (wildcardPlan_keyword whole wildcard.toList)).1 small
  simpa only [PatternItem.admits, bne_iff_ne] using found

/-- In a field of texts taken whole, a wildcard that is not too large finds the entities with a
value, short enough for a term, that it matches as a glob. -/
theorem exists_finds_keyword_wildcard (describes : chronicle.Describes content)
    (accepted : content.layout = configuration.layout) {defaultNames : List String}
    (made : Translator.ofLayout configuration.layout defaultNames = .ok translator)
    (declared : spec ∈ configuration.fields) (whole : spec.kind = .keyword)
    (isWildcard : IsWildcard wildcard.toList)
    (readable : (read? (wildcardQuery spec.name wildcard).toList).isSome = true)
    (small : patternIsAccepted (String.ofList (globPattern wildcard.toList)) = true) :
    ∃ found, content.Finds translator (wildcardQuery spec.name wildcard) found ∧
      found ⊆ content.entities ∧
      ∀ entity, chronicle.Survives (content.layout.documentFor entity) →
        (content.Includes found entity ↔ ∃ value, (spec.name, .text value) ∈ entity.values ∧
          (FieldValue.text value).fitsTerm = true ∧
            GlobMatches (· ≠ '\n') wildcard.toList value.toList) :=
  ⟨_, finds_keyword_wildcard made declared whole isWildcard readable small,
    fun _ inside => inside.1,
    fun _ survives => includes_withGlob_keyword describes accepted declared whole survives _ _⟩

/-- The letter with an open state is found by a glob over it. -/
theorem openLetter_matches_state_glob :
    ∃ (content : IndexContent) (translator : Translator)
        (found : Set (StoredDocument content.layout)),
      Translator.ofLayout letterConfiguration.layout letterConfiguration.defaultFields =
          .ok translator ∧
        content.Finds translator (wildcardQuery "state" "o*") found ∧
        content.Includes found openLetter := by
  obtain ⟨content, translator, -, sameLayout, made, describes, survives⟩ :=
    exists_letterSearch openLetter
  have small : patternIsAccepted (String.ofList (globPattern "o*".toList)) = true := by
    rw [patternIsAccepted_eq]
    decide +kernel
  obtain ⟨found, finds, -, includes⟩ := @exists_finds_keyword_wildcard _ content
    letterConfiguration translator _ "o*" describes sameLayout _ made state_declared rfl
    (by decide +kernel) (by decide +kernel) small
  refine ⟨content, translator, found, made, finds, ?_⟩
  rw [includes openLetter survives]
  have noLineFeed : ∀ character ∈ ['p', 'e', 'n'], character ≠ '\n' :=
    List.forall_mem_ne'.2 (by decide)
  have behind : GlobMatches (· ≠ '\n') ['*'] (['p', 'e', 'n'] ++ []) :=
    .anyRun noLineFeed .nothing
  exact ⟨"open", List.mem_cons_self, rfl, .plain (by decide) behind⟩

theorem asterisk_is_small : patternIsAccepted (String.ofList (globPattern ['*'])) = true := by
  rw [patternIsAccepted_eq]
  decide +kernel

/-- In a field of texts taken whole, the single asterisk finds the entities with a value of one
line that is short enough for a term. -/
theorem exists_finds_keyword_asterisk (describes : chronicle.Describes content)
    (accepted : content.layout = configuration.layout) {defaultNames : List String}
    (made : Translator.ofLayout configuration.layout defaultNames = .ok translator)
    (declared : spec ∈ configuration.fields) (whole : spec.kind = .keyword)
    (notNegation : spec.name ≠ "NOT") :
    ∃ found, content.Finds translator (wildcardQuery spec.name "*") found ∧
      ∀ entity, chronicle.Survives (content.layout.documentFor entity) →
        (content.Includes found entity ↔ ∃ value, (spec.name, .text value) ∈ entity.values ∧
          (FieldValue.text value).fitsTerm = true ∧ '\n' ∉ value.toList) := by
  have isWildcard : IsWildcard "*".toList := by decide
  have readable : (read? (wildcardQuery spec.name "*").toList).isSome = true := by
    rw [read?_wildcardQuery (configuration.isFieldName_declared declared) notNegation isWildcard]
    rfl
  refine ⟨_, finds_keyword_wildcard made declared whole isWildcard readable asterisk_is_small,
    fun entity survives =>
      (includes_withGlob_keyword describes accepted declared whole survives _ _).trans ?_⟩
  refine exists_congr fun value => and_congr_right fun _ => and_congr_right fun _ => ?_
  have oneLine : (∀ character ∈ value.toList, character ≠ '\n') ↔ '\n' ∉ value.toList :=
    List.forall_mem_ne'
  exact globMatches_asterisk_iff.trans oneLine

end Wildcards

namespace IndexLife

open Query

/-- A letter with a state of two lines. -/
def twoLineLetter : Entity := ⟨1, 1, [("state", .text "a\nb")]⟩

/-- The letter has a state, but the asterisk does not find it. -/
theorem twoLineLetter_is_not_found :
    ∃ (content : IndexContent) (translator : Translator)
        (found : Set (StoredDocument content.layout)),
      ((begin letterOwner .missing).run (letterOperations twoLineLetter)).index.directory =
          .readable content ∧
        ((begin letterOwner .missing).run (letterOperations twoLineLetter)).chronicle.Survives
          (content.layout.documentFor twoLineLetter) ∧
        Translator.ofLayout letterConfiguration.layout letterConfiguration.defaultFields =
          .ok translator ∧
        content.Finds translator (wildcardQuery "state" "*") found ∧
        ("state", .text "a\nb") ∈ twoLineLetter.values ∧
        ¬ content.Includes found twoLineLetter := by
  obtain ⟨content, translator, readable, sameLayout, made, describes, survives⟩ :=
    exists_letterSearch twoLineLetter
  obtain ⟨found, finds, includes⟩ := exists_finds_keyword_asterisk describes sameLayout made
    state_declared rfl (by decide)
  refine ⟨content, translator, found, readable, survives, made, finds, List.mem_cons_self, ?_⟩
  rw [includes twoLineLetter survives]
  rintro ⟨value, isState, -, oneLine⟩
  cases List.mem_singleton.1 isState
  exact oneLine (by decide)

end IndexLife

end EntitySearch
