import EntitySearch.Proofs.BooleanOperators
import EntitySearch.Proofs.DeclaredFields
import EntitySearch.Proofs.FieldClauses
import EntitySearch.Proofs.IndexLife
import EntitySearch.Proofs.Outcomes
import EntitySearch.Proofs.TextRuns

/-!
# Quoted searches

A text in quotes, with a backslash before every character, stands for itself
whatever its characters are.  Asked of a field of texts taken whole, it finds
the entities that have the text there, provided that it is short enough for a
term.  Asked of a field of analysed text, it finds every entity that has the text
there, for the text leaves the same words at the same distances in the query as
in the document.
-/

namespace EntitySearch

/-- The query for a text in quotes under the name of a field. -/
def quotedQuery (name text : String) : String :=
  name ++ ":\"" ++ String.ofList (Query.escaped text.toList) ++ "\""

/-! ### The translator of an accepted configuration -/

def FieldKind.queryClass : FieldKind → FieldClass
  | .text _ => .words
  | .keyword => .whole
  | .unsigned => .unsigned
  | .signed => .signed

theorem LayoutField.name_of_queryField? {field : LayoutField} {query : QueryField}
    (seen : field.queryField? = some query) : query.name = field.name := by
  unfold queryField? at seen
  split at seen
  · cases seen
  · obtain ⟨fieldClass, -, rfl⟩ := Option.map_eq_some_iff.1 seen
    rfl

theorem FieldSpec.queryField?_layoutField {spec : FieldSpec}
    (notReserved : isReserved spec.name = false) :
    spec.layoutField.queryField? = some ⟨spec.name, spec.kind.queryClass⟩ := by
  rw [LayoutField.queryField?, spec.name_layoutField, notReserved]
  obtain ⟨name, kind⟩ := spec
  cases kind <;> rfl

/-- Queries can name the fields of a layout without repeated names. -/
theorem Translator.find?_of_distinct {layout : Layout} {field : QueryField}
    (distinct : (layout.fields.map (·.name)).Nodup)
    (known : field ∈ layout.fields.filterMap LayoutField.queryField?) :
    find? (layout.fields.filterMap LayoutField.queryField?) field.name = some field := by
  obtain ⟨source, inside, seen⟩ := List.mem_filterMap.1 known
  refine find?_reverse_of_unique known (beq_self_eq_true _) fun other otherKnown same => ?_
  obtain ⟨otherSource, otherInside, otherSeen⟩ := List.mem_filterMap.1 otherKnown
  have sameName : otherSource.name = source.name := by
    rw [← LayoutField.name_of_queryField? seen, ← LayoutField.name_of_queryField? otherSeen]
    exact beq_iff_eq.1 same
  rw [List.inj_on_of_nodup_map distinct otherInside inside sameName, seen] at otherSeen
  exact (Option.some.inj otherSeen).symm

namespace IndexConfiguration

variable (configuration : IndexConfiguration)

/-- The fields that queries can name. -/
def queryFields : List QueryField :=
  configuration.layout.fields.filterMap LayoutField.queryField?

theorem queryFields_eq : configuration.queryFields =
    [⟨CoreField.entity, .unsigned⟩, ⟨CoreField.project, .unsigned⟩] ++
      configuration.fields.map fun spec => ⟨spec.name, spec.kind.queryClass⟩ := by
  have core : Layout.coreFields.filterMap LayoutField.queryField? =
      [⟨CoreField.entity, .unsigned⟩, ⟨CoreField.project, .unsigned⟩] := by decide
  have declared : (configuration.fields.map FieldSpec.layoutField).filterMap
      LayoutField.queryField? =
        configuration.fields.map fun spec => ⟨spec.name, spec.kind.queryClass⟩ := by
    rw [List.filterMap_map, ← List.filterMap_eq_map]
    exact List.filterMap_congr fun spec inside =>
      FieldSpec.queryField?_layoutField (configuration.isReserved_declared inside)
  rw [queryFields, layout, Layout.ofSpecs, List.filterMap_append, core, declared]

theorem find?_queryFields {spec : FieldSpec} (declared : spec ∈ configuration.fields) :
    Translator.find? configuration.queryFields spec.name =
      some ⟨spec.name, spec.kind.queryClass⟩ := by
  have seen := FieldSpec.queryField?_layoutField (configuration.isReserved_declared declared)
  exact Translator.find?_of_distinct configuration.nodup_names_layout
    (List.mem_filterMap.2 ⟨_, configuration.layoutField_mem declared, seen⟩)

theorem missingCoreField?_layout : configuration.layout.missingCoreField? = none := by
  refine List.find?_eq_none.2 fun name core missing => ?_
  have isThere : configuration.layout.fields.any (·.name == name) = true := by
    have coreNames : Layout.coreFields.map (·.name) = CoreField.names := rfl
    rw [← coreNames] at core
    obtain ⟨field, inside, named⟩ := List.mem_map.1 core
    exact List.any_eq_true.2 ⟨field, List.mem_append_left _ inside, beq_iff_eq.2 named⟩
  rw [isThere] at missing
  cases missing

theorem exists_default {name : String} (isDefault : name ∈ configuration.defaultFields) :
    ∃ spec ∈ configuration.fields, spec.name = name ∧ spec.kind.isTextual = true := by
  obtain ⟨spec, found, textual⟩ :=
    defaultFieldFault?_eq_none_iff.1 (configuration.faultless.2 name isDefault)
  have named : spec.name = name := by simpa using List.find?_some found
  exact ⟨spec, List.mem_of_find?_eq_some found, named, textual⟩

theorem exists_translator : ∃ translator,
    Translator.ofLayout configuration.layout configuration.defaultFields = .ok translator ∧
      translator.fields = configuration.queryFields := by
  have defaults : ∃ defaults, configuration.defaultFields.mapM
      (Translator.defaultField? configuration.queryFields) = .ok defaults := by
    apply exists_mapM_eq_ok
    intro name isDefault
    obtain ⟨spec, declared, rfl, textual⟩ := configuration.exists_default isDefault
    refine ⟨⟨spec.name, spec.kind.queryClass⟩, ?_⟩
    rw [Translator.defaultField?, configuration.find?_queryFields declared]
    obtain ⟨name, kind⟩ := spec
    cases kind with
    | text stored => rfl
    | keyword => rfl
    | unsigned => cases textual
    | signed => cases textual
  obtain ⟨defaults, found⟩ := defaults
  rw [Translator.ofLayout, configuration.missingCoreField?_layout]
  simp only
  split
  · exact ⟨_, rfl, rfl⟩
  · rw [← queryFields, found]
    exact ⟨_, rfl, rfl⟩

end IndexConfiguration

/-! ### The plan of a quoted text -/

namespace Query

def quotedTree (name text : List Char) : Disjunction :=
  .single (.single (.mk none (.fieldLeaf name ⟨.phrase, escaped text⟩) none))

theorem isValue_quoted (name text : List Char) :
    IsValue name ('"' :: escaped text ++ ['"']) (.fieldLeaf name ⟨.phrase, escaped text⟩) := by
  have read := readLeaf?_print .nothing (.phrase text)
  rw [List.append_nil] at read
  exact .leaf read

/-- A quoted text is read back as it is, unless the name is the word of negation. -/
theorem read?_quotedQuery {name : String} (named : isFieldName name = true)
    (notNegation : name ≠ "NOT") (text : String) :
    read? (quotedQuery name text).toList = some (quotedTree name.toList text.toList) := by
  have characters : (quotedQuery name text).toList =
      name.toList ++ ':' :: ('"' :: escaped text.toList ++ ['"']) := by
    simp [quotedQuery]
  rw [characters]
  exact read?_fieldClause named notNegation (isValue_quoted name.toList text.toList)

end Query

namespace Translator

open Query

theorem hasClauses_quotedQuery {translator : Translator} {name text : String}
    {field : QueryField} (named : isFieldName name = true) (notNegation : name ≠ "NOT")
    (found : find? translator.fields name = some field) {plan : Option QueryPlan}
    (planned : leafPlan ⟨.phrase, escaped text.toList⟩ field = .ok plan) :
    translator.HasClauses (quotedQuery name text) (plan.toList.map (Occurrence.should, ·)) := by
  refine ⟨_, read?_quotedQuery named notNegation text, ?_⟩
  simp only [quotedTree, disjunctionClauses, conjunctionClauses, clausePlan, bodyPlan,
    String.ofList_toList, found, planned]
  cases plan <;> rfl

theorem leafPlan_whole (name text : String) :
    leafPlan ⟨.phrase, escaped text.toList⟩ ⟨name, .whole⟩ = .ok (some (.term name (.text text))) := by
  simp [leafPlan, leafText, unescape_escaped]

theorem leafPlan_words (name text : String) :
    leafPlan ⟨.phrase, escaped text.toList⟩ ⟨name, .words⟩ = .ok (wordsPlan name true text) := by
  simp [leafPlan, leafText, unescape_escaped]

theorem wordsPlan_eq_none {field text : String} {isPhrase : Bool}
    (planned : wordsPlan field isPhrase text = none) : Analysis.analyze text = [] := by
  unfold wordsPlan at planned
  split at planned
  case h_1 nothing => exact nothing
  case h_2 => cases planned
  case h_3 => split at planned <;> cases planned

end Translator

/-! ### Phrases -/

theorem mem_phrasePlaces {postings : List Posting} {field : String} {base : Nat}
    {terms : List (Nat × String)} (filled : terms ≠ [])
    (found : ∀ entry ∈ terms, (⟨field, .text entry.2, base + entry.1⟩ : Posting) ∈ postings) :
    (base : Int) ∈ phrasePlaces postings field terms := by
  cases terms with
  | nil => exact (filled rfl).elim
  | cons first rest =>
      rw [phrasePlaces]
      refine List.mem_filter.2 ⟨List.mem_filterMap.2 ⟨_, found first List.mem_cons_self, ?_⟩, ?_⟩
      · simp
      · refine List.all_eq_true.2 fun entry inside => ?_
        exact List.any_eq_true.2 ⟨_, found entry (List.mem_cons_of_mem _ inside), by simp⟩

/-- The plan of a phrase matches where all terms of its text stand at their distances. -/
theorem isMatch_wordsPlan {postings : List Posting} {field text : String} {base : Nat}
    (found : ∀ placed ∈ Analysis.analyze text,
      (⟨field, .text placed.term, base + placed.position⟩ : Posting) ∈ postings)
    {plan : QueryPlan} (planned : Translator.wordsPlan field true text = some plan) :
    plan.isMatch postings = true := by
  unfold Translator.wordsPlan at planned
  split at planned
  case h_1 => cases planned
  case h_2 only analysed =>
    cases planned
    rw [analysed] at found
    exact List.any_eq_true.2 ⟨_, found only List.mem_cons_self, by simp⟩
  case h_3 notEmpty _ =>
    rw [if_pos rfl] at planned
    cases planned
    have place : (base : Int) ∈ phrasePlaces postings field
        ((Analysis.analyze text).map fun placed => (placed.position, placed.term)) := by
      apply mem_phrasePlaces
      · exact fun none => notEmpty (List.map_eq_nil_iff.1 none)
      · intro entry inside
        obtain ⟨placed, isPlaced, rfl⟩ := List.mem_map.1 inside
        exact found placed isPlaced
    rw [QueryPlan.isMatch, Bool.not_eq_true', List.isEmpty_eq_false_iff]
    exact List.ne_nil_of_mem place

/-! ### Entities and their documents -/

namespace IndexContent

/-- The document of the entity is among those that were found. -/
def Includes (content : IndexContent) (found : Set (StoredDocument content.layout))
    (entity : Entity) : Prop :=
  ∃ stored ∈ found, stored.document = (content.layout.documentFor entity).document

end IndexContent

namespace Chronicle.Describes

variable {chronicle : Chronicle} {content : IndexContent}

theorem exists_stored (describes : chronicle.Describes content) {entity : Entity}
    (survives : chronicle.Survives (content.layout.documentFor entity)) :
    content.Includes content.entities entity := by
  obtain ⟨configuration, accepted⟩ := describes.accepted
  obtain ⟨current, shows⟩ := describes.shown
  have sameDocuments := shows.ofKind accepted describes.ordinary .entity
  have isCurrent := (shows.surviving _).2 survives
  obtain ⟨stored, inside, same⟩ := List.mem_map.1
    (sameDocuments.mem_iff.2 (List.mem_map_of_mem isCurrent))
  exact ⟨stored, inside, same⟩

/-- Every entity document is that of an entity which the chronicle still has. -/
theorem exists_entity (describes : chronicle.Describes content)
    {stored : StoredDocument content.layout} (inside : stored ∈ content.entities) :
    ∃ entity, chronicle.Survives (content.layout.documentFor entity) ∧
      stored.document = (content.layout.documentFor entity).document := by
  obtain ⟨configuration, accepted⟩ := describes.accepted
  obtain ⟨current, shows⟩ := describes.shown
  have sameDocuments := shows.ofKind accepted describes.ordinary .entity
  obtain ⟨document, isCurrent, same⟩ := List.mem_map.1
    (sameDocuments.mem_iff.1 (List.mem_map_of_mem inside))
  have survives := (shows.surviving document).1 isCurrent
  obtain ⟨entity, rfl⟩ := describes.ordinary.documentFor survives
  exact ⟨entity, survives, same.symm⟩

/-- Whether a test of postings finds an entity is decided by the postings of its document. -/
theorem includes_iff (describes : chronicle.Describes content) {entity : Entity}
    (survives : chronicle.Survives (content.layout.documentFor entity))
    (test : List Posting → Prop) :
    content.Includes {stored | stored ∈ content.entities ∧ test stored.postings} entity ↔
      test (content.layout.postings (content.layout.documentFor entity).document) := by
  have postings (stored : StoredDocument content.layout) :
      stored.postings = content.layout.postings stored.document := stored.content.indexed
  constructor
  · rintro ⟨stored, ⟨-, passes⟩, same⟩
    rw [postings, same] at passes
    exact passes
  · intro passes
    obtain ⟨stored, inside, same⟩ := describes.exists_stored survives
    refine ⟨stored, ⟨inside, ?_⟩, same⟩
    rw [postings, same]
    exact passes

end Chronicle.Describes

/-! ### What quoted texts find -/

section Quoted

open Translator Query

variable {chronicle : Chronicle} {content : IndexContent} {configuration : IndexConfiguration}
  {translator : Translator} {spec : FieldSpec}

/-- In a field of texts taken whole, a quoted text finds the entities that have it there, if
it is short enough for a term, and none otherwise. -/
theorem exists_finds_keyword (describes : chronicle.Describes content)
    (accepted : content.layout = configuration.layout)
    (fields : translator.fields = configuration.queryFields)
    (declared : spec ∈ configuration.fields) (notNegation : spec.name ≠ "NOT")
    (whole : spec.kind = .keyword) (text : String) :
    ∃ found, content.Finds translator (quotedQuery spec.name text) found ∧
      found ⊆ content.entities ∧
      ∀ entity, chronicle.Survives (content.layout.documentFor entity) →
        (content.Includes found entity ↔ (spec.name, .text text) ∈ entity.values ∧
          (FieldValue.text text).fitsTerm = true) := by
  have known := configuration.find?_queryFields declared
  rw [← fields, whole] at known
  have clauses := hasClauses_quotedQuery (configuration.isFieldName_declared declared)
    notNegation known (leafPlan_whole spec.name text)
  refine ⟨_, content.finds_of_hasClauses clauses (List.cons_ne_nil _ _),
    fun stored inside => inside.1, fun entity survives => ?_⟩
  have textual : spec.kind.isTextual = true := by rw [whole]; rfl
  rw [describes.includes_iff survives (QueryPlan.holds · _ = true), accepted,
    ← configuration.text_mem_valuesOf declared textual,
    ← configuration.hasValue_keyword declared whole]
  exact Eq.congr_left (QueryPlan.holds_single _ _)

/-- In a field of analysed text, a quoted text finds all entities that have it there, unless
the analysis leaves nothing of it. -/
theorem exists_finds_text (describes : chronicle.Describes content)
    (accepted : content.layout = configuration.layout)
    (fields : translator.fields = configuration.queryFields)
    (declared : spec ∈ configuration.fields) (notNegation : spec.name ≠ "NOT") {kept : Bool}
    (analysed : spec.kind = .text kept) (text : String) :
    ∃ found, content.Finds translator (quotedQuery spec.name text) found ∧
      found ⊆ content.entities ∧
      ∀ entity, chronicle.Survives (content.layout.documentFor entity) →
        Analysis.analyze text ≠ [] → (spec.name, .text text) ∈ entity.values →
          content.Includes found entity := by
  have known := configuration.find?_queryFields declared
  rw [← fields, analysed] at known
  have clauses := hasClauses_quotedQuery (configuration.isFieldName_declared declared)
    notNegation known (leafPlan_words spec.name text)
  cases planned : wordsPlan spec.name true text with
  | none =>
      rw [planned] at clauses
      refine ⟨∅, content.finds_of_no_clause clauses, Set.empty_subset _, ?_⟩
      intro entity _ someWord
      exact (someWord (wordsPlan_eq_none planned)).elim
  | some plan =>
      rw [planned] at clauses
      refine ⟨_, content.finds_of_hasClauses clauses (List.cons_ne_nil _ _),
        fun stored inside => inside.1, fun entity survives _ offered => ?_⟩
      have textual : spec.kind.isTextual = true := by rw [analysed]; rfl
      rw [describes.includes_iff survives (QueryPlan.holds · _ = true), accepted]
      have inside := (configuration.text_mem_valuesOf declared textual entity text).2 offered
      obtain ⟨base, found⟩ := configuration.exists_base_postings declared analysed _ inside
      exact (QueryPlan.holds_single _ _).trans (isMatch_wordsPlan found planned)

end Quoted

namespace IndexLife

/-- What is in the directory of an index, and what its reader shows, is what the chronicle
says. -/
theorem Sound.describes {life : IndexLife} (sound : life.Sound) {content : IndexContent}
    (held : life.index.directory = .readable content ∨ life.index.snapshot = some content) :
    life.chronicle.Describes content := by
  rcases held with readable | shown
  · exact sound.keeps.described content readable
  · exact sound.keeps.described content (sound.keeps.shown content shown)

/-- Whatever has happened to an index, a quoted text under the name of a declared field is a
query that finds documents of present entities.  In a field of texts taken whole it finds
exactly the entities that have the text there, as long as the text is short enough for a term;
in a field of analysed text it finds all that have it there, if some word is left of it. -/
theorem quoted_text_finds_itself (owner : EntityIndex) {directory : IndexDirectory}
    (unbuilt : directory.content? = none) (operations : List IndexOperation)
    {content : IndexContent}
    (held : ((begin owner directory).run operations).index.directory = .readable content ∨
      ((begin owner directory).run operations).index.snapshot = some content)
    {configuration : IndexConfiguration} (accepted : content.layout = configuration.layout)
    {spec : FieldSpec} (declared : spec ∈ configuration.fields)
    (textual : spec.kind.isTextual = true) (notNegation : spec.name ≠ "NOT") (text : String) :
    let chronicle := ((begin owner directory).run operations).chronicle
    ∃ translator found,
      Translator.ofLayout configuration.layout configuration.defaultFields = .ok translator ∧
      content.Finds translator (quotedQuery spec.name text) found ∧
      (∀ stored ∈ found, ∃ entity, chronicle.Survives (content.layout.documentFor entity) ∧
        stored.document = (content.layout.documentFor entity).document) ∧
      ∀ entity, chronicle.Survives (content.layout.documentFor entity) →
        (spec.kind = .keyword → (content.Includes found entity ↔
          (spec.name, .text text) ∈ entity.values ∧
            Analysis.byteLength text.toList ≤ termByteLimit)) ∧
        ∀ kept, spec.kind = .text kept → Analysis.analyze text ≠ [] →
          (spec.name, .text text) ∈ entity.values → content.Includes found entity := by
  intro chronicle
  have describes : chronicle.Describes content :=
    ((sound_begin owner unbuilt).run operations).describes held
  obtain ⟨translator, made, fields⟩ := configuration.exists_translator
  cases kind : spec.kind with
  | keyword =>
      obtain ⟨found, finds, entities, includes⟩ :=
        exists_finds_keyword describes accepted fields declared notNegation kind text
      refine ⟨translator, found, made, finds,
        fun stored inside => describes.exists_entity (entities inside), fun entity survives => ?_⟩
      constructor
      · intro _
        simpa only [FieldValue.fitsTerm, decide_eq_true_eq] using includes entity survives
      · intro kept same
        cases same
  | text kept =>
      obtain ⟨found, finds, entities, includes⟩ :=
        exists_finds_text describes accepted fields declared notNegation kind text
      refine ⟨translator, found, made, finds,
        fun stored inside => describes.exists_entity (entities inside), fun entity survives => ?_⟩
      constructor
      · intro same
        cases same
      · intro _ _
        exact includes entity survives
  | unsigned =>
      rw [kind] at textual
      cases textual
  | signed =>
      rw [kind] at textual
      cases textual

def letterDeclaration : IndexDeclaration where
  typeName := "letter"
  indexName := some "letter"
  version := 1
  fields := [⟨"state", .keyword⟩, ⟨"title", .text true⟩]
  defaultFields := []
  hasExtractor := true

def letterConfiguration : IndexConfiguration := ⟨letterDeclaration, by decide +kernel⟩

theorem state_declared : (⟨"state", .keyword⟩ : FieldSpec) ∈ letterConfiguration.fields :=
  List.mem_cons_self

def letterOwner : EntityIndex where
  configuration := letterConfiguration
  translator := ⟨letterConfiguration.queryFields,
    letterConfiguration.queryFields.filter (·.fieldClass == .words)⟩
  settings := {}

def letterOperations (letter : Entity) : List IndexOperation :=
  [.start, .transact (.ok [.upsert letter])]

theorem exists_letterContent (letter : Entity) :
    let life := (begin letterOwner .missing).run (letterOperations letter)
    ∃ content, life.index.directory = .readable content ∧
      content.layout = letterConfiguration.layout ∧
      life.chronicle.Survives (content.layout.documentFor letter) := by
  intro life
  have sound : life.Sound := (sound_begin letterOwner rfl).run (letterOperations letter)
  obtain ⟨⟨content, readable, sameLayout⟩, _⟩ := sound.serves rfl
  refine ⟨content, readable, sameLayout, [], [], ?_, by simp⟩
  rw [sameLayout]
  rfl

def openLetter : Entity :=
  ⟨1, 1, [("state", .text "open"), ("title", .text "red"), ("title", .text "open door")]⟩

/-- The only term of the longer title; the second word is a stop word. -/
theorem openDoor_placed :
    (⟨0, 0, 4, "open"⟩ : Analysis.PlacedTerm) ∈ Analysis.analyze "open door" := by
  have notStopped : Analysis.isStopWord "open" = false := by decide +kernel
  have term : Analysis.termOf? ['o', 'p', 'e', 'n'] = some "open" :=
    Analysis.termOf?_eq_some_iff.2 ⟨by decide, notStopped, rfl⟩
  exact Analysis.mem_placeTerms_iff.2 ⟨0, ⟨['o', 'p', 'e', 'n'], 0⟩, rfl, rfl, rfl, rfl, term⟩

theorem openLetter_is_found :
    ∃ (content : IndexContent) (translator : Translator)
        (byState byTitle : Set (StoredDocument content.layout)),
      Translator.ofLayout letterConfiguration.layout letterConfiguration.defaultFields =
          .ok translator ∧
        content.Finds translator (quotedQuery "state" "open") byState ∧
        content.Includes byState openLetter ∧
        content.Finds translator (quotedQuery "title" "open door") byTitle ∧
        content.Includes byTitle openLetter := by
  obtain ⟨content, readable, sameLayout, survives⟩ := exists_letterContent openLetter
  have titleDeclared : (⟨"title", .text true⟩ : FieldSpec) ∈ letterConfiguration.fields :=
    List.mem_cons_of_mem _ List.mem_cons_self
  obtain ⟨translator, byState, made, findsState, _, stateIncluded⟩ :=
    quoted_text_finds_itself letterOwner rfl (letterOperations openLetter) (.inl readable)
      sameLayout state_declared rfl (by decide) "open"
  obtain ⟨other, byTitle, otherMade, findsTitle, _, titleIncluded⟩ :=
    quoted_text_finds_itself letterOwner rfl (letterOperations openLetter) (.inl readable)
      sameLayout titleDeclared rfl (by decide) "open door"
  rw [made] at otherMade
  cases otherMade
  have inState := (stateIncluded openLetter survives).1 rfl
  have inTitle := (titleIncluded openLetter survives).2 true rfl
  exact ⟨content, translator, byState, byTitle, made, findsState,
    inState.2 ⟨by decide, by decide⟩, findsTitle,
    inTitle (List.ne_nil_of_mem openDoor_placed) (by decide)⟩

/-! ### Texts that are too long for a term -/

def longState : String := String.ofList (List.replicate 70000 'x')

theorem fitsTerm_longState : (FieldValue.text longState).fitsTerm = false := by
  have length : Analysis.byteLength longState.toList = 70000 * 'x'.utf8Size := by
    rw [← Analysis.byteLength_replicate]
    exact congrArg Analysis.byteLength String.toList_ofList
  have oneByte : 'x'.utf8Size = 1 := by decide
  rw [oneByte] at length
  rw [FieldValue.fitsTerm, decide_eq_false_iff_not, length, termByteLimit]
  omega

/-- A letter with a state that is too long for a term. -/
def longLetter : Entity := ⟨1, 1, [("state", .text longState)]⟩

theorem longLetter_is_not_found :
    ∃ (content : IndexContent) (translator : Translator)
        (found : Set (StoredDocument content.layout)),
      ((begin letterOwner .missing).run (letterOperations longLetter)).index.directory =
          .readable content ∧
        ((begin letterOwner .missing).run (letterOperations longLetter)).chronicle.Survives
          (content.layout.documentFor longLetter) ∧
        Translator.ofLayout letterConfiguration.layout letterConfiguration.defaultFields =
          .ok translator ∧
        content.Finds translator (quotedQuery "state" longState) found ∧
        ("state", .text longState) ∈ longLetter.values ∧
        ¬ content.Includes found longLetter := by
  obtain ⟨content, readable, sameLayout, survives⟩ := exists_letterContent longLetter
  have describes := ((sound_begin letterOwner rfl).run (letterOperations longLetter)).describes
    (.inl readable)
  obtain ⟨translator, made, fields⟩ := letterConfiguration.exists_translator
  obtain ⟨found, finds, _, includes⟩ :=
    exists_finds_keyword describes sameLayout fields state_declared (by decide) rfl longState
  refine ⟨content, translator, found, readable, survives, made, finds, List.mem_cons_self, ?_⟩
  rw [includes longLetter survives]
  rintro ⟨_, fits⟩
  rw [fitsTerm_longState] at fits
  cases fits

end IndexLife

end EntitySearch
