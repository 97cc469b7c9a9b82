import EntitySearch.CommandLine.Site
import EntitySearch.Proofs.AlikePlans
import EntitySearch.Proofs.PlanSigns
import EntitySearch.Proofs.QuotedSearches

/-!
# Answers of the count command

The count command knows an index by its directory, where the default query fields
of its configuration are not kept: without a field name it searches all analysed
text.  Its counts are those of the service where this is also what the service
does, and wherever a query names a field for everything it searches for.
-/

namespace EntitySearch

namespace Translator

open Query QueryPlan

/-! ### Searching fields of analysed text -/

/-- On fields of analysed text the plans of a leaf differ in the name of the field only, and
the leaf is refused on all of them or on none. -/
theorem exists_leafPlan_words (leaf : Leaf) :
    ∃ outcome : Except QueryFault (String → Option QueryPlan), ∀ field : QueryField,
      field.fieldClass = .words → leafPlan leaf field = outcome.map (· field.name) := by
  by_cases wildcard : leaf.kind = .wildcard
  · let glob := Text.lowercaseInContext (leafText leaf)
    have onWords (field : QueryField) (words : field.fieldClass = .words) :
        leafPlan leaf field = (patternPlan field glob).map some := by
      simp only [leafPlan, if_pos wildcard, wildcardPlan, words, glob]
    by_cases accepted : patternIsAccepted (String.ofList (globPattern glob)) = true
    · refine ⟨.ok fun name => some (.pattern name (String.ofList (globPattern glob))),
        fun field words => ?_⟩
      simp only [onWords field words, patternPlan, if_pos accepted, Except.map]
    · refine ⟨.error (.unusableWildcard (String.ofList glob)), fun field words => ?_⟩
      simp only [onWords field words, patternPlan, if_neg accepted, Except.map]
  · refine ⟨.ok fun name => wordsPlan name (leaf.kind == .phrase) (String.ofList (leafText leaf)),
      fun field words => ?_⟩
    simp only [leafPlan, if_neg wildcard, words, Except.map]

theorem isMatch_wishes (postings : List Posting) (plans : List QueryPlan) :
    isAllowed postings (plans.map (.should, ·)) = true ∧
      demandsAny (plans.map (.should, ·)) = false ∧
        isWished postings (plans.map (.should, ·)) = plans.any (·.isMatch postings) := by
  induction plans with
  | nil => exact ⟨rfl, rfl, rfl⟩
  | cons plan plans ih =>
      obtain ⟨allowed, demands, wished⟩ := ih
      refine ⟨by simpa only [List.map_cons, isAllowed] using allowed, demands, ?_⟩
      simp only [List.map_cons, isWished, wished, List.any_cons]

theorem anyOf_cases (plans : List QueryPlan) :
    plans = [] ∧ anyOf plans = none ∨
      ∃ plan, plans ≠ [] ∧ anyOf plans = some plan ∧
        ∀ postings, plan.isMatch postings = plans.any (·.isMatch postings) := by
  match plans with
  | [] => exact .inl ⟨rfl, rfl⟩
  | [plan] => exact .inr ⟨plan, List.cons_ne_nil _ _, rfl, fun postings => by simp⟩
  | first :: second :: rest =>
      refine .inr ⟨_, List.cons_ne_nil _ _, rfl, fun postings => ?_⟩
      obtain ⟨allowed, demands, wished⟩ := isMatch_wishes postings (first :: second :: rest)
      rw [isMatch, allowed, demands, wished, Bool.false_or, Bool.true_and]

theorem eq_nil_iff_of_same {Item : Type} {first second : List Item}
    (same : ∀ item, item ∈ first ↔ item ∈ second) : first = [] ↔ second = [] := by
  simp only [List.eq_nil_iff_forall_not_mem, same]

/-- Neither the order of wishes nor how often one is made decides what they match. -/
theorem anyOf_alike {first second : List QueryPlan} (same : ∀ plan, plan ∈ first ↔ plan ∈ second) :
    Option.Rel MatchesLike (anyOf first) (anyOf second) := by
  have bothEmpty := eq_nil_iff_of_same same
  obtain ⟨noFirst, none⟩ | ⟨plan, someFirst, planned, matched⟩ := anyOf_cases first
  · rw [none, bothEmpty.1 noFirst]
    exact .none
  · obtain ⟨noSecond, -⟩ | ⟨other, -, otherPlanned, otherMatched⟩ := anyOf_cases second
    · exact (someFirst (bothEmpty.2 noSecond)).elim
    · rw [planned, otherPlanned]
      refine .some fun postings => ?_
      rw [matched, otherMatched, Bool.eq_iff_iff, List.any_eq_true, List.any_eq_true]
      exact exists_congr fun found => and_congr_left fun _ => same found

theorem mapM_leafPlan_words {leaf : Leaf} {outcome : Except QueryFault (String → Option QueryPlan)}
    (onWords : ∀ field : QueryField, field.fieldClass = .words →
      leafPlan leaf field = outcome.map (· field.name))
    {fields : List QueryField} (words : ∀ field ∈ fields, field.fieldClass = .words)
    (filled : fields ≠ []) :
    fields.mapM (leafPlan leaf) = outcome.map fun plan => fields.map (plan ·.name) := by
  cases outcome with
  | error fault =>
      obtain ⟨field, others, rfl⟩ := List.exists_cons_of_ne_nil filled
      rw [List.mapM_cons, onWords field (words field List.mem_cons_self)]
      rfl
  | ok plan =>
      clear filled
      induction fields with
      | nil => rfl
      | cons field others ih =>
          rw [List.mapM_cons, onWords field (words field List.mem_cons_self),
            ih fun other inside => words other (List.mem_cons_of_mem _ inside)]
          rfl

/-- Defaults of analysed text are searched alike whatever their order is. -/
theorem leafAlike_of_words {first second : Translator}
    (words : ∀ field ∈ first.defaults, field.fieldClass = .words)
    (same : ∀ field, field ∈ first.defaults ↔ field ∈ second.defaults) (leaf : Leaf) :
    LeafAlike MatchesLike first second none none leaf := by
  have bothEmpty := eq_nil_iff_of_same same
  rw [LeafAlike, leafOn, leafOn]
  by_cases none : first.defaults = []
  · simp only [none, bothEmpty.1 none, List.isEmpty_nil, if_true]
    exact .error _
  · have otherSome : second.defaults ≠ [] := fun otherNone => none (bothEmpty.2 otherNone)
    obtain ⟨outcome, onWords⟩ := exists_leafPlan_words leaf
    have otherWords : ∀ field ∈ second.defaults, field.fieldClass = .words :=
      fun field inside => words field ((same field).2 inside)
    rw [if_neg (by simpa using none), if_neg (by simpa using otherSome),
      mapM_leafPlan_words onWords words none, mapM_leafPlan_words onWords otherWords otherSome]
    cases outcome with
    | error fault => exact .error _
    | ok plan =>
        refine .ok (anyOf_alike fun found => ?_)
        simp only [List.mem_filterMap, List.mem_map, id]
        exact exists_congr fun planned => and_congr_left fun _ =>
          exists_congr fun field => and_congr_left fun _ => same field

end Translator

namespace IndexConfiguration

open Translator Query QueryPlan

variable (configuration : IndexConfiguration)

/-- Where a query names no field, the fields of analysed text are searched: there are no default
fields, or the default fields are these. -/
def SearchesText : Prop :=
  configuration.defaultFields = [] ∨
    ∀ name, name ∈ configuration.defaultFields ↔
      ∃ kept, (⟨name, .text kept⟩ : FieldSpec) ∈ configuration.fields

theorem mem_words_iff {field : QueryField} :
    field ∈ configuration.queryFields.filter (·.fieldClass == .words) ↔
      ∃ name kept, (⟨name, .text kept⟩ : FieldSpec) ∈ configuration.fields ∧
        field = ⟨name, .words⟩ := by
  rw [queryFields_eq, List.mem_filter, List.mem_append, List.mem_map]
  constructor
  · rintro ⟨core | ⟨⟨name, kind⟩, inside, rfl⟩, words⟩
    · simp only [List.mem_cons, List.not_mem_nil, or_false] at core
      rcases core with rfl | rfl <;> cases words
    · cases kind with
      | text kept => exact ⟨name, kept, inside, rfl⟩
      | keyword => cases words
      | unsigned => cases words
      | signed => cases words
  · rintro ⟨name, kept, inside, rfl⟩
    exact ⟨.inr ⟨_, inside, rfl⟩, rfl⟩

variable {configuration}

theorem defaultField?_text {name : String} {kept : Bool}
    (declared : (⟨name, .text kept⟩ : FieldSpec) ∈ configuration.fields) :
    defaultField? configuration.queryFields name = .ok ⟨name, .words⟩ := by
  have found := configuration.find?_queryFields declared
  simp only at found
  rw [defaultField?, found]
  rfl

theorem SearchesText.mem_defaults_iff (searches : configuration.SearchesText)
    {translator : Translator}
    (made : ofLayout configuration.layout configuration.defaultFields = .ok translator)
    {field : QueryField} :
    field ∈ translator.defaults ↔
      field ∈ configuration.queryFields.filter (·.fieldClass == .words) := by
  obtain ⟨fields, ⟨-, byClass⟩ | ⟨named, byName⟩⟩ := ofLayout_cases made
  · rw [byClass, fields, queryFields]
  · rw [fields] at byName
    rw [mem_words_iff]
    have exactly := searches.resolve_left named
    constructor
    · intro isDefault
      obtain ⟨name, inside, isField⟩ := exists_of_mapM_ok byName isDefault
      obtain ⟨kept, declared⟩ := (exactly name).1 inside
      rw [← queryFields, defaultField?_text declared] at isField
      exact ⟨name, kept, declared, (Except.ok.inj isField).symm⟩
    · rintro ⟨name, kept, declared, rfl⟩
      obtain ⟨field, isDefault, isField⟩ :=
        exists_image_of_mapM_ok byName ((exactly name).2 ⟨kept, declared⟩)
      rw [← queryFields, defaultField?_text declared] at isField
      exact Except.ok.inj isField ▸ isDefault

theorem ofLayout_nil : ofLayout configuration.layout [] =
    .ok ⟨configuration.queryFields, configuration.queryFields.filter (·.fieldClass == .words)⟩ := by
  rw [ofLayout, configuration.missingCoreField?_layout]
  rfl

/-- Two translators of a configuration, one with its default names and one without, make plans
that match the same documents. -/
theorem exists_alike_translator {translator : Translator}
    (made : ofLayout configuration.layout configuration.defaultFields = .ok translator)
    {query : String} (agrees : configuration.SearchesText ∨
      ∀ tree, read? query.toList = some tree → tree.bareLeaves = []) :
    ∃ other, ofLayout configuration.layout [] = .ok other ∧
      OutcomesAlike MatchesLike (translator.translate query) (other.translate query) := by
  refine ⟨_, ofLayout_nil, Translator.translate_alike isCongruence_matchesLike
    (ofLayout_cases made).1 fun tree read leaf bare => ?_⟩
  rcases agrees with searches | named
  · refine leafAlike_of_words (fun field isDefault => ?_) (fun field =>
      searches.mem_defaults_iff made) leaf
    obtain ⟨name, kept, -, rfl⟩ :=
      configuration.mem_words_iff.1 ((searches.mem_defaults_iff made).1 isDefault)
    rfl
  · rw [named tree read] at bare
    cases bare

theorem isIndexName_indexName : isIndexName configuration.indexName = true :=
  (IndexDeclaration.fault?_eq_none_iff.1 configuration.accepted).2.1

end IndexConfiguration

/-- A name that leads to an entry of a directory, and not elsewhere. -/
def IsEntryName (name : String) : Prop :=
  '/' ∉ name.toList ∧ name ∉ ["", ".", ".."]

theorem isEntryName_of_isIndexName {name : String} (named : isIndexName name = true) :
    IsEntryName name := by
  rw [isIndexName, Bool.and_eq_true, List.all_eq_true] at named
  obtain ⟨filled, characters⟩ := named
  have absent {character : Char} (stray : (character.isAlphanum || character == '_' ||
      character == '-') = false) : character ∉ name.toList := fun inside => by
    simp [characters character inside] at stray
  have noPoint : '.' ∉ name.toList := absent (by decide)
  refine ⟨absent (by decide), ?_⟩
  simp only [List.mem_cons, List.not_mem_nil, or_false]
  rintro (rfl | rfl | rfl)
  · cases filled
  · exact noPoint (by decide)
  · exact noPoint (by decide)

namespace CommandLine

open Translator Query QueryPlan

namespace Site

variable {site : Site} {name : String}

theorem openIndex_named (named : isIndexName name = true) {content : IndexContent}
    (kept : site.get? name = some (.readable content)) : site.openIndex name = .ok content := by
  obtain ⟨noSlash, isName⟩ := isEntryName_of_isIndexName named
  simp only [List.mem_cons, List.not_mem_nil, or_false, not_or] at isName
  obtain ⟨notEmpty, notHere, notAbove⟩ := isName
  have oneName : pathParts name = [name] := by
    rw [pathParts, List.splitOn_eq_singleton noSlash]
    simp
  have relative : name.startsWith "/" = false := by
    rw [Bool.eq_false_iff, Ne, String.startsWith_string_iff]
    rintro ⟨rest, same⟩
    exact noSlash (same ▸ List.mem_cons_self)
  have followed : follow site .root [name] = some (.entry name) := by
    have isDirectory : (site.get? name).any (·.isDirectory) = true := by
      rw [kept]
      rfl
    rw [follow, if_neg (by simp [notEmpty, notHere]), if_pos isDirectory, follow]
    exact notAbove
  simp only [openIndex, relative, Bool.false_eq_true, if_false, oneName, followed, kept]

theorem run_count {content : IndexContent} (opened : site.openIndex name = .ok content)
    (query : String) : site.run (.count name query) =
      (planFor content query).map fun plan => .count name query (content.count plan) := by
  have counted : site.run (.count name query) = do
      let plan ← planFor content query
      return .count name query (content.count plan) := by
    rw [run, opened]
    rfl
  rw [counted]
  cases planFor content query <;> rfl

end Site

/-- Two answers to one question, of the command and of the service: the same number, or the same
failure. -/
inductive CountsAgree (name query : String) :
    Except CommandFailure Report → Except SearchFailure UInt64 → Prop
  | count (counted : Nat) :
      CountsAgree name query (.ok (.count name query counted)) (.ok counted.toUInt64)
  | failure (failure : SearchFailure) :
      CountsAgree name query (.error (.refused failure)) (.error failure)

theorem countsAgree_of_alike {site : Site} {name query : String} {content : IndexContent}
    (owner : EntityIndex) {other : Translator} (opened : site.openIndex name = .ok content)
    (made : ofLayout content.layout [] = .ok other)
    (alike : OutcomesAlike MatchesLike (owner.translator.translate query)
      (other.translate query)) :
    CountsAgree name query (site.run (.count name query))
      (owner.localCount (some content) query) := by
  rw [Site.run_count opened, Site.planFor, made]
  simp only [EntityIndex.localCount, EntityIndex.plan]
  revert alike
  generalize owner.translator.translate query = first
  generalize other.translate query = second
  rintro (fault | @⟨plan, otherPlan, matched⟩)
  · exact .failure _
  · have sameCount : content.count plan = content.count otherPlan := by
      simp only [IndexContent.count, IndexContent.matching, matched _]
    simp only [Except.mapError, Except.map, sameCount]
    exact .count _

end CommandLine

namespace IndexLife

open CommandLine Query

variable {life : IndexLife} {site : Site} {query : String}

theorem ofLayout_of_make {configuration : IndexConfiguration} {settings : Settings}
    {owner : EntityIndex} (made : EntityIndex.make configuration settings = .ok owner) :
    owner.configuration = configuration ∧
      Translator.ofLayout configuration.layout configuration.defaultFields =
        .ok owner.translator := by
  unfold EntityIndex.make at made
  split at made
  · cases made
  · split at made
    · cases made
    · rename_i translator translated
      cases made
      exact ⟨rfl, translated⟩

/-- The count command and the started service give the same count of every query, or refuse it
for the same reason, if the configuration searches analysed text by default or the query names a
field for whatever it searches. -/
theorem count_command_agrees (first : EntityIndex) {directory : IndexDirectory}
    (unbuilt : directory.content? = none) {operations : List IndexOperation}
    (lived : (begin first directory).run operations = life)
    (made : EntityIndex.make life.owner.configuration life.owner.settings = .ok life.owner)
    (started : life.started = true) (isOpen : life.index.isOpen = true)
    (kept : site.get? life.owner.name = some life.index.directory)
    (agrees : life.owner.configuration.SearchesText ∨
      ∀ tree, read? query.toList = some tree → tree.bareLeaves = []) :
    CountsAgree life.owner.name query (site.run (.count life.owner.name query))
      (life.owner.localCount life.index.snapshot query) := by
  have sound : life.Sound := lived ▸ (sound_begin first unbuilt).run operations
  obtain ⟨content, shown⟩ := Option.isSome_iff_exists.1 isOpen
  have readable := sound.keeps.shown content shown
  obtain ⟨⟨other, otherReadable, sameLayout⟩, -⟩ := sound.serves started
  -- the open reader shows what is in the directory, which is all that the command sees
  obtain rfl : content = other := by
    rw [readable] at otherReadable
    exact IndexDirectory.readable.inj otherReadable
  rw [readable] at kept
  have opened := Site.openIndex_named life.owner.configuration.isIndexName_indexName kept
  obtain ⟨translator, otherMade, alike⟩ :=
    IndexConfiguration.exists_alike_translator (ofLayout_of_make made).2 agrees
  have layout : content.layout = life.owner.configuration.layout := sameLayout
  rw [shown]
  exact countsAgree_of_alike life.owner opened (layout ▸ otherMade) alike

/-! ### An index of letters -/

def titleOwner : EntityIndex where
  configuration := ⟨{ letterDeclaration with defaultFields := ["title"] }, by decide +kernel⟩
  translator := ⟨letterConfiguration.queryFields, [⟨"title", .words⟩]⟩
  settings := {}

/-- An index of letters that have a state only and are searched by it. -/
def stateOwner : EntityIndex where
  configuration := ⟨{ letterDeclaration with
    fields := [⟨"state", .keyword⟩]
    defaultFields := ["state"] }, by decide +kernel⟩
  translator := Translator.keywordTranslator "state"
  settings := {}

def letterLife (owner : EntityIndex) : IndexLife :=
  (begin owner .missing).run (letterOperations ⟨1, 1, [("state", .text "open")]⟩)

def letterSite (owner : EntityIndex) : Site :=
  Table.empty.set "letter" (letterLife owner).index.directory

theorem searchesText_titleOwner : titleOwner.configuration.SearchesText := by
  refine .inr fun name => ?_
  have fields : titleOwner.configuration.fields =
    [⟨"state", .keyword⟩, ⟨"title", .text true⟩] := rfl
  have defaults : titleOwner.configuration.defaultFields = ["title"] := rfl
  simp [fields, defaults]

theorem letter_is_counted_alike :
    (letterLife titleOwner).owner.localCount (letterLife titleOwner).index.snapshot
        "state:open OR the" = .ok 1 ∧
      CountsAgree "letter" "state:open OR the"
        ((letterSite titleOwner).run (.count "letter" "state:open OR the"))
        ((letterLife titleOwner).owner.localCount (letterLife titleOwner).index.snapshot
          "state:open OR the") := by
  have lived : (begin titleOwner .missing).run
    (letterOperations ⟨1, 1, [("state", .text "open")]⟩) = letterLife titleOwner := rfl
  have made : EntityIndex.make (letterLife titleOwner).owner.configuration
      (letterLife titleOwner).owner.settings = .ok (letterLife titleOwner).owner := rfl
  have started : (letterLife titleOwner).started = true := by decide +kernel
  have isOpen : (letterLife titleOwner).index.isOpen = true := by decide +kernel
  exact ⟨by decide +kernel, count_command_agrees titleOwner rfl lived made started isOpen
    (Table.get?_set_self _ _ _) (.inl searchesText_titleOwner)⟩

/-- Without a field of analysed text the service finds the letter by its default field, and the
command refuses the query. -/
theorem default_field_divides_counts :
    EntityIndex.make (letterLife stateOwner).owner.configuration
        (letterLife stateOwner).owner.settings = .ok (letterLife stateOwner).owner ∧
      (letterLife stateOwner).started = true ∧ (letterLife stateOwner).index.isOpen = true ∧
      (letterSite stateOwner).get? (letterLife stateOwner).owner.name =
        some (letterLife stateOwner).index.directory ∧
      (letterLife stateOwner).owner.localCount (letterLife stateOwner).index.snapshot "open" =
        .ok 1 ∧
      (letterSite stateOwner).run (.count "letter" "open") =
        .error (.refused (.invalidQuery (QueryFault.noField "open").message)) := by
  have kept : (letterSite stateOwner).get? "letter" =
    some (letterLife stateOwner).index.directory := Table.get?_set_self _ _ _
  have sound : (letterLife stateOwner).Sound := (sound_begin stateOwner rfl).run _
  have started : (letterLife stateOwner).started = true := by decide +kernel
  obtain ⟨⟨content, readable, layout⟩, -⟩ := sound.serves started
  have refused : Site.planFor content "open" =
      .error (.refused (.invalidQuery (QueryFault.noField "open").message)) := by
    rw [Site.planFor, layout]
    rfl
  refine ⟨rfl, started, by decide +kernel, kept, by decide +kernel, ?_⟩
  rw [readable] at kept
  rw [Site.run_count (Site.openIndex_named rfl kept), refused]
  rfl

end IndexLife

end EntitySearch
