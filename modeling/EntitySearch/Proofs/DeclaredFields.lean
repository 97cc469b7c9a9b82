import EntitySearch.Proofs.DocumentTerms
import EntitySearch.Search.Matching
import Mathlib.Data.List.Nodup

/-!
# Declared fields

An accepted declaration gives every field a name of its own.  So a name finds
the field that was declared under it, what an entity offers under the name enters
its document in the order in which it is offered, and the postings of that field
are the postings of these values and of no others.
-/

namespace EntitySearch

theorem find?_reverse_of_unique {Item : Type} {test : Item → Bool} {items : List Item}
    {item : Item} (inside : item ∈ items) (passes : test item = true)
    (unique : ∀ other ∈ items, test other = true → other = item) :
    items.reverse.find? test = some item := by
  cases found : items.reverse.find? test with
  | none =>
      have failing := List.find?_eq_none.1 found item (List.mem_reverse.2 inside)
      exact (failing passes).elim
  | some other =>
      have isInside := List.mem_reverse.1 (List.mem_of_find?_eq_some found)
      rw [unique other isInside (List.find?_some found)]

theorem FieldSpec.name_layoutField (spec : FieldSpec) : spec.layoutField.name = spec.name := by
  obtain ⟨name, kind⟩ := spec
  cases kind <;> rfl

/-! ### Names -/

namespace IndexConfiguration

variable (configuration : IndexConfiguration)

theorem nodup_names_layout : (configuration.layout.fields.map (·.name)).Nodup := by
  have declaredNames : (configuration.fields.map FieldSpec.layoutField).map (·.name) =
      configuration.fields.map (·.name) := by
    rw [List.map_map]
    exact List.map_congr_left fun spec _ => spec.name_layoutField
  have coreNames : Layout.coreFields.map (·.name) = CoreField.names := rfl
  have coreDistinct : CoreField.names.Nodup := by decide
  rw [layout, Layout.ofSpecs, List.map_append, declaredNames, coreNames]
  refine List.nodup_append'.2 ⟨coreDistinct, configuration.nodup_names,
    fun name core declared => ?_⟩
  obtain ⟨spec, inside, rfl⟩ := List.mem_map.1 declared
  have notReserved := configuration.isReserved_declared inside
  rw [isReserved, List.contains_iff_mem.2 core] at notReserved
  cases notReserved

theorem eq_of_name_eq {field other : LayoutField} (inside : field ∈ configuration.layout.fields)
    (otherInside : other ∈ configuration.layout.fields) (same : other.name = field.name) :
    other = field :=
  List.inj_on_of_nodup_map configuration.nodup_names_layout otherInside inside same

theorem layoutField_mem {spec : FieldSpec} (declared : spec ∈ configuration.fields) :
    spec.layoutField ∈ configuration.layout.fields :=
  List.mem_append_right _ (List.mem_map_of_mem declared)

theorem find?_layout {field : LayoutField} (inside : field ∈ configuration.layout.fields) :
    configuration.layout.find? field.name = some field := by
  refine find?_reverse_of_unique inside (beq_self_eq_true _) fun other otherInside same => ?_
  exact configuration.eq_of_name_eq inside otherInside (beq_iff_eq.1 same)

/-! ### Values -/

/-- What an entity offers under a declared name enters its document if it is of the type of
the field. -/
theorem takes_declared {spec : FieldSpec} (declared : spec ∈ configuration.fields)
    (value : FieldValue) :
    configuration.layout.takes spec.name value = spec.layoutField.content.takes value := by
  have found := configuration.find?_layout (configuration.layoutField_mem declared)
  rw [spec.name_layoutField] at found
  rw [Layout.takes, configuration.isReserved_declared declared, found]
  rfl

/-- The document of an entity has in a declared field what the entity offers there, in the
same order. -/
theorem valuesOf_declared {spec : FieldSpec} (declared : spec ∈ configuration.fields)
    (entity : Entity) :
    (configuration.layout.documentFor entity).document.valuesOf spec.name =
      ((entity.values.filter fun offer => offer.1 == spec.name).map (·.2)).filter
        spec.layoutField.content.takes := by
  have notReserved := configuration.isReserved_declared declared
  have notCore : ∀ name ∈ CoreField.names, name ≠ spec.name := by
    rintro name core rfl
    rw [isReserved, List.contains_iff_mem.2 core] at notReserved
    cases notReserved
  have stamped : (configuration.layout.documentFor entity).document.valuesOf spec.name =
      (configuration.layout.collect entity.values).valuesOf spec.name := by
    have noKind := notCore CoreField.kind (by decide)
    have noEntity := notCore CoreField.entity (by decide)
    have noProject := notCore CoreField.project (by decide)
    simp only [Layout.documentFor, EntityDocument.stamp, Document.valuesOf_add, noKind, noEntity,
      noProject, if_false, List.append_nil]
  rw [stamped, Document.valuesOf, Layout.values_collect, List.filter_filter, List.filter_map,
    List.filter_filter]
  congr 1
  refine List.filter_congr fun offer _ => ?_
  rw [Bool.and_comm, Function.comp_apply]
  by_cases same : offer.1 = spec.name
  · rw [same, configuration.takes_declared declared]
  · rw [beq_eq_false_iff_ne.2 same, Bool.and_false, Bool.and_false]

theorem mem_valuesOf_declared {spec : FieldSpec} (declared : spec ∈ configuration.fields)
    {value : FieldValue} (taken : spec.layoutField.content.takes value = true)
    (entity : Entity) :
    value ∈ (configuration.layout.documentFor entity).document.valuesOf spec.name ↔
      (spec.name, value) ∈ entity.values := by
  rw [configuration.valuesOf_declared declared, List.mem_filter, List.mem_map]
  constructor
  · rintro ⟨⟨⟨name, value⟩, offered, same⟩, -⟩
    obtain ⟨inside, named⟩ := List.mem_filter.1 offered
    rw [← beq_iff_eq.1 named, ← same]
    exact inside
  · intro offered
    exact ⟨⟨_, List.mem_filter.2 ⟨offered, beq_self_eq_true _⟩, rfl⟩, taken⟩

theorem text_mem_valuesOf {spec : FieldSpec} (declared : spec ∈ configuration.fields)
    (textual : spec.kind.isTextual = true) (entity : Entity) (text : String) :
    .text text ∈ (configuration.layout.documentFor entity).document.valuesOf spec.name ↔
      (spec.name, .text text) ∈ entity.values := by
  have taken : spec.layoutField.content.takes (.text text) = true := by
    obtain ⟨name, kind⟩ := spec
    cases kind with
    | text stored => rfl
    | keyword => rfl
    | unsigned => cases textual
    | signed => cases textual
  exact configuration.mem_valuesOf_declared declared taken entity

/-! ### Postings -/

theorem mem_postings {field : LayoutField} (inside : field ∈ configuration.layout.fields)
    (document : Document) {posting : Posting} (named : posting.field = field.name) :
    posting ∈ configuration.layout.postings document ↔
      posting ∈ field.postings (document.valuesOf field.name) := by
  rw [Layout.postings, List.mem_flatMap]
  constructor
  · rintro ⟨other, otherInside, made⟩
    have same := (LayoutField.field_of_mem_postings made).symm.trans named
    rw [configuration.eq_of_name_eq inside otherInside same] at made
    exact made
  · exact fun made => ⟨field, inside, made⟩

end IndexConfiguration

/-- Every value of an analysed field has its terms in the postings, at their places counted
from a base of its own. -/
theorem exists_base_wordPostings (field : String) (start : Nat) {values : List FieldValue}
    {text : String} (inside : .text text ∈ values) :
    ∃ base, ∀ placed ∈ Analysis.analyze text,
      (⟨field, .text placed.term, base + placed.position⟩ : Posting) ∈
        wordPostings field start values := by
  induction values generalizing start with
  | nil => cases inside
  | cons value values ih =>
      cases value with
      | text other =>
          rcases List.mem_cons.1 inside with here | later
          · cases here
            exact ⟨start, fun placed isPlaced =>
              List.mem_append_left _ (List.mem_map_of_mem isPlaced)⟩
          · obtain ⟨base, found⟩ := ih (nextBase start (Analysis.analyze other)) later
            exact ⟨base, fun placed isPlaced => List.mem_append_right _ (found placed isPlaced)⟩
      | unsigned number =>
          rcases List.mem_cons.1 inside with here | later
          · cases here
          · exact ih start later
      | signed number =>
          rcases List.mem_cons.1 inside with here | later
          · cases here
          · exact ih start later

namespace IndexConfiguration

variable (configuration : IndexConfiguration)

/-- In a field of values taken whole, the terms of a document are its values there that are
short enough for a term. -/
theorem hasValue_whole {field : LayoutField} (inside : field ∈ configuration.layout.fields)
    (whole : ∀ values, field.postings values = valuePostings field.name values)
    (document : Document) (test : FieldValue → Bool) :
    hasValue (configuration.layout.postings document) field.name test = true ↔
      ∃ value ∈ document.valuesOf field.name, value.fitsTerm = true ∧ test value = true := by
  rw [hasValue, List.any_eq_true]
  constructor
  · rintro ⟨posting, found, matched⟩
    obtain ⟨named, passes⟩ := Bool.and_eq_true_iff.1 matched
    rw [configuration.mem_postings inside document (beq_iff_eq.1 named), whole] at found
    obtain ⟨value, kept, rfl⟩ := List.mem_map.1 found
    obtain ⟨isValue, fits⟩ := List.mem_filter.1 kept
    exact ⟨value, isValue, fits, passes⟩
  · rintro ⟨value, isValue, fits, passes⟩
    refine ⟨⟨field.name, value, 0⟩, ?_, Bool.and_eq_true_iff.2 ⟨beq_self_eq_true _, passes⟩⟩
    rw [configuration.mem_postings inside document rfl, whole]
    exact List.mem_map.2 ⟨value, List.mem_filter.2 ⟨isValue, fits⟩, rfl⟩

theorem hasValue_keyword {spec : FieldSpec} (declared : spec ∈ configuration.fields)
    (whole : spec.kind = .keyword) (document : Document) (text : String) :
    hasValue (configuration.layout.postings document) spec.name (· == .text text) = true ↔
      .text text ∈ document.valuesOf spec.name ∧ (FieldValue.text text).fitsTerm = true := by
  have postings (values : List FieldValue) :
      spec.layoutField.postings values = valuePostings spec.layoutField.name values := by
    rw [spec.name_layoutField, LayoutField.postings, FieldSpec.layoutField, whole]
  have terms := configuration.hasValue_whole (configuration.layoutField_mem declared) postings
    document (· == .text text)
  rw [spec.name_layoutField] at terms
  rw [terms]
  constructor
  · rintro ⟨value, isValue, fits, same⟩
    obtain rfl := beq_iff_eq.1 same
    exact ⟨isValue, fits⟩
  · rintro ⟨isValue, fits⟩
    exact ⟨_, isValue, fits, beq_self_eq_true _⟩

/-- A document has the terms of each of its analysed values one behind the other. -/
theorem exists_base_postings {spec : FieldSpec} (declared : spec ∈ configuration.fields)
    {stored : Bool} (analysed : spec.kind = .text stored) (document : Document) {text : String}
    (inside : .text text ∈ document.valuesOf spec.name) :
    ∃ base, ∀ placed ∈ Analysis.analyze text,
      (⟨spec.name, .text placed.term, base + placed.position⟩ : Posting) ∈
        configuration.layout.postings document := by
  have postings : spec.layoutField.postings (document.valuesOf spec.name) =
      wordPostings spec.name 0 (document.valuesOf spec.name) := by
    rw [LayoutField.postings, FieldSpec.layoutField, analysed]
  obtain ⟨base, found⟩ := exists_base_wordPostings spec.name 0 inside
  refine ⟨base, fun placed isPlaced => ?_⟩
  rw [configuration.mem_postings (configuration.layoutField_mem declared) document
    spec.name_layoutField.symm, spec.name_layoutField, postings]
  exact found placed isPlaced

end IndexConfiguration

end EntitySearch
