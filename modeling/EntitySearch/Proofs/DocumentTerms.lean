import EntitySearch.Proofs.CommittedDocuments
import EntitySearch.Schema.Configuration

/-!
# Terms of documents

Under an accepted configuration the core fields belong to the index alone: no
declared field has the name of one, and no value that an entity offers enters
one.  The terms by which changes delete are therefore exactly the values that
the index stamps on its documents.
-/

namespace EntitySearch

theorem fieldFault?_cons_eq_none_iff {earlier : List String} {spec : FieldSpec}
    {specs : List FieldSpec} :
    fieldFault? earlier (spec :: specs) = none ↔
      isFieldName spec.name = true ∧ isReserved spec.name = false ∧ spec.name ∉ earlier ∧
        fieldFault? (spec.name :: earlier) specs = none := by
  rw [fieldFault?]
  split
  case isTrue unnamed => simp_all
  case isFalse named =>
    split
    case isTrue reserved => simp_all
    case isFalse notReserved =>
      split
      case isTrue repeated => simp_all
      case isFalse new => simp_all

/-- Fields pass the check if their names can name fields, belong to no core field and were not
taken before, and no two of them are the same. -/
theorem fieldFault?_eq_none_iff {earlier : List String} {specs : List FieldSpec} :
    fieldFault? earlier specs = none ↔
      (specs.map (·.name)).Nodup ∧ ∀ spec ∈ specs, isFieldName spec.name = true ∧
        isReserved spec.name = false ∧ spec.name ∉ earlier := by
  induction specs generalizing earlier with
  | nil => simp [fieldFault?]
  | cons first specs ih =>
      rw [fieldFault?_cons_eq_none_iff, ih, List.map_cons, List.nodup_cons]
      constructor
      · rintro ⟨named, notReserved, new, distinct, others⟩
        refine ⟨⟨fun repeated => ?_, distinct⟩, fun spec declared => ?_⟩
        · obtain ⟨spec, later, same⟩ := List.mem_map.1 repeated
          exact (others spec later).2.2 (same ▸ List.mem_cons_self)
        · rcases List.mem_cons.1 declared with rfl | later
          · exact ⟨named, notReserved, new⟩
          · obtain ⟨isNamed, isNotReserved, isNew⟩ := others spec later
            exact ⟨isNamed, isNotReserved, fun taken => isNew (List.mem_cons_of_mem _ taken)⟩
      · rintro ⟨⟨alone, distinct⟩, all⟩
        obtain ⟨named, notReserved, new⟩ := all first List.mem_cons_self
        refine ⟨named, notReserved, new, distinct, fun spec later => ?_⟩
        obtain ⟨isNamed, isNotReserved, isNew⟩ := all spec (List.mem_cons_of_mem _ later)
        refine ⟨isNamed, isNotReserved, fun taken => ?_⟩
        rcases List.mem_cons.1 taken with same | before
        · exact alone (List.mem_map.2 ⟨spec, later, same⟩)
        · exact isNew before

theorem defaultFieldFault?_eq_none_iff {fields : List FieldSpec} {name : String} :
    defaultFieldFault? fields name = none ↔
      ∃ spec, fields.find? (·.name == name) = some spec ∧ spec.kind.isTextual = true := by
  rw [defaultFieldFault?]
  split
  case h_1 spec found => simp [found]
  case h_2 absent => simp [absent]

/-- A declaration is accepted if every part of it passes its check. -/
theorem IndexDeclaration.fault?_eq_none_iff {declaration : IndexDeclaration} :
    declaration.fault? = none ↔
      Text.trimBlanks declaration.typeName.toList ≠ [] ∧
        isIndexName declaration.effectiveIndexName = true ∧
        fieldFault? [] declaration.fields = none ∧
        (∀ name ∈ declaration.defaultFields, defaultFieldFault? declaration.fields name = none) ∧
        declaration.hasExtractor = true := by
  rw [fault?]
  split
  case isTrue untyped => simp_all
  case isFalse typed =>
    split
    case isTrue unnamed => simp_all
    case isFalse named =>
      rw [Bool.not_eq_true', Bool.not_eq_false] at named
      rw [Option.or_eq_none_iff, Option.or_eq_none_iff, List.findSome?_eq_none_iff]
      simp_all

namespace IndexConfiguration

theorem faultless (configuration : IndexConfiguration) :
    fieldFault? [] configuration.fields = none ∧
      ∀ name ∈ configuration.defaultFields,
        defaultFieldFault? configuration.fields name = none := by
  obtain ⟨-, -, fieldsPass, defaultsPass, -⟩ :=
    IndexDeclaration.fault?_eq_none_iff.1 configuration.accepted
  exact ⟨fieldsPass, defaultsPass⟩

variable (configuration : IndexConfiguration) {spec : FieldSpec}

theorem nodup_names : (configuration.fields.map (·.name)).Nodup :=
  (fieldFault?_eq_none_iff.1 configuration.faultless.1).1

theorem isFieldName_declared (declared : spec ∈ configuration.fields) :
    isFieldName spec.name = true :=
  ((fieldFault?_eq_none_iff.1 configuration.faultless.1).2 spec declared).1

theorem isReserved_declared (declared : spec ∈ configuration.fields) :
    isReserved spec.name = false :=
  ((fieldFault?_eq_none_iff.1 configuration.faultless.1).2 spec declared).2.1

end IndexConfiguration

theorem field_of_mem_wordPostings {field : String} {base : Nat} {values : List FieldValue}
    {posting : Posting} (inside : posting ∈ wordPostings field base values) :
    posting.field = field := by
  induction values generalizing base with
  | nil => simp [wordPostings] at inside
  | cons value values ih =>
      cases value with
      | text value =>
          rw [wordPostings, List.mem_append] at inside
          rcases inside with here | later
          · obtain ⟨placed, _, made⟩ := List.mem_map.1 here
            rw [← made]
          · exact ih later
      | unsigned value => exact ih inside
      | signed value => exact ih inside

theorem field_of_mem_valuePostings {field : String} {values : List FieldValue}
    {posting : Posting} (inside : posting ∈ valuePostings field values) :
    posting.field = field := by
  obtain ⟨value, _, made⟩ := List.mem_map.1 inside
  rw [← made]

/-- The postings of a layout field carry its name. -/
theorem LayoutField.field_of_mem_postings {field : LayoutField} {values : List FieldValue}
    {posting : Posting} (inside : posting ∈ field.postings values) :
    posting.field = field.name := by
  unfold postings at inside
  split at inside
  · exact field_of_mem_wordPostings inside
  · exact field_of_mem_valuePostings inside
  · exact field_of_mem_valuePostings inside
  · exact field_of_mem_valuePostings inside
  · simp at inside

theorem any_valuePostings (field : String) (values : List FieldValue) (value : FieldValue) :
    ((valuePostings field values).any fun posting =>
      posting.field == field && posting.value == value) =
        (values.contains value && value.fitsTerm) := by
  simp only [valuePostings, List.any_map, List.any_filter, Function.comp_def, beq_self_eq_true,
    Bool.true_and]
  rw [Bool.eq_iff_iff, List.any_eq_true, Bool.and_eq_true, List.contains_iff_mem]
  constructor
  · rintro ⟨other, inside, found⟩
    rw [Bool.and_eq_true, beq_iff_eq] at found
    obtain ⟨fits, rfl⟩ := found
    exact ⟨inside, fits⟩
  · rintro ⟨inside, fits⟩
    exact ⟨value, inside, by simp [fits]⟩

theorem DocumentKind.fitsTerm_name (kind : DocumentKind) :
    (FieldValue.text kind.name).fitsTerm = true := by
  cases kind <;> decide

namespace Layout

theorem any_postings_of_ne {field : LayoutField} {name : String} (different : field.name ≠ name)
    (values : List FieldValue) (value : FieldValue) :
    ((field.postings values).any fun posting =>
      posting.field == name && posting.value == value) = false := by
  rw [List.any_eq_false]
  intro posting inside found
  rw [Bool.and_eq_true, beq_iff_eq, LayoutField.field_of_mem_postings inside] at found
  exact different found.1

end Layout

namespace IndexConfiguration

variable (configuration : IndexConfiguration)

theorem any_declared_postings {name : String} (reserved : isReserved name = true)
    (document : Document) (value : FieldValue) :
    (((configuration.fields.map FieldSpec.layoutField).flatMap fun field =>
        field.postings (document.valuesOf field.name)).any fun posting =>
      posting.field == name && posting.value == value) = false := by
  rw [List.any_flatMap, List.any_eq_false]
  intro field inside found
  obtain ⟨spec, declared, made⟩ := List.mem_map.1 inside
  have sameName : field.name = spec.name := by
    rw [← made]
    unfold FieldSpec.layoutField
    split <;> rfl
  have notReserved := configuration.isReserved_declared declared
  have different : field.name ≠ name := by
    intro same
    rw [← sameName, same, reserved] at notReserved
    exact Bool.noConfusion notReserved
  rw [Layout.any_postings_of_ne different] at found
  exact Bool.noConfusion found

/-- The terms of a document in a core field that is searched are its values of the field. -/
theorem hasTerm_core {name : String}
    (searched : name = CoreField.kind ∨ name = CoreField.entity ∨ name = CoreField.project)
    (document : Document) {value : FieldValue} (fits : value.fitsTerm = true) :
    (configuration.layout.index document).hasTerm name value =
      (document.valuesOf name).contains value := by
  have reserved : isReserved name = true := by
    rcases searched with rfl | rfl | rfl <;> decide
  have declared := configuration.any_declared_postings reserved document value
  simp only [IndexedDocument.hasTerm, Layout.index, Layout.postings, layout, Layout.ofSpecs,
    Layout.coreFields, List.flatMap_append, List.any_append, declared, Bool.or_false,
    List.flatMap_cons, List.flatMap_nil, List.append_nil]
  -- Only the field of the name itself is left; its values are taken whole.
  rcases searched with rfl | rfl | rfl <;>
    simp (disch := decide) only [Layout.any_postings_of_ne, Bool.false_or, Bool.or_false] <;>
    exact (any_valuePostings _ _ _).trans (by rw [fits, Bool.and_true])

end IndexConfiguration

namespace Document

@[simp]
theorem valuesOf_empty (name : String) : empty.valuesOf name = [] := rfl

theorem valuesOf_add (document : Document) (added name : String) (value : FieldValue) :
    (document.add added value).valuesOf name =
      document.valuesOf name ++ if added = name then [value] else [] := by
  by_cases same : added = name <;> simp [valuesOf, add, same]

end Document

namespace Layout

theorem values_collect (layout : Layout) (offered : List (String × FieldValue)) :
    (layout.collect offered).values = offered.filter fun offer => layout.takes offer.1 offer.2 := by
  have collected : ∀ document : Document,
      (offered.foldl (fun document offer =>
        if layout.takes offer.1 offer.2 then document.add offer.1 offer.2 else document)
        document).values =
      document.values ++ offered.filter fun offer => layout.takes offer.1 offer.2 := by
    induction offered with
    | nil => exact fun document => (List.append_nil document.values).symm
    | cons offer offered ih =>
        intro document
        rw [List.foldl_cons, ih, List.filter_cons]
        split
        · simp [Document.add]
        · rfl
  exact (collected Document.empty).trans (List.nil_append _)

theorem valuesOf_collect_of_refused (layout : Layout) (offered : List (String × FieldValue))
    {name : String} (refuses : ∀ value, layout.takes name value = false) :
    (layout.collect offered).valuesOf name = [] := by
  rw [Document.valuesOf, values_collect, List.filter_filter, List.map_eq_nil_iff,
    List.filter_eq_nil_iff]
  rintro ⟨other, value⟩ _ kept
  rw [Bool.and_eq_true, beq_iff_eq] at kept
  obtain ⟨rfl, taken⟩ := kept
  rw [refuses] at taken
  cases taken

theorem valuesOf_collect (layout : Layout) (offered : List (String × FieldValue)) {name : String}
    (reserved : isReserved name = true) : (layout.collect offered).valuesOf name = [] :=
  layout.valuesOf_collect_of_refused offered fun _ => by simp [takes, reserved]

section Stamps

variable (layout : Layout) (entity : Entity)

/-- In a reserved field the document of an entity has what it was stamped with. -/
theorem valuesOf_documentFor {name : String} (reserved : isReserved name = true) :
    (layout.documentFor entity).document.valuesOf name =
      (if CoreField.kind = name then [FieldValue.text DocumentKind.entity.name] else []) ++
        (if CoreField.entity = name then [FieldValue.unsigned entity.id] else []) ++
          if CoreField.project = name then [FieldValue.unsigned entity.project] else [] := by
  simp only [documentFor, EntityDocument.stamp, Document.valuesOf_add,
    layout.valuesOf_collect entity.values reserved, List.nil_append]

theorem kind_documentFor :
    (layout.documentFor entity).document.valuesOf CoreField.kind =
      [.text DocumentKind.entity.name] := by
  have reserved : isReserved CoreField.kind = true := by decide
  rw [layout.valuesOf_documentFor entity reserved]
  simp [CoreField.kind, CoreField.entity, CoreField.project]

theorem entity_documentFor :
    (layout.documentFor entity).document.valuesOf CoreField.entity = [.unsigned entity.id] := by
  have reserved : isReserved CoreField.entity = true := by decide
  rw [layout.valuesOf_documentFor entity reserved]
  simp [CoreField.kind, CoreField.entity, CoreField.project]

theorem project_documentFor :
    (layout.documentFor entity).document.valuesOf CoreField.project =
      [.unsigned entity.project] := by
  have reserved : isReserved CoreField.project = true := by decide
  rw [layout.valuesOf_documentFor entity reserved]
  simp [CoreField.kind, CoreField.entity, CoreField.project]

end Stamps

end Layout

namespace IndexChange

/-- Whether the change removes the document of an entity from an index. -/
def removes (change : IndexChange) (document : EntityDocument) : Bool :=
  match change with
  | .upsert newer => newer.id == document.id
  | .deleteEntity id => id == document.id
  | .deleteProject project => project == document.project
  | .putSchemaMarker _ => false
  | .putProgressMark _ => false

variable (configuration : IndexConfiguration)

theorem target_searched (change : IndexChange) :
    change.target.1 = CoreField.kind ∨ change.target.1 = CoreField.entity ∨
      change.target.1 = CoreField.project := by
  cases change with
  | upsert document => exact Or.inr (Or.inl rfl)
  | deleteEntity id => exact Or.inr (Or.inl rfl)
  | deleteProject project => exact Or.inr (Or.inr rfl)
  | putSchemaMarker version => exact Or.inl rfl
  | putProgressMark mark => exact Or.inl rfl

theorem fitsTerm_target (change : IndexChange) : change.target.2.fitsTerm = true := by
  cases change with
  | upsert document => rfl
  | deleteEntity id => rfl
  | deleteProject project => rfl
  | putSchemaMarker version => exact DocumentKind.schemaMarker.fitsTerm_name
  | putProgressMark mark => exact DocumentKind.progressMarker.fitsTerm_name

theorem targets_eq (change : IndexChange) (document : Document) :
    change.targets configuration.layout document =
      (document.valuesOf change.target.1).contains change.target.2 :=
  configuration.hasTerm_core change.target_searched document change.fitsTerm_target

/-- A change targets the document of an entity exactly if it removes it by its identifier or
its project. -/
theorem targets_documentFor (change : IndexChange) (entity : Entity) :
    change.targets configuration.layout (configuration.layout.documentFor entity).document =
      change.removes (configuration.layout.documentFor entity) := by
  rw [targets_eq, Bool.eq_iff_iff]
  cases change with
  | upsert document =>
      simp only [target, configuration.layout.entity_documentFor entity, removes]
      simp [Layout.documentFor, EntityDocument.stamp]
  | deleteEntity id =>
      simp only [target, configuration.layout.entity_documentFor entity, removes]
      simp [Layout.documentFor, EntityDocument.stamp]
  | deleteProject project =>
      simp only [target, configuration.layout.project_documentFor entity, removes]
      simp [Layout.documentFor, EntityDocument.stamp]
  | putSchemaMarker version =>
      simp only [target, configuration.layout.kind_documentFor entity, removes]
      decide
  | putProgressMark mark =>
      simp only [target, configuration.layout.kind_documentFor entity, removes]
      decide

end IndexChange

end EntitySearch
