import EntitySearch.Proofs.DeclaredFields

/-!
# Stamped documents

An entity offers values under any names and of any types.  Under an accepted
configuration a value finds its way into the document only under a declared name and
only if it is of the type of that field.  What the index stamps on the document is
therefore all that the document has in the core fields, whatever was offered before.
-/

namespace EntitySearch

def FieldKind.holds : FieldKind → FieldValue → Bool
  | .text _, .text _ => true
  | .keyword, .text _ => true
  | .unsigned, .unsigned _ => true
  | .signed, .signed _ => true
  | _, _ => false

theorem FieldSpec.takes_layoutField (spec : FieldSpec) (value : FieldValue) :
    spec.layoutField.content.takes value = spec.kind.holds value := by
  obtain ⟨name, kind⟩ := spec
  cases kind <;> cases value <;> rfl

/-- The values that are offered under the name of a field and are of its type. -/
def FieldSpec.valuesIn (spec : FieldSpec) (offered : List (String × FieldValue)) :
    List FieldValue :=
  (offered.filter fun offer => offer.1 == spec.name && spec.kind.holds offer.2).map (·.2)

namespace Layout

variable (layout : Layout) (entity : Entity) {name : String}

theorem valuesOf_collect_of_unknown (unknown : layout.find? name = none)
    (offered : List (String × FieldValue)) : (layout.collect offered).valuesOf name = [] :=
  layout.valuesOf_collect_of_refused offered fun _ => by simp [takes, unknown]

theorem schemaVersion_documentFor :
    (layout.documentFor entity).document.valuesOf CoreField.schemaVersion = [] := by
  have reserved : isReserved CoreField.schemaVersion = true := by decide
  rw [layout.valuesOf_documentFor entity reserved]
  simp [CoreField.kind, CoreField.entity, CoreField.project, CoreField.schemaVersion]

theorem progressMark_documentFor :
    (layout.documentFor entity).document.valuesOf CoreField.progressMark = [] := by
  have reserved : isReserved CoreField.progressMark = true := by decide
  rw [layout.valuesOf_documentFor entity reserved]
  simp [CoreField.kind, CoreField.entity, CoreField.project, CoreField.progressMark]

end Layout

namespace IndexConfiguration

variable (configuration : IndexConfiguration) (entity : Entity)

theorem valuesOf_of_declared {spec : FieldSpec} (declared : spec ∈ configuration.fields) :
    (configuration.layout.documentFor entity).document.valuesOf spec.name =
      spec.valuesIn entity.values := by
  rw [configuration.valuesOf_declared declared, FieldSpec.valuesIn, List.filter_map,
    List.filter_filter]
  congr 1
  apply List.filter_congr
  intro offer _
  rw [Bool.and_comm, Function.comp_apply, spec.takes_layoutField]

theorem find?_layout_of_undeclared {name : String} (notCore : name ∉ CoreField.names)
    (undeclared : name ∉ configuration.fields.map (·.name)) :
    configuration.layout.find? name = none := by
  apply List.find?_eq_none.2
  intro field inside named
  obtain rfl := beq_iff_eq.1 named
  rcases List.mem_append.1 (List.mem_reverse.1 inside) with core | declared
  · exact notCore (List.mem_map_of_mem core)
  · obtain ⟨spec, isSpec, rfl⟩ := List.mem_map.1 declared
    exact undeclared (List.mem_map.2 ⟨spec, isSpec, spec.name_layoutField.symm⟩)

theorem valuesOf_of_undeclared {name : String} (notCore : name ∉ CoreField.names)
    (undeclared : name ∉ configuration.fields.map (·.name)) :
    (configuration.layout.documentFor entity).document.valuesOf name = [] := by
  have noStamp : ∀ core ∈ CoreField.names, core ≠ name := by
    rintro core isCore rfl
    exact notCore isCore
  have unknown := configuration.find?_layout_of_undeclared notCore undeclared
  simp only [Layout.documentFor, EntityDocument.stamp, Document.valuesOf_add,
    configuration.layout.valuesOf_collect_of_unknown unknown, List.nil_append]
  simp [noStamp CoreField.kind (by decide), noStamp CoreField.entity (by decide),
    noStamp CoreField.project (by decide)]

/-- Whatever is offered, the document has the core values that the index stamps on it and no
others, every declared field has what was offered to it, in the same order, and there is nothing
else in the document. -/
theorem offers_forge_nothing (id : EntityId) (project : ProjectId)
    (offered : List (String × FieldValue)) :
    let built := EntityDocument.stamp id project (configuration.layout.collect offered)
    built.id = id ∧ built.project = project ∧
      built.document.valuesOf CoreField.kind = [.text DocumentKind.entity.name] ∧
      built.document.valuesOf CoreField.entity = [.unsigned id] ∧
      built.document.valuesOf CoreField.project = [.unsigned project] ∧
      built.document.valuesOf CoreField.schemaVersion = [] ∧
      built.document.valuesOf CoreField.progressMark = [] ∧
      (∀ spec ∈ configuration.fields,
        built.document.valuesOf spec.name = spec.valuesIn offered) ∧
      ∀ name, name ∉ CoreField.names → name ∉ configuration.fields.map (·.name) →
        built.document.valuesOf name = [] := by
  let entity : Entity := ⟨id, project, offered⟩
  exact ⟨rfl, rfl, configuration.layout.kind_documentFor entity,
    configuration.layout.entity_documentFor entity,
    configuration.layout.project_documentFor entity,
    configuration.layout.schemaVersion_documentFor entity,
    configuration.layout.progressMark_documentFor entity,
    fun spec declared => configuration.valuesOf_of_declared entity declared,
    fun name notCore undeclared => configuration.valuesOf_of_undeclared entity notCore undeclared⟩

end IndexConfiguration

def ticketConfiguration : IndexConfiguration where
  declaration :=
    { typeName := "ticket", indexName := none, version := 1
      fields :=
        [⟨"title", .text true⟩, ⟨"state", .keyword⟩, ⟨"size", .unsigned⟩, ⟨"votes", .signed⟩]
      defaultFields := []
      hasExtractor := true }
  accepted := by decide +kernel

/-- Offers that try to pass for core values, and offers of wrong types between right ones. -/
def forgedOffers : List (String × FieldValue) :=
  [("entity_id", .unsigned 99), ("type", .text "last_entity_id"), ("last_entity_id", .unsigned 5),
    ("state", .unsigned 1), ("state", .text "open"), ("size", .signed 3), ("state", .text "new"),
    ("votes", .unsigned 4), ("votes", .signed (-4)), ("project_id", .unsigned 8)]

theorem forged_offers_forge_nothing :
    let offered := ticketConfiguration.layout.collect forgedOffers
    let document := (EntityDocument.stamp 7 3 offered).document
    document.valuesOf "type" = [.text "entity"] ∧ document.valuesOf "entity_id" = [.unsigned 7] ∧
      document.valuesOf "project_id" = [.unsigned 3] ∧ document.valuesOf "last_entity_id" = [] ∧
      document.valuesOf "state" = [.text "open", .text "new"] ∧
      document.valuesOf "votes" = [.signed (-4)] ∧ document.valuesOf "author" = [] := by
  obtain ⟨-, -, kind, entity, project, -, mark, declared, undeclared⟩ :=
    ticketConfiguration.offers_forge_nothing 7 3 forgedOffers
  exact ⟨kind, entity, project, mark, declared ⟨"state", .keyword⟩ (by decide +kernel),
    declared ⟨"votes", .signed⟩ (by decide +kernel),
    undeclared "author" (by decide) (by decide +kernel)⟩

end EntitySearch
