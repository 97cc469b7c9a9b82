/-!
# Kinds of document

An index holds entity documents and two markers: one records the version of the
index contents, the other the highest entity identifier that the catch-up scan
has passed.
-/

namespace EntitySearch

inductive DocumentKind
  | schemaMarker
  | progressMarker
  | entity
deriving Repr, DecidableEq

namespace DocumentKind

/-- The term that marks a document of the kind. -/
def name : DocumentKind → String
  | .schemaMarker => "index_version"
  | .progressMarker => "last_entity_id"
  | .entity => "entity"

/-- The kind that a term marks. -/
def ofName? (name : String) : Option DocumentKind :=
  [schemaMarker, progressMarker, entity].find? (·.name == name)

@[simp]
theorem ofName?_name (kind : DocumentKind) : ofName? kind.name = some kind := by
  cases kind <;> rfl

end DocumentKind

end EntitySearch
