import EntitySearch.Document.Kind
import EntitySearch.Entity
import EntitySearch.Schema.Layout

/-!
# Index documents

A document is a list of field values in the order in which they were added.  An
entity document starts with the values that the entity offers and the layout
takes; the three core values are stamped behind them.  Values offered for a core
field, for an unknown field or of another type than the field's are dropped.
-/

namespace EntitySearch

/-- The values of one document, in the order in which they were added. -/
structure Document where
  values : List (String × FieldValue)
deriving Repr, DecidableEq

namespace Document

def empty : Document := ⟨[]⟩

def add (document : Document) (name : String) (value : FieldValue) : Document :=
  ⟨document.values ++ [(name, value)]⟩

def valuesOf (document : Document) (name : String) : List FieldValue :=
  (document.values.filter (·.1 == name)).map (·.2)

/-- The first value of a field, if it is an unsigned integer. -/
def storedUnsigned? (document : Document) (name : String) : Option UInt64 :=
  match document.valuesOf name with
  | .unsigned value :: _ => some value
  | _ => none

/-- The marker with the version of the index contents. -/
def schemaMarker (version : UInt64) : Document :=
  ⟨[(CoreField.kind, .text DocumentKind.schemaMarker.name),
    (CoreField.schemaVersion, .unsigned version)]⟩

/-- The marker with the highest scanned identifier. -/
def progressMarker (mark : EntityId) : Document :=
  ⟨[(CoreField.kind, .text DocumentKind.progressMarker.name),
    (CoreField.progressMark, .unsigned mark)]⟩

end Document

/-- Whether the field takes values of this type. -/
def FieldContent.takes : FieldContent → FieldValue → Bool
  | .text _, .text _ => true
  | .unsigned _ _, .unsigned _ => true
  | .signed _ _, .signed _ => true
  | _, _ => false

/-- Whether a value offered under a name enters an entity document. -/
def Layout.takes (layout : Layout) (name : String) (value : FieldValue) : Bool :=
  !isReserved name && (layout.find? name).any (·.content.takes value)

def Layout.collect (layout : Layout) (offered : List (String × FieldValue)) : Document :=
  offered.foldl
    (fun document offer =>
      if layout.takes offer.1 offer.2 then document.add offer.1 offer.2 else document)
    Document.empty

/-- A document of an entity, complete with its core values. -/
structure EntityDocument where
  id : EntityId
  project : ProjectId
  document : Document
deriving Repr, DecidableEq

/-- Stamps collected values with the kind, the identifier and the project. -/
def EntityDocument.stamp (id : EntityId) (project : ProjectId) (collected : Document) :
    EntityDocument where
  id := id
  project := project
  document :=
    ((collected.add CoreField.kind (.text DocumentKind.entity.name)).add
      CoreField.entity (.unsigned id)).add CoreField.project (.unsigned project)

def Layout.documentFor (layout : Layout) (entity : Entity) : EntityDocument :=
  EntityDocument.stamp entity.id entity.project (layout.collect entity.values)

end EntitySearch
