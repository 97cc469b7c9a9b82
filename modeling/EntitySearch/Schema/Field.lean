/-!
# Declared fields

The kinds of field that an entity type can declare, and the names that it
cannot: every index has five core fields of its own.
-/

namespace EntitySearch

/-- What a declared field holds. -/
inductive FieldKind
  | text (stored : Bool)
  | keyword
  | unsigned
  | signed
deriving Repr, DecidableEq

structure FieldSpec where
  name : String
  kind : FieldKind
deriving Repr, DecidableEq

/-- Whether queries read the field as text, analysed or whole. -/
def FieldKind.isTextual : FieldKind → Bool
  | .text _ => true
  | .keyword => true
  | .unsigned => false
  | .signed => false

namespace CoreField

/-- The field that tells entity documents and the two markers apart. -/
def kind : String := "type"

/-- The field with the identifier of an entity document. -/
def entity : String := "entity_id"

def project : String := "project_id"

def schemaVersion : String := "index_version"

/-- The field with the highest scanned identifier on the progress marker. -/
def progressMark : String := "last_entity_id"

/-- The core fields in the order in which every layout lists them. -/
def names : List String := [kind, entity, project, schemaVersion, progressMark]

end CoreField

def isReserved (name : String) : Bool :=
  CoreField.names.contains name

end EntitySearch
