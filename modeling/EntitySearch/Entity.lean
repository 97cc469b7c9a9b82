/-!
# Entities

What the application stores and the index makes searchable: an entity belongs
to a project and offers a list of named values.  A name may occur several times,
and the order of the values is kept.
-/

namespace EntitySearch

/-- The number that identifies an entity of one type. -/
abbrev EntityId := UInt64

/-- The number that identifies a project. -/
abbrev ProjectId := UInt64

inductive FieldValue
  | text (value : String)
  | unsigned (value : UInt64)
  | signed (value : Int64)
deriving Repr, DecidableEq

/-- A stored entity with the values that it offers to the index, in order. -/
structure Entity where
  id : EntityId
  project : ProjectId
  values : List (String × FieldValue)
deriving Repr, DecidableEq

end EntitySearch
