import EntitySearch.Collection.Table
import EntitySearch.Entity

/-!
# The entity store

The store keeps the latest version of every entity, in ascending order of the
identifiers.
-/

namespace EntitySearch

/-- The stored entities, each under its own identifier. -/
structure EntityStore where
  table : Table EntityId Entity
  keyed : ∀ entry ∈ table.entries, entry.2.id = entry.1

namespace EntityStore

def empty : EntityStore := ⟨Table.empty, by simp [Table.empty]⟩

instance : Inhabited EntityStore := ⟨empty⟩

/-- Stores an entity in place of an earlier version. -/
def save (store : EntityStore) (entity : Entity) : EntityStore where
  table := store.table.set entity.id entity
  keyed := by
    intro entry isEntry
    rcases Table.mem_insertEntry isEntry with same | earlier
    · simp [same]
    · exact store.keyed entry earlier

def filter (store : EntityStore) (test : Entity → Bool) : EntityStore where
  table := store.table.filter fun _ entity => test entity
  keyed := fun entry isEntry => store.keyed entry (List.mem_filter.1 isEntry).1

def remove (store : EntityStore) (id : EntityId) : EntityStore where
  table := store.table.erase id
  keyed := fun entry isEntry => store.keyed entry (List.mem_filter.1 isEntry).1

def removeProject (store : EntityStore) (project : ProjectId) : EntityStore :=
  store.filter (·.project ≠ project)

/-- All entities in ascending order of their identifiers. -/
def toList (store : EntityStore) : List Entity :=
  store.table.values

def size (store : EntityStore) : Nat :=
  store.table.size

def load (store : EntityStore) (id : EntityId) : Option Entity :=
  store.table.get? id

/-- The first `limit` entities whose identifiers are greater than `mark`. -/
def queryAfter (store : EntityStore) (mark : EntityId) (limit : Nat) : List Entity :=
  (store.toList.filter (mark < ·.id)).take limit

/-- The entities with the given identifiers, in the order of the request. -/
def queryIds (store : EntityStore) (ids : List EntityId) : List Entity :=
  ids.filterMap store.load

/-- The identifiers of a project's entities in ascending order. -/
def projectIds (store : EntityStore) (project : ProjectId) : List EntityId :=
  (store.toList.filter (·.project = project)).map (·.id)

end EntityStore

end EntitySearch
