import EntitySearch.Collection.Table
import EntitySearch.Entity
import EntitySearch.Numeric.Single

/-!
# Messages between nodes

A node asks another one to count or search the documents of an index or to
remove a project from it, and is answered with a number, with scored entities or
with the news that the work is done.
-/

namespace EntitySearch

abbrev NodeAddress := String

/-- What a node can be asked to do with one of its indexes. -/
inductive ClusterTask
  | count (index query : String)
  | search (index query : String) (limit : UInt64)
  | deleteProject (index : String) (project : ProjectId)
deriving Repr, DecidableEq

namespace ClusterTask

def index : ClusterTask → String
  | .count index _ => index
  | .search index _ _ => index
  | .deleteProject index _ => index

def operation : ClusterTask → String
  | .count _ _ => "count"
  | .search _ _ _ => "search"
  | .deleteProject _ _ => "delete_project"

end ClusterTask

abbrev ScoredEntities := Table EntityId Numeric.Single

inductive ClusterResponse
  | count (number : UInt64)
  | scores (hits : ScoredEntities)
  | done

end EntitySearch
