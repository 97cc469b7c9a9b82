import EntitySearch.Cluster.Broadcast
import EntitySearch.Cluster.Ranking

/-!
# Coordinated queries

A coordinator asks every node about one index and merges the answers.  To give a
page of the ranking it asks each node for as many hits as the page and all pages
before it hold.
-/

namespace EntitySearch

/-- How many leading hits hold a page, at most the greatest 64-bit number. -/
def windowEnd (offset limit : UInt64) : UInt64 :=
  if offset.toNat + limit.toNat < UInt64.size then offset + limit else -1

/-- A question to all nodes about one index. -/
inductive Inquiry
  | count (query : String)
  | search (query : String) (offset limit : UInt64)
  | deleteProject (project : ProjectId)
deriving Repr, DecidableEq

/-- The task that is sent to every node; a page without entries needs none. -/
def Inquiry.task? (index : String) : Inquiry → Option ClusterTask
  | .count query => some (.count index query)
  | .search query offset limit =>
      if limit = 0 then none else some (.search index query (windowEnd offset limit))
  | .deleteProject project => some (.deleteProject index project)

namespace Gathered

/-- The number of hits that the nodes count together. -/
def total (gathered : Gathered) : UInt64 :=
  sumCounts gathered.responses.values

/-- The page of the ranking over all answers. -/
def page (gathered : Gathered) (offset limit : UInt64) : List EntityId :=
  rankWindow (mergeScores gathered.responses.values) offset limit

end Gathered

end EntitySearch
