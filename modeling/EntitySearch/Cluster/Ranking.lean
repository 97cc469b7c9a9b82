import EntitySearch.Cluster.Message

/-!
# Merging and ranking answers

The answers of the nodes are merged into one ranking.  An entity that several
nodes report counts with its best score.  The ranking puts the better score
first and the smaller identifier first among equal scores; a page is a slice of
it.  Merging takes the zeros of both signs for equal scores, so either of them
may be kept, while the ranking has the negative zero behind the positive one.
-/

namespace EntitySearch

open Numeric (Single)

namespace ClusterResponse

/-- The number that an answer contributes to a count. -/
def counted : ClusterResponse → UInt64
  | .count number => number
  | _ => 0

def hits : ClusterResponse → List (EntityId × Single)
  | .scores hits => hits.entries
  | _ => []

end ClusterResponse

def sumCounts (answers : List ClusterResponse) : UInt64 :=
  answers.foldl (fun total answer => total + answer.counted) 0

/-- Adds a hit, keeping the better score of an entity. -/
def keepBest (merged : ScoredEntities) (hit : EntityId × Single) : ScoredEntities :=
  merged.alter hit.1 fun
    | some best => best.larger hit.2
    | none => hit.2

/-- The hits of all answers with the best score of each entity. -/
def mergeScores (answers : List ClusterResponse) : ScoredEntities :=
  (answers.flatMap ClusterResponse.hits).foldl keepBest Table.empty

/-- The next table of a merge that comes to a hit. -/
def MayKeep (merged : ScoredEntities) (hit : EntityId × Single) (next : ScoredEntities) : Prop :=
  match merged.get? hit.1 with
  | some best => ∃ score, best.MayBeLarger hit.2 score ∧ next = merged.set hit.1 score
  | none => next = merged.set hit.1 hit.2

/-- What merging hits in their order may end with, whichever of two zeros is kept. -/
inductive IsMerge : List (EntityId × Single) → ScoredEntities → Prop
  | empty : IsMerge [] Table.empty
  | visit {hits : List (EntityId × Single)} {merged next : ScoredEntities}
      {hit : EntityId × Single} (before : IsMerge hits merged) (keeps : MayKeep merged hit next) :
      IsMerge (hits ++ [hit]) next

/-- Whether the first hit may stand before the second in a ranking. -/
def ranksBefore (first second : EntityId × Single) : Bool :=
  second.2.rank < first.2.rank || (first.2.rank == second.2.rank && first.1 ≤ second.1)

/-- All hits, the best first. -/
def ranking (hits : ScoredEntities) : List (EntityId × Single) :=
  hits.entries.mergeSort ranksBefore

/-- The identifiers of a page of the ranking. -/
def rankWindow (hits : ScoredEntities) (offset limit : UInt64) : List EntityId :=
  (((ranking hits).drop offset.toNat).take limit.toNat).map (·.1)

/-- Arranges loaded entities in the order of a ranking, leaving out what was not
loaded. -/
def orderByRank {Loaded : Type} (loaded : Table EntityId Loaded) :
    List EntityId → List Loaded
  | [] => []
  | id :: rest =>
      match loaded.get? id with
      | some entity => entity :: orderByRank (loaded.erase id) rest
      | none => orderByRank loaded rest

end EntitySearch
