import EntitySearch.Entity

/-!
# Work

The units of background indexing, and the workers that process them in batches.
Works submitted under one worker name form one set: a work that is already
pending is not added again.
-/

namespace EntitySearch.Scheduling

/-- One unit of index maintenance: to index one entity, or to index every entity behind the
progress mark. -/
inductive Work
  | entity (id : EntityId)
  | scan
deriving Repr, DecidableEq

/-- A processor of batches.  Lower priority values are served first. -/
structure Worker (Agent : Type) where
  name : String
  priority : Nat
  agent : Agent

/-- Adds a work to a set of works that is listed without repetition. -/
def addWork (works : List Work) (work : Work) : List Work :=
  if work ∈ works then works else works ++ [work]

/-- The identifiers among the works in ascending order, without repetition. -/
def entityIds (works : List Work) : List EntityId :=
  let ids := works.filterMap fun
    | .entity id => some id
    | .scan => none
  (ids.mergeSort (· ≤ ·)).eraseDups

end EntitySearch.Scheduling
