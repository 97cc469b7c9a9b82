import EntitySearch.Cluster.Message
import EntitySearch.Query.Translation
import EntitySearch.Search.Scoring

/-!
# Hits

The hits of a plan are the live documents that it matches, each with its score.
The best hits come first; among equal scores the document that was added first.
A hit whose score is no number is counted but never among the best.
-/

namespace EntitySearch

open Numeric (Single)

/-- A document that a plan matches, with its score. -/
structure Hit (layout : Layout) where
  stored : StoredDocument layout
  score : Single

namespace Hit

variable {layout : Layout}

/-- Whether the first hit may stand before the second. -/
def precedes (first second : Hit layout) : Bool :=
  !second.score.exceeds first.score

def entity? (hit : Hit layout) : Option EntityId :=
  hit.stored.document.storedUnsigned? CoreField.entity

def project? (hit : Hit layout) : Option ProjectId :=
  hit.stored.document.storedUnsigned? CoreField.project

end Hit

namespace IndexContent

/-- The hits of a plan in the order of the documents. -/
def hits (content : IndexContent) (plan : QueryPlan) : List (Hit content.layout) :=
  let weighed := plan.weigh content (Single.ofNat 1)
  (content.matching plan).map fun stored => ⟨stored, weighed.score stored.postings⟩

/-- The hits of a plan that can be ranked, the best first. -/
def rankedHits (content : IndexContent) (plan : QueryPlan) : List (Hit content.layout) :=
  ((content.hits plan).filter (!·.score.isNaN)).mergeSort Hit.precedes

def count (content : IndexContent) (plan : QueryPlan) : Nat :=
  (content.matching plan).length

/-- How many hits are asked of the engine where a caller wants up to `limit`: no more than
there are live documents, and at least one. -/
def clampedLimit (content : IndexContent) (limit : Nat) : Nat :=
  max (min limit content.live.length) 1

def bestScores (content : IndexContent) (plan : QueryPlan) (limit : Nat) :
    ScoredEntities :=
  Table.ofList (((content.rankedHits plan).take (content.clampedLimit limit)).filterMap
    fun hit => hit.entity?.map (·, hit.score))

/-- A window of the ranked hits.  The engine is asked for at least one hit and for no more
than there are live documents behind the offset. -/
def window (content : IndexContent) (plan : QueryPlan) (offset limit : Nat) :
    List (Hit content.layout) :=
  let available := content.live.length
  if 0 < limit ∧ offset < available then
    ((content.rankedHits plan).drop offset).take (min limit (available - offset))
  else []

end IndexContent

end EntitySearch
