import EntitySearch.Search.FieldFigures
import EntitySearch.Search.Matching

/-!
# Scoring documents

A plan is weighed once against the figures of an index and then scores each
document.  A term scores its weight times a saturation that grows with its
frequency in the document and falls with the length of the field.  Boosts pass
downward and multiply the weights of the terms below them.
-/

namespace EntitySearch

open Numeric (Single)

/-- A plan weighed against the figures of an index. -/
inductive WeighedPlan
  /-- Every match has the same score. -/
  | fixed (score : Single)
  /-- The frequency of a term counts. -/
  | term (field : String) (value : FieldValue) (weight average : Single)
  /-- The frequency of a phrase counts. -/
  | phrase (field : String) (terms : List (Nat × String)) (weight average : Single)
  /-- The scores of the clauses that match are added; the tests say which do. -/
  | sum (clauses : List (QueryPlan × WeighedPlan))

namespace Scoring

/-- How fast the saturation grows. -/
def saturation : Single := Single.ofRatio 12 10

/-- How much the length of a field counts. -/
def lengthShare : Single := Single.ofRatio 3 4

/-- The rest of the saturation that does not depend on the length. -/
def fixedShare : Single := Single.ofRatio 1 4

/-- The weight of a term or phrase of some rarity. -/
def weight (rarity boost : Single) : Single :=
  rarity * (Single.ofNat 1 + saturation) * boost

/-- The score of a term or phrase that occurs `frequency` times in a field of this length. -/
def saturated (weight average : Single) (frequency length : Nat) : Single :=
  let share := fixedShare + lengthShare * Single.ofNat length / average
  let count := Single.ofNat frequency
  weight * (count / (count + saturation * share))

/-- At how many places of a field a term stands; values that are terms as they are share
one place. -/
def frequency (postings : List Posting) (field : String) (value : FieldValue) : Nat :=
  let found := postings.filter fun posting =>
    posting.field == field && posting.value == value
  (found.map (·.position)).eraseDups.length

/-- The length of a field as the score counts it: a field of numbers has length one. -/
def scoredLength (postings : List Posting) (field : String) (value : FieldValue) : Nat :=
  match value with
  | .text _ => lengthStep (fieldLength field postings)
  | _ => 1

end Scoring

open Scoring

namespace QueryPlan

mutual

def weigh (content : IndexContent) (boost : Single) : QueryPlan → WeighedPlan
  | .all => .fixed boost
  | .empty => .fixed Single.zero
  | .term field value =>
      .term field value (weight (content.termRarity field value) boost)
        (content.averageLength field)
  | .phrase field terms =>
      let rarity := (terms.map fun placed => content.termRarity field (.text placed.2)).foldl
        (· + ·) Single.zero
      .phrase field terms (weight rarity boost) (content.averageLength field)
  | .unsignedRange _ _ _ => .fixed boost
  | .signedRange _ _ _ => .fixed boost
  | .pattern _ _ => .fixed boost
  | .boost factor body => weigh content (boost * factor) body
  | .constant score _ => .fixed (boost * score)
  | .combination clauses => .sum (weighClauses content boost clauses)

/-- Weighs the clauses of a combination that can add to the score. -/
def weighClauses (content : IndexContent) (boost : Single) :
    List (Occurrence × QueryPlan) → List (QueryPlan × WeighedPlan)
  | [] => []
  | (.mustNot, _) :: rest => weighClauses content boost rest
  | (.must, plan) :: rest => (plan, weigh content boost plan) :: weighClauses content boost rest
  | (.should, plan) :: rest =>
      (plan, weigh content boost plan) :: weighClauses content boost rest

end

end QueryPlan

namespace WeighedPlan

mutual

def score (postings : List Posting) : WeighedPlan → Single
  | .fixed score => score
  | .term field value weight average =>
      saturated weight average (frequency postings field value)
        (scoredLength postings field value)
  | .phrase field terms weight average =>
      saturated weight average (phrasePlaces postings field terms).length
        (lengthStep (fieldLength field postings))
  | .sum clauses => scoreSum postings Single.zero clauses

/-- The sum of the scores of the clauses that match. -/
def scoreSum (postings : List Posting) (total : Single) :
    List (QueryPlan × WeighedPlan) → Single
  | [] => total
  | (plan, weighed) :: rest =>
      if plan.isMatch postings then
        scoreSum postings (total + score postings weighed) rest
      else scoreSum postings total rest

end

end WeighedPlan

end EntitySearch
