import EntitySearch.Entity
import EntitySearch.Numeric.Single

/-!
# Query plans

What the engine is asked to do: a plan says which documents match and what they
score.  A range lists the sides that it bounds, both inclusive.
-/

namespace EntitySearch

/-- The part that a clause plays in a combination. -/
inductive Occurrence
  | should
  | must
  | mustNot
deriving Repr, DecidableEq

/-- A query as the engine runs it. -/
inductive QueryPlan
  | all
  | empty
  | term (field : String) (value : FieldValue)
  | phrase (field : String) (terms : List (Nat × String))
  | unsignedRange (field : String) (lower upper : Option UInt64)
  | signedRange (field : String) (lower upper : Option Int64)
  | pattern (field : String) (pattern : String)
  | boost (factor : Numeric.Single) (body : QueryPlan)
  | constant (score : Numeric.Single) (body : QueryPlan)
  | combination (clauses : List (Occurrence × QueryPlan))

end EntitySearch
