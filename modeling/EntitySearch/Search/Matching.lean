import EntitySearch.Index.Content
import EntitySearch.Pattern.Basic
import EntitySearch.Query.Plan

/-!
# Matching documents

Which documents a plan matches is a question about their postings alone.  A
combination matches where everything demanded matches and nothing forbidden
does; where nothing is demanded, one of the wishes has to match.
-/

namespace EntitySearch

/-- Whether some posting of the field has a value that passes the test. -/
def hasValue (postings : List Posting) (field : String) (test : FieldValue → Bool) : Bool :=
  postings.any fun posting => posting.field == field && test posting.value

def hasTermAt (postings : List Posting) (field term : String) (place : Int) : Bool :=
  postings.any fun posting =>
    posting.field == field && posting.value == .text term && (posting.position : Int) == place

/-- The places from which all terms of a phrase stand at their distances. -/
def phrasePlaces (postings : List Posting) (field : String) :
    List (Nat × String) → List Int
  | [] => []
  | (offset, term) :: rest =>
      let starts := postings.filterMap fun posting =>
        if posting.field == field && posting.value == .text term then
          some ((posting.position : Int) - offset)
        else none
      starts.filter fun start => rest.all fun (offset, term) =>
        hasTermAt postings field term (start + offset)

/-- Whether a number lies between bounds, where an absent bound leaves its side open. -/
def isWithin {Number : Type} [LE Number] [DecidableLE Number] (lower upper : Option Number)
    (number : Number) : Bool :=
  lower.all (· ≤ number) && upper.all (number ≤ ·)

namespace FieldValue

/-- Whether the value is an unsigned number between bounds. -/
def isUnsignedWithin (lower upper : Option UInt64) : FieldValue → Bool
  | .unsigned number => isWithin lower upper number
  | _ => false

/-- Whether the value is a signed number between bounds. -/
def isSignedWithin (lower upper : Option Int64) : FieldValue → Bool
  | .signed number => isWithin lower upper number
  | _ => false

/-- Whether the value is a text that the pattern matches as a whole. -/
def hasPattern (items : List PatternItem) : FieldValue → Bool
  | .text value => PatternItem.matchAll items value.toList
  | _ => false

end FieldValue

namespace QueryPlan

/-- Whether some clause is demanded. -/
def demandsAny (clauses : List (Occurrence × QueryPlan)) : Bool :=
  clauses.any (·.1 == .must)

mutual

def isMatch (postings : List Posting) : QueryPlan → Bool
  | .all => true
  | .empty => false
  | .term field value => hasValue postings field (· == value)
  | .phrase field terms => !(phrasePlaces postings field terms).isEmpty
  | .unsignedRange field lower upper =>
      hasValue postings field (FieldValue.isUnsignedWithin lower upper)
  | .signedRange field lower upper =>
      hasValue postings field (FieldValue.isSignedWithin lower upper)
  | .pattern field written =>
      hasValue postings field (FieldValue.hasPattern (PatternItem.ofText written.toList))
  | .boost _ body => isMatch postings body
  | .constant _ body => isMatch postings body
  | .combination clauses =>
      isAllowed postings clauses && (demandsAny clauses || isWished postings clauses)

/-- Whether every demanded clause matches and no forbidden one does. -/
def isAllowed (postings : List Posting) : List (Occurrence × QueryPlan) → Bool
  | [] => true
  | (.must, plan) :: rest => isMatch postings plan && isAllowed postings rest
  | (.mustNot, plan) :: rest => !isMatch postings plan && isAllowed postings rest
  | (.should, _) :: rest => isAllowed postings rest

/-- Whether some wish matches. -/
def isWished (postings : List Posting) : List (Occurrence × QueryPlan) → Bool
  | [] => false
  | (.should, plan) :: rest => isMatch postings plan || isWished postings rest
  | (.must, _) :: rest => isWished postings rest
  | (.mustNot, _) :: rest => isWished postings rest

end

end QueryPlan

/-- The live documents that a plan matches, in order. -/
def IndexContent.matching (content : IndexContent) (plan : QueryPlan) :
    List (StoredDocument content.layout) :=
  content.live.filter fun stored => plan.isMatch stored.postings

end EntitySearch
