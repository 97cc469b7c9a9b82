import EntitySearch.Analysis.Analyzer
import EntitySearch.Document.Basic

/-!
# Postings

A posting says that a document has a term in a field, and where.  A text taken
whole and a number are terms as they are, but a text that is too long for a term
is left out; an analysed text has one posting for every word that the analysis
keeps.  The values of an analysed field are placed
one behind the other with a gap between them, so that no phrase reaches from one
value into the next.
-/

namespace EntitySearch

/-- A term of a document in a field, at a position. -/
structure Posting where
  field : String
  value : FieldValue
  position : Nat
deriving Repr, DecidableEq

/-- The position from which the next value is counted, behind a value with these terms. -/
def nextBase (base : Nat) (terms : List Analysis.PlacedTerm) : Nat :=
  match terms.getLast? with
  | some last => base + last.position + 2
  | none => base + 1

/-- The postings of the analysed values of a field, counted from a base position. -/
def wordPostings (field : String) (base : Nat) : List FieldValue → List Posting
  | [] => []
  | .text value :: rest =>
      let terms := Analysis.analyze value
      terms.map (fun placed => ⟨field, .text placed.term, base + placed.position⟩) ++
        wordPostings field (nextBase base terms) rest
  | .unsigned _ :: rest => wordPostings field base rest
  | .signed _ :: rest => wordPostings field base rest

/-- The greatest length of a term in bytes. -/
def termByteLimit : Nat := 65530

/-- Whether a value is short enough for a term. -/
def FieldValue.fitsTerm : FieldValue → Bool
  | .text characters => Analysis.byteLength characters.toList ≤ termByteLimit
  | .unsigned _ => true
  | .signed _ => true

/-- The postings of values that are terms as they are. -/
def valuePostings (field : String) (values : List FieldValue) : List Posting :=
  (values.filter FieldValue.fitsTerm).map fun value => ⟨field, value, 0⟩

/-- The postings that a field of a layout makes of its values. -/
def LayoutField.postings (field : LayoutField) (values : List FieldValue) : List Posting :=
  match field.content with
  | .text (some .words) => wordPostings field.name 0 values
  | .text (some .whole) => valuePostings field.name values
  | .unsigned true _ => valuePostings field.name values
  | .signed true _ => valuePostings field.name values
  | _ => []

def Layout.postings (layout : Layout) (document : Document) : List Posting :=
  layout.fields.flatMap fun field => field.postings (document.valuesOf field.name)

end EntitySearch
