import EntitySearch.Collection.Total
import EntitySearch.Index.Content
import EntitySearch.Numeric.Logarithm

/-!
# Figures of a field

The relevance of a term depends on how rare it is among the documents, and on
how long the field of a document is in comparison with the average.  Deleted
documents count until their segment goes.  Lengths are kept in steps that grow
with the length.
-/

namespace EntitySearch

open Numeric (Single)

/-- The step of a length: lengths up to forty are exact, behind that there are eight steps
of two, eight of four, and so on. -/
def lengthStep (length : Nat) : Nat :=
  let beyond := length - 24
  if beyond < 16 then length
  else
    let width := Nat.pow 2 (beyond.log2 - 3)
    beyond / width * width + 24

/-- The number of terms that a document has in a field. -/
def fieldLength (field : String) (postings : List Posting) : Nat :=
  postings.countP (·.field == field)

/-- What a document adds to the total length of a field: a step where the length is an
estimate. -/
def StoredDocument.countedLength {layout : Layout} (field : String)
    (stored : StoredDocument layout) : Nat :=
  let length := fieldLength field stored.postings
  if stored.estimated then lengthStep length else length

namespace IndexContent

/-- The number of documents, the deleted ones included. -/
def documentCount (content : IndexContent) : Nat :=
  content.stored.length

/-- The number of documents with a term, the deleted ones included. -/
def termCount (content : IndexContent) (field : String) (value : FieldValue) : Nat :=
  content.stored.countP (·.content.hasTerm field value)

/-- The average length of a field over all documents. -/
def averageLength (content : IndexContent) (field : String) : Single :=
  let total := totalOf (content.stored.map (StoredDocument.countedLength field))
  Single.ofNat total / Single.ofNat content.documentCount

/-- The rarity of a term that some of the documents have. -/
def rarity (documents withTerm : Nat) : Single :=
  let half := Single.ofRatio 1 2
  let quotient :=
    (Single.ofNat (documents - withTerm) + half) / (Single.ofNat withTerm + half)
  (Single.ofNat 1 + quotient).naturalLogarithm

def termRarity (content : IndexContent) (field : String) (value : FieldValue) : Single :=
  rarity content.documentCount (content.termCount field value)

end IndexContent

end EntitySearch
