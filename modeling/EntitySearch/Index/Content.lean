import EntitySearch.Index.Posting

/-!
# Index content

The committed content of an index is a list of segments, the oldest first.  A
segment keeps its documents in the order in which they were added.  A deleted
document stays in its segment, where it still counts in the statistics, until
the segment goes.
-/

namespace EntitySearch

/-- A document with the postings that a layout makes of it. -/
structure IndexedDocument (layout : Layout) where
  document : Document
  postings : List Posting
  indexed : postings = layout.postings document

def Layout.index (layout : Layout) (document : Document) : IndexedDocument layout :=
  ⟨document, layout.postings document, rfl⟩

/-- Whether the document has the value as a term of the field. -/
def IndexedDocument.hasTerm {layout : Layout} (indexed : IndexedDocument layout)
    (field : String) (value : FieldValue) : Bool :=
  indexed.postings.any fun posting => posting.field == field && posting.value == value

/-- A document in a segment.  Only a live one is found; the length of an estimated one is
known to a step only. -/
structure StoredDocument (layout : Layout) where
  content : IndexedDocument layout
  live : Bool
  estimated : Bool

namespace StoredDocument

variable {layout : Layout}

def added (document : Document) : StoredDocument layout :=
  ⟨layout.index document, true, false⟩

def document (stored : StoredDocument layout) : Document :=
  stored.content.document

def postings (stored : StoredDocument layout) : List Posting :=
  stored.content.postings

/-- The document, deleted if it has the value as a term of the field. -/
def deleteTerm (stored : StoredDocument layout) (field : String) (value : FieldValue) :
    StoredDocument layout :=
  if stored.content.hasTerm field value then { stored with live := false } else stored

end StoredDocument

/-- Documents that were committed together or merged. -/
abbrev Segment (layout : Layout) := List (StoredDocument layout)

structure IndexContent where
  layout : Layout
  segments : List (Segment layout)

namespace IndexContent

def empty (layout : Layout) : IndexContent := ⟨layout, []⟩

/-- All documents in order, the deleted ones included. -/
def stored (content : IndexContent) : List (StoredDocument content.layout) :=
  content.segments.flatten

def live (content : IndexContent) : List (StoredDocument content.layout) :=
  content.stored.filter (·.live)

/-- The live documents as they were added. -/
def documents (content : IndexContent) : List Document :=
  content.live.map (·.document)

def ofKind (content : IndexContent) (kind : DocumentKind) :
    List (StoredDocument content.layout) :=
  content.live.filter (·.content.hasTerm CoreField.kind (.text kind.name))

/-- The number that the first live marker of a kind stores in a field. -/
def marker? (content : IndexContent) (kind : DocumentKind) (field : String) : Option UInt64 :=
  ((content.ofKind kind).head?).bind (·.document.storedUnsigned? field)

def schemaVersion? (content : IndexContent) : Option UInt64 :=
  content.marker? .schemaMarker CoreField.schemaVersion

/-- The highest identifier that a catch-up scan has passed; zero before the first one. -/
def progressMark (content : IndexContent) : EntityId :=
  (content.marker? .progressMarker CoreField.progressMark).getD 0

end IndexContent

end EntitySearch
