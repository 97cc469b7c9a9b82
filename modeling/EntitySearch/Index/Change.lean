import EntitySearch.Index.Content

/-!
# Changes and commits

A transaction stages changes one after the other.  A change that deletes affects
the documents that were there before it, those that the same transaction added
included.  The commit makes one segment of what was added, drops the segments
without live documents, and merges all segments into one when they have become
many; the merged segment keeps live documents only.
-/

namespace EntitySearch

/-- A change of an index within a transaction. -/
inductive IndexChange
  | upsert (document : EntityDocument)
  | deleteEntity (id : EntityId)
  | deleteProject (project : ProjectId)
  | putSchemaMarker (version : UInt64)
  | putProgressMark (mark : EntityId)
deriving Repr, DecidableEq

namespace IndexChange

/-- The term whose documents the change deletes. -/
def target : IndexChange → String × FieldValue
  | .upsert document => (CoreField.entity, .unsigned document.id)
  | .deleteEntity id => (CoreField.entity, .unsigned id)
  | .deleteProject project => (CoreField.project, .unsigned project)
  | .putSchemaMarker _ => (CoreField.kind, .text DocumentKind.schemaMarker.name)
  | .putProgressMark _ => (CoreField.kind, .text DocumentKind.progressMarker.name)

/-- The document that the change adds after the deletion. -/
def addition? : IndexChange → Option Document
  | .upsert document => some document.document
  | .deleteEntity _ => none
  | .deleteProject _ => none
  | .putSchemaMarker version => some (Document.schemaMarker version)
  | .putProgressMark mark => some (Document.progressMarker mark)

end IndexChange

/-- The committed segments as a transaction sees them, and the documents that it added. -/
structure Transaction (layout : Layout) where
  committed : List (Segment layout)
  added : Segment layout

namespace Transaction

variable {layout : Layout}

def start (segments : List (Segment layout)) : Transaction layout := ⟨segments, []⟩

def stage (transaction : Transaction layout) (change : IndexChange) : Transaction layout :=
  let delete := fun stored : StoredDocument layout =>
    stored.deleteTerm change.target.1 change.target.2
  { committed := transaction.committed.map (·.map delete)
    added := transaction.added.map delete ++
      (change.addition?.map StoredDocument.added).toList }

/-- The segments of a transaction, without those that have no live document. -/
def segments (transaction : Transaction layout) : List (Segment layout) :=
  (transaction.committed ++ [transaction.added]).filter (·.any (·.live))

end Transaction

/-- The live documents of a segment.  Where the segment has deleted documents the lengths
of the others become estimates. -/
def Segment.compact {layout : Layout} (segment : Segment layout) : Segment layout :=
  if segment.all (·.live) then segment
  else (segment.filter (·.live)).map ({ · with estimated := true })

/-- So many segments are merged into one. -/
def mergeThreshold : Nat := 8

/-- Merges segments when they have become many. -/
def mergeSegments {layout : Layout} (segments : List (Segment layout)) :
    List (Segment layout) :=
  if mergeThreshold ≤ segments.length then [(segments.map Segment.compact).flatten]
  else segments

/-- The content after a transaction of staged changes. -/
def IndexContent.commit (content : IndexContent) (changes : List IndexChange) :
    IndexContent :=
  { content with
    segments := mergeSegments
      (changes.foldl Transaction.stage (Transaction.start content.segments)).segments }

end EntitySearch
