import EntitySearch.Index.Directory

/-!
# The index of one node

A local index is a directory together with what its owner holds of it in memory:
the snapshot of an open reader, and whether the owner has committed anything.
Starting brings the directory up to date, so that it holds an index of the
configured layout and version: a current index is kept, everything else is
emptied and gets a schema marker.  Every transaction, whether it succeeds or
fails, ends with a refresh of the snapshot.
-/

namespace EntitySearch

/-- The layout and the version that an index must have. -/
structure IndexSpec where
  layout : Layout
  version : UInt64
deriving Repr, DecidableEq

/-- A directory with what its owner holds of it in memory. -/
structure LocalIndex where
  directory : IndexDirectory
  snapshot : Option IndexContent
  hasCommitted : Bool

structure IndexStatistics where
  totalDocuments : Nat
  entityDocuments : Nat
  schemaVersion : Option UInt64
  progressMark : EntityId
deriving Repr, DecidableEq

def IndexContent.statistics (content : IndexContent) : IndexStatistics where
  totalDocuments := content.live.length
  entityDocuments := (content.ofKind .entity).length
  schemaVersion := content.schemaVersion?
  progressMark := content.progressMark

namespace LocalIndex

def closed (directory : IndexDirectory) : LocalIndex := ⟨directory, none, false⟩

def isOpen (index : LocalIndex) : Bool := index.snapshot.isSome

def stop (index : LocalIndex) : LocalIndex := { index with snapshot := none }

/-- Lets an open reader see the directory; it keeps its snapshot where that cannot be
read. -/
def refresh (index : LocalIndex) : LocalIndex :=
  { index with
    snapshot := index.snapshot.map fun earlier => (index.directory.content?).getD earlier }

/-- Opens the directory for a layout; a new index may come of it. -/
def openDirectory (layout : Layout) (index : LocalIndex) :
    LocalIndex × Except SearchFailure IndexContent :=
  match index.directory.openFor layout with
  | .ok content => ({ index with directory := .readable content }, .ok content)
  | .error failure => (index, .error failure)

/-- Runs a transaction without the refresh behind it.  `staged` are the changes, or the
failure with which staging them ended.  Waiting for the merges behind the commit is taken to
succeed; `InterruptedBatches` covers its failure. -/
def runTransaction (layout : Layout) (index : LocalIndex)
    (staged : Except SearchFailure (List IndexChange)) :
    LocalIndex × Except SearchFailure Unit :=
  match index.openDirectory layout with
  | (opened, .error failure) => (opened, .error failure)
  | (opened, .ok content) =>
      match staged with
      | .error failure => (opened, .error failure)
      | .ok changes =>
          ({ opened with directory := .readable (content.commit changes), hasCommitted := true },
            .ok ())

def transact (layout : Layout) (index : LocalIndex)
    (staged : Except SearchFailure (List IndexChange)) :
    LocalIndex × Except SearchFailure Unit :=
  let (after, outcome) := index.runTransaction layout staged
  (after.refresh, outcome)

/-- The version of the index in a directory, if it has the layout. -/
def storedVersion? (layout : Layout) (directory : IndexDirectory) : Option UInt64 :=
  match directory.content? with
  | some content => if content.layout = layout then content.schemaVersion? else none
  | none => none

def openReader (layout : Layout) (index : LocalIndex) :
    LocalIndex × Except SearchFailure Unit :=
  match index.openDirectory layout with
  | (opened, .error failure) => (opened, .error failure)
  | (opened, .ok content) => ({ opened with snapshot := some content }, .ok ())

/-- Brings the directory up to date and opens a reader on it. -/
def start (spec : IndexSpec) (index : LocalIndex) : LocalIndex × Except SearchFailure Unit :=
  match index.directory.create with
  | .error failure => (index, .error failure)
  | .ok directory =>
      let created := { index with directory := directory }
      if storedVersion? spec.layout directory = some spec.version then
        created.openReader spec.layout
      else
        let wiped := { created with directory := directory.wipe }
        match wiped.transact spec.layout (.ok [.putSchemaMarker spec.version]) with
        | (marked, .error failure) => (marked, .error failure)
        | (marked, .ok ()) => marked.openReader spec.layout

def readProgressMark (layout : Layout) (index : LocalIndex) :
    LocalIndex × Except SearchFailure EntityId :=
  let (opened, outcome) := index.openDirectory layout
  (opened, outcome.map (·.progressMark))

/-- The figures of the snapshot, or of the directory where the index is not open. -/
def statistics (layout : Layout) (index : LocalIndex) :
    LocalIndex × Except SearchFailure IndexStatistics :=
  match index.snapshot with
  | some content => (index, .ok content.statistics)
  | none =>
      let (opened, outcome) := index.openDirectory layout
      (opened, outcome.map (·.statistics))

end LocalIndex

end EntitySearch
