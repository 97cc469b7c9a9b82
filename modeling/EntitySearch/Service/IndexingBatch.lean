import EntitySearch.Service.EntityIndex
import EntitySearch.Store

/-!
# Indexing batches

A batch of works first loads the entities that were asked for, one by one, and
commits their documents in one transaction.  If it has to scan, it then repeats:
read the progress mark, fetch the entities behind it, and commit the documents of
those that the node owns together with the new mark; a short fetch is the last.

The batch is a machine with small steps.  Between two steps other clients can
use the store and the index; each step is one access of the store or one
transaction.
-/

namespace EntitySearch

/-- What a batch reads: the store, and which projects the node owns. -/
structure EntitySource where
  load : EntityId → Except GeneralFailure (Option Entity)
  queryAfter : EntityId → Nat → Except GeneralFailure (List Entity)
  owns : ProjectId → Bool

/-- What has been done to an index. -/
structure IndexTally where
  indexed : Nat
  deleted : Nat
  scanBatches : Nat
  lastMark : Option EntityId
deriving Repr, DecidableEq

def IndexTally.zero : IndexTally := ⟨0, 0, 0, none⟩

/-- What a batch does next. -/
inductive BatchPhase
  /-- Loads the waiting entities, then commits the documents of the loaded ones. -/
  | loading (waiting : List EntityId) (documents : List EntityDocument)
  /-- Reads the progress mark. -/
  | seeking
  /-- Fetches the entities behind the mark. -/
  | fetching (mark : EntityId)
  /-- Commits the documents of the fetched entities that the node owns. -/
  | recording (fetched : List Entity)
  /-- Nothing. -/
  | ended (outcome : Except SearchFailure Unit)

/-- A batch at work on a local index. -/
structure IndexingBatch where
  index : LocalIndex
  tally : IndexTally
  scans : Bool
  phase : BatchPhase

namespace IndexingBatch

/-- What follows when the requested entities are done. -/
def afterLoading (scans : Bool) : BatchPhase :=
  if scans then .seeking else .ended (.ok ())

def start (index : LocalIndex) (tally : IndexTally) (works : List Scheduling.Work) :
    IndexingBatch :=
  let scans := works.contains .scan
  match Scheduling.entityIds works with
  | [] => ⟨index, tally, scans, afterLoading scans⟩
  | id :: ids => ⟨index, tally, scans, .loading (id :: ids) []⟩

def hasEnded (batch : IndexingBatch) : Bool :=
  match batch.phase with
  | .ended _ => true
  | _ => false

def fail (batch : IndexingBatch) (failure : SearchFailure) : IndexingBatch :=
  { batch with phase := .ended (.error failure) }

def lastId (fetched : List Entity) : EntityId :=
  fetched.foldl (fun last entity => max last entity.id) 0

/-- The documents of the fetched entities that the node owns. -/
def ownedDocuments (owner : EntityIndex) (source : EntitySource) (fetched : List Entity) :
    List EntityDocument :=
  (fetched.filter fun entity => source.owns entity.project).map owner.documentFor

def commitLoaded (owner : EntityIndex) (batch : IndexingBatch)
    (documents : List EntityDocument) : IndexingBatch :=
  match batch.index.transact owner.layout (.ok (documents.map .upsert)) with
  | (index, .error failure) => { batch with index := index }.fail failure
  | (index, .ok ()) =>
      { batch with
        index := index
        tally := { batch.tally with indexed := batch.tally.indexed + documents.length }
        phase := afterLoading batch.scans }

/-- Commits a scan batch with the mark behind it. -/
def commitScan (owner : EntityIndex) (source : EntitySource) (batch : IndexingBatch)
    (fetched : List Entity) : IndexingBatch :=
  let documents := ownedDocuments owner source fetched
  let changes := documents.map IndexChange.upsert ++ [.putProgressMark (lastId fetched)]
  match batch.index.transact owner.layout (.ok changes) with
  | (index, .error failure) => { batch with index := index }.fail failure
  | (index, .ok ()) =>
      { batch with
        index := index
        tally :=
          { batch.tally with
            indexed := batch.tally.indexed + documents.length
            scanBatches := batch.tally.scanBatches + 1
            lastMark := some (lastId fetched) }
        phase :=
          if owner.settings.indexing.batchSize.toNat ≤ fetched.length then .seeking
          else .ended (.ok ()) }

/-- Takes a step; a batch that has ended stays as it is. -/
def step (owner : EntityIndex) (source : EntitySource) (batch : IndexingBatch) :
    IndexingBatch :=
  match batch.phase with
  | .loading (id :: waiting) documents =>
      match source.load id with
      | .error failure => batch.fail failure.toSearch
      | .ok none => { batch with phase := .loading waiting documents }
      | .ok (some entity) =>
          { batch with phase := .loading waiting (documents ++ [owner.documentFor entity]) }
  | .loading [] documents => commitLoaded owner batch documents
  | .seeking =>
      match batch.index.readProgressMark owner.layout with
      | (index, .error failure) => { batch with index := index }.fail failure
      | (index, .ok mark) => { batch with index := index, phase := .fetching mark }
  | .fetching mark =>
      match source.queryAfter mark owner.settings.indexing.batchSize.toNat with
      | .error failure => batch.fail failure.toSearch
      | .ok [] => { batch with phase := .ended (.ok ()) }
      | .ok (entity :: fetched) => { batch with phase := .recording (entity :: fetched) }
  | .recording fetched => commitScan owner source batch fetched
  | .ended _ => batch

/-- Takes steps until the batch has ended. -/
def run (owner : EntityIndex) (source : EntitySource) : Nat → IndexingBatch → IndexingBatch
  | 0, batch => batch
  | steps + 1, batch =>
      if batch.hasEnded then batch else run owner source steps (batch.step owner source)

/-- As many steps as a batch of works can take over a store of this size. -/
def stepBound (works storeSize : Nat) : Nat :=
  (works + 1) + 3 * (storeSize + 1)

end IndexingBatch

end EntitySearch
