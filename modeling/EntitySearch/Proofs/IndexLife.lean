import EntitySearch.Proofs.ChronicledIndex
import EntitySearch.Service.IndexingBatch

/-!
# The life of an index

An index lives through the processes that own it one after the other.  A process
starts and stops it, runs batches of works step by step, and edits it between the
steps; a later process may configure it otherwise.  Through all of this the index
keeps its chronicle: what is committed, what an open reader shows and what the
figures tell is always what the chronicle says.
-/

namespace EntitySearch

/-- An edit that a client stages in a transaction. -/
inductive IndexEdit
  | upsert (entity : Entity)
  | deleteEntity (id : EntityId)
  | deleteProject (project : ProjectId)
  | putProgressMark (mark : EntityId)
deriving Repr, DecidableEq

def IndexEdit.change (owner : EntityIndex) : IndexEdit → IndexChange
  | .upsert entity => .upsert (owner.documentFor entity)
  | .deleteEntity id => .deleteEntity id
  | .deleteProject project => .deleteProject project
  | .putProgressMark mark => .putProgressMark mark

theorem IndexEdit.isOrdinary_change (owner : EntityIndex) (edit : IndexEdit) :
    (edit.change owner).IsOrdinary owner.layout := by
  cases edit with
  | upsert entity => exact .upsert entity
  | deleteEntity id => exact .deleteEntity id
  | deleteProject project => exact .deleteProject project
  | putProgressMark mark => exact .putProgressMark mark

namespace IndexingBatch

variable {owner : EntityIndex} {batch : IndexingBatch}

/-- The changes that a scan commits for the fetched entities. -/
def scanChanges (owner : EntityIndex) (source : EntitySource) (fetched : List Entity) :
    List IndexChange :=
  (ownedDocuments owner source fetched).map .upsert ++ [.putProgressMark (lastId fetched)]

/-- The changes of the transaction that is the next step of a batch, if it is one. -/
def staged? (owner : EntityIndex) (source : EntitySource) (batch : IndexingBatch) :
    Option (List IndexChange) :=
  match batch.phase with
  | .loading [] documents => some (documents.map .upsert)
  | .recording fetched => some (scanChanges owner source fetched)
  | _ => none

/-- The chronicle after the next step of a batch. -/
def enter (owner : EntityIndex) (source : EntitySource) (batch : IndexingBatch)
    (chronicle : Chronicle) : Chronicle :=
  match batch.staged? owner source with
  | some changes =>
      chronicle.enter (.ok changes) (batch.index.transact owner.layout (.ok changes)).2
  | none => chronicle

/-- The documents that a batch has loaded are those of entities. -/
def LoadsEntities (owner : EntityIndex) (batch : IndexingBatch) : Prop :=
  ∀ waiting documents, batch.phase = .loading waiting documents →
    ∀ document ∈ documents, ∃ entity, document = owner.documentFor entity

theorem loadsEntities_start (owner : EntityIndex) (index : LocalIndex) (tally : IndexTally)
    (works : List Scheduling.Work) : (start index tally works).LoadsEntities owner := by
  intro waiting documents isLoading
  unfold start at isLoading
  split at isLoading
  · simp only [afterLoading] at isLoading
    split at isLoading <;> cases isLoading
  · cases isLoading
    simp

theorem isOrdinary_upserts {documents : List EntityDocument}
    (made : ∀ document ∈ documents, ∃ entity, document = owner.documentFor entity) :
    ∀ change ∈ documents.map IndexChange.upsert, change.IsOrdinary owner.layout := by
  intro change inside
  obtain ⟨document, isDocument, same⟩ := List.mem_map.1 inside
  obtain ⟨entity, isMade⟩ := made document isDocument
  rw [← same, isMade]
  exact .upsert entity

theorem isOrdinary_scanChanges (owner : EntityIndex) (source : EntitySource)
    (fetched : List Entity) :
    ∀ change ∈ scanChanges owner source fetched, change.IsOrdinary owner.layout := by
  intro change inside
  rcases List.mem_append.1 inside with upserted | marked
  · refine isOrdinary_upserts (fun document owned => ?_) change upserted
    obtain ⟨entity, _, same⟩ := List.mem_map.1 owned
    exact ⟨entity, same.symm⟩
  · rw [List.mem_singleton.1 marked]
    exact .putProgressMark _

theorem isOrdinary_staged? {source : EntitySource} (loads : batch.LoadsEntities owner)
    {changes : List IndexChange} (staged : batch.staged? owner source = some changes) :
    ∀ change ∈ changes, change.IsOrdinary owner.layout := by
  unfold staged? at staged
  split at staged
  case h_1 documents isLoading =>
    cases staged
    exact isOrdinary_upserts (loads [] documents isLoading)
  case h_2 fetched isRecording =>
    cases staged
    exact isOrdinary_scanChanges owner source fetched
  case h_3 => cases staged

theorem index_commitLoaded (documents : List EntityDocument) :
    (commitLoaded owner batch documents).index =
      (batch.index.transact owner.layout (.ok (documents.map .upsert))).1 := by
  unfold commitLoaded
  generalize batch.index.transact owner.layout (.ok (documents.map .upsert)) = result
  obtain ⟨index, _ | _⟩ := result <;> rfl

theorem index_commitScan (source : EntitySource) (fetched : List Entity) :
    (commitScan owner source batch fetched).index =
      (batch.index.transact owner.layout (.ok (scanChanges owner source fetched))).1 := by
  simp only [commitScan, scanChanges]
  generalize batch.index.transact owner.layout (.ok ((ownedDocuments owner source fetched).map
    .upsert ++ [.putProgressMark (lastId fetched)])) = result
  obtain ⟨index, _ | _⟩ := result <;> rfl

/-- A step of a batch carries the chronicle of the index on. -/
theorem keeps_step {chronicle : Chronicle} (keeps : batch.index.Keeps chronicle)
    (loads : batch.LoadsEntities owner) (source : EntitySource) :
    (batch.step owner source).index.Keeps (batch.enter owner source chronicle) ∧
      (batch.step owner source).index.directory.Follows owner.layout batch.index.directory := by
  cases next : batch.staged? owner source with
  | some changes =>
      have ordinary : Chronicle.StagesOrdinary owner.layout (.ok changes) := by
        intro staged same
        cases same
        exact isOrdinary_staged? loads next
      have sameIndex : (batch.step owner source).index =
          (batch.index.transact owner.layout (.ok changes)).1 := by
        unfold staged? at next
        split at next
        case h_1 documents isLoading =>
          cases next
          simp only [step, isLoading, index_commitLoaded]
        case h_2 fetched isRecording =>
          cases next
          simp only [step, isRecording, index_commitScan]
        case h_3 => cases next
      rw [sameIndex]
      simp only [enter, next]
      exact keeps.transact ordinary
  | none =>
      have sameChronicle : batch.enter owner source chronicle = chronicle := by
        simp only [enter, next]
      rw [sameChronicle]
      have unchanged := And.intro keeps
        (IndexDirectory.follows_refl owner.layout batch.index.directory)
      unfold step
      split
      case h_1 id waiting documents isLoading =>
        split <;> exact unchanged
      case h_2 documents isLoading =>
        simp [staged?, isLoading] at next
      case h_3 isSeeking =>
        obtain ⟨openedKeeps, openedFollows, _⟩ :=
          keeps.openDirectory owner.configuration
        have opened : (batch.index.readProgressMark owner.layout).1 =
            (batch.index.openDirectory owner.configuration.layout).1 := rfl
        rw [← opened] at openedKeeps openedFollows
        generalize batch.index.readProgressMark owner.layout = result at *
        obtain ⟨index, _ | _⟩ := result <;> exact ⟨openedKeeps, openedFollows⟩
      case h_4 mark isFetching =>
        split <;> exact unchanged
      case h_5 fetched isRecording =>
        simp [staged?, isRecording] at next
      case h_6 => exact unchanged

theorem loadsEntities_of_ne
    (other : ∀ waiting documents, batch.phase ≠ .loading waiting documents) :
    batch.LoadsEntities owner :=
  fun waiting documents isLoading => absurd isLoading (other waiting documents)

theorem loadsEntities_fail (batch : IndexingBatch) (failure : SearchFailure) :
    (batch.fail failure).LoadsEntities owner :=
  loadsEntities_of_ne (fun _ _ same => by cases same)

theorem afterLoading_ne (scans : Bool) (waiting : List EntityId)
    (documents : List EntityDocument) : afterLoading scans ≠ .loading waiting documents := by
  cases scans <;> simp [afterLoading]

theorem loadsEntities_step (loads : batch.LoadsEntities owner) (source : EntitySource) :
    (batch.step owner source).LoadsEntities owner := by
  unfold step
  split
  case h_1 id waiting documents isLoading =>
    split
    case h_1 => exact loadsEntities_fail _ _
    case h_2 =>
      intro later kept same
      cases same
      exact loads _ _ isLoading
    case h_3 entity _ =>
      intro later kept same document inside
      cases same
      rcases List.mem_append.1 inside with earlier | new
      · exact loads _ _ isLoading document earlier
      · exact ⟨entity, List.mem_singleton.1 new⟩
  case h_2 documents isLoading =>
    unfold commitLoaded
    split
    · exact loadsEntities_fail _ _
    · exact loadsEntities_of_ne (afterLoading_ne batch.scans)
  case h_3 isSeeking =>
    split
    · exact loadsEntities_fail _ _
    · exact loadsEntities_of_ne (fun _ _ same => by cases same)
  case h_4 mark isFetching =>
    split
    · exact loadsEntities_fail _ _
    · exact loadsEntities_of_ne (fun _ _ same => by cases same)
    · exact loadsEntities_of_ne (fun _ _ same => by cases same)
  case h_5 fetched isRecording =>
    simp only [commitScan]
    generalize batch.index.transact owner.layout _ = result
    obtain ⟨index, _ | _⟩ := result
    · exact loadsEntities_fail _ _
    · refine loadsEntities_of_ne (fun _ _ same => ?_)
      simp only at same
      split at same <;> cases same
  case h_6 => exact loads

end IndexingBatch

/-- An index with its present owner and the owner's unfinished batches, whether the owner has
started it, and the chronicle of what has been committed to it. -/
structure IndexLife where
  owner : EntityIndex
  index : LocalIndex
  batches : List IndexingBatch
  started : Bool
  chronicle : Chronicle

inductive IndexOperation
  | start
  | stop
  /-- A new process takes over, with a configuration of its own. -/
  | restart (owner : EntityIndex)
  /-- A batch of entity jobs and scans begins. -/
  | beginBatch (works : List Scheduling.Work)
  /-- A batch takes a step, with the store and the cluster as they are then. -/
  | stepBatch (place : Nat) (source : EntitySource)
  | deleteEntities (ids : List EntityId)
  | deleteProject (project : ProjectId)
  /-- A client stages edits, or fails to. -/
  | transact (staged : Except SearchFailure (List IndexEdit))
  | readStatistics

namespace IndexLife

/-- An index that its first owner finds in a directory. -/
def begin (owner : EntityIndex) (directory : IndexDirectory) : IndexLife :=
  ⟨owner, LocalIndex.closed directory, [], false, Chronicle.blank⟩

/-- The life after a transaction with its outcome. -/
def enter (life : IndexLife) (staged : Except SearchFailure (List IndexChange))
    (result : LocalIndex × Except SearchFailure Unit) : IndexLife :=
  { life with
    index := result.1
    chronicle := life.chronicle.enter staged result.2 }

def step (life : IndexLife) : IndexOperation → IndexLife
  | .start =>
      match life.index.start life.owner.spec with
      | (index, .error _) => { life with index := index }
      | (index, .ok ()) =>
          { life with
            index := index
            started := true
            chronicle := life.chronicle.atStart life.owner.spec life.index.directory }
  | .stop => { life with index := life.index.stop }
  | .restart owner =>
      ⟨owner, LocalIndex.closed life.index.directory, [], false, life.chronicle⟩
  | .beginBatch works =>
      { life with
        batches := life.batches ++ [IndexingBatch.start life.index IndexTally.zero works] }
  | .stepBatch place source =>
      match life.batches[place]? with
      | none => life
      | some waiting =>
          let batch := { waiting with index := life.index }
          let after := batch.step life.owner source
          { life with
            index := after.index
            batches := life.batches.set place after
            chronicle := batch.enter life.owner source life.chronicle }
  | .deleteEntities ids =>
      life.enter (.ok (ids.map .deleteEntity)) (life.owner.deleteEntities life.index ids)
  | .deleteProject project =>
      life.enter (.ok [.deleteProject project])
        (life.owner.localDeleteProject life.index project)
  | .transact staged =>
      let changes := staged.map (·.map (IndexEdit.change life.owner))
      life.enter changes (life.index.transact life.owner.layout changes)
  | .readStatistics => { life with index := (life.index.statistics life.owner.layout).1 }

def run (life : IndexLife) (operations : List IndexOperation) : IndexLife :=
  operations.foldl step life

/-- The index keeps the chronicle, the batches hold documents of entities only, and once it
is started the index has the layout and the version that its owner wants. -/
structure Sound (life : IndexLife) : Prop where
  keeps : life.index.Keeps life.chronicle
  loads : ∀ batch ∈ life.batches, batch.LoadsEntities life.owner
  serves : life.started = true → life.index.Holds life.owner.layout ∧
    life.chronicle.version = some life.owner.configuration.version

variable {life : IndexLife}

theorem sound_begin (owner : EntityIndex) {directory : IndexDirectory}
    (unbuilt : directory.content? = none) : (begin owner directory).Sound where
  keeps := LocalIndex.keeps_closed unbuilt
  loads := by
    intro batch inside
    cases inside
  serves := by
    intro started
    cases started

theorem Sound.enter (sound : life.Sound) {staged : Except SearchFailure (List IndexChange)}
    (ordinary : Chronicle.StagesOrdinary life.owner.layout staged) :
    (life.enter staged (life.index.transact life.owner.layout staged)).Sound := by
  obtain ⟨keeps, follows⟩ := sound.keeps.transact ordinary
  refine ⟨keeps, sound.loads, fun started => ?_⟩
  obtain ⟨holds, version⟩ := sound.serves started
  refine ⟨holds.follows follows, ?_⟩
  simp only [IndexLife.enter, Chronicle.version_enter]
  exact version

theorem Sound.start (sound : life.Sound) : (life.step .start).Sound := by
  simp only [step]
  cases outcome : (life.index.start life.owner.spec).2 with
  | error failure =>
      have same := LocalIndex.start_error outcome
      generalize life.index.start life.owner.spec = result at *
      obtain ⟨index, _⟩ := result
      cases outcome
      cases same
      exact sound
  | ok done =>
      have opened := sound.keeps.start life.owner.configuration
        life.owner.configuration.version outcome
      have sameSpec : life.owner.spec =
        ⟨life.owner.configuration.layout, life.owner.configuration.version⟩ := rfl
      rw [← sameSpec] at opened
      generalize life.index.start life.owner.spec = result at *
      obtain ⟨index, _⟩ := result
      cases outcome
      obtain ⟨keeps, holds, version⟩ := opened
      exact ⟨keeps, sound.loads, fun _ => ⟨holds, version⟩⟩

theorem Sound.stepBatch (sound : life.Sound) (place : Nat) (source : EntitySource) :
    (life.step (.stepBatch place source)).Sound := by
  simp only [step]
  split
  · exact sound
  · rename_i waiting found
    have isBatch := List.mem_of_getElem? found
    have loads : ({ waiting with index := life.index } : IndexingBatch).LoadsEntities life.owner :=
      sound.loads waiting isBatch
    obtain ⟨keeps, follows⟩ := IndexingBatch.keeps_step sound.keeps loads source
    refine ⟨keeps, fun batch inside => ?_, fun started => ?_⟩
    · rcases List.mem_or_eq_of_mem_set inside with other | same
      · exact sound.loads batch other
      · rw [same]
        exact IndexingBatch.loadsEntities_step loads source
    · obtain ⟨holds, version⟩ := sound.serves started
      refine ⟨holds.follows follows, ?_⟩
      rw [← version]
      simp only [IndexingBatch.enter]
      split
      · exact Chronicle.version_enter _ _ _
      · rfl

theorem Sound.step (sound : life.Sound) (operation : IndexOperation) :
    (life.step operation).Sound := by
  cases operation with
  | start => exact sound.start
  | stop => exact ⟨sound.keeps.stop, sound.loads, sound.serves⟩
  | restart owner =>
      refine ⟨sound.keeps.reopen, ?_, ?_⟩
      · intro batch inside
        cases inside
      · intro started
        cases started
  | beginBatch works =>
      refine ⟨sound.keeps, fun batch inside => ?_, sound.serves⟩
      rcases List.mem_append.1 inside with earlier | new
      · exact sound.loads batch earlier
      · rw [List.mem_singleton.1 new]
        exact IndexingBatch.loadsEntities_start life.owner life.index IndexTally.zero works
  | stepBatch place source => exact sound.stepBatch place source
  | deleteEntities ids =>
      apply sound.enter
      intro changes same change inside
      cases same
      obtain ⟨id, _, isDeletion⟩ := List.mem_map.1 inside
      rw [← isDeletion]
      exact .deleteEntity id
  | deleteProject project =>
      apply sound.enter
      intro changes same change inside
      cases same
      rw [List.mem_singleton.1 inside]
      exact .deleteProject project
  | transact staged =>
      apply sound.enter
      intro changes same change inside
      cases staged with
      | error failure => cases same
      | ok edits =>
          cases same
          obtain ⟨edit, _, isEdit⟩ := List.mem_map.1 inside
          rw [← isEdit]
          exact edit.isOrdinary_change life.owner
  | readStatistics =>
      obtain ⟨keeps, follows, _⟩ :=
        sound.keeps.statistics life.owner.configuration
      refine ⟨keeps, sound.loads, fun started => ?_⟩
      obtain ⟨holds, version⟩ := sound.serves started
      exact ⟨holds.follows follows, version⟩

/-- A sequence of operations keeps an index sound. -/
theorem Sound.run (sound : life.Sound) (operations : List IndexOperation) :
    (life.run operations).Sound := by
  induction operations generalizing life with
  | nil => exact sound
  | cons operation operations ih => exact ih (sound.step operation)

/-- The figures of an index in its directory, whether a reader is open or not. -/
theorem Sound.statistics_of_readable (sound : life.Sound) {content : IndexContent}
    (readable : life.index.directory = .readable content)
    (sameLayout : content.layout = life.owner.layout) :
    (life.index.statistics life.owner.layout).2 = .ok content.statistics := by
  unfold LocalIndex.statistics
  cases present : life.index.snapshot with
  | some shown =>
      have same := sound.keeps.shown shown present
      rw [readable] at same
      cases same
      rfl
  | none =>
      have opened : life.index.directory.openFor life.owner.layout = .ok content := by
        rw [readable]
        exact IndexDirectory.openFor_readable sameLayout
      rw [LocalIndex.openDirectory_ok opened]
      rfl

/-- Whatever happens to an index, its live documents are the markers of the chronicle and the
documents of its current entities; once it is started there is one schema marker, with the
version of its owner; an open reader shows what is in the directory, and the figures are those
of the chronicle. -/
theorem documents_follow_chronicle (owner : EntityIndex) {directory : IndexDirectory}
    (unbuilt : directory.content? = none) (operations : List IndexOperation) :
    let life := (begin owner directory).run operations
    (∀ content, life.index.directory = .readable content →
        ∃ current, life.chronicle.Shows content.documents current) ∧
      (life.started = true → life.chronicle.version = some life.owner.configuration.version ∧
        ∃ content, life.index.directory = .readable content ∧
          (life.index.statistics life.owner.layout).2 = .ok content.statistics) ∧
      (∀ content, life.index.snapshot = some content →
        life.index.directory = .readable content) ∧
      ∀ figures, (life.index.statistics life.owner.layout).2 = .ok figures →
        ∃ current, life.chronicle.IsCurrent current ∧
          figures = life.chronicle.statistics current := by
  intro life
  have sound : life.Sound := (sound_begin owner unbuilt).run operations
  refine ⟨fun content readable => ?_, fun started => ?_, sound.keeps.shown, ?_⟩
  · exact (sound.keeps.described content readable).shown
  · obtain ⟨⟨content, readable, sameLayout⟩, version⟩ := sound.serves started
    exact ⟨version, content, readable, sound.statistics_of_readable readable sameLayout⟩
  · intro figures told
    obtain ⟨_, _, fromContent⟩ := sound.keeps.statistics life.owner.configuration
    obtain ⟨content, describes, same⟩ := fromContent figures told
    obtain ⟨current, shows, sameFigures⟩ := describes.statistics
    exact ⟨current, shows.toIsCurrent, same.trans sameFigures⟩

def issueDeclaration : IndexDeclaration where
  typeName := "issue"
  indexName := some "issue"
  version := 3
  fields := [⟨"state", .keyword⟩]
  defaultFields := ["state"]
  hasExtractor := true

def issueOwner : EntityIndex :=
  ⟨⟨issueDeclaration, by decide +kernel⟩, ⟨[⟨"state", .whole⟩], [⟨"state", .whole⟩]⟩, {}⟩

/-- Two issues come and one of them goes. -/
def issueOperations : List IndexOperation :=
  [.start,
   .transact (.ok [.upsert ⟨1, 1, [("state", .text "open")]⟩, .upsert ⟨2, 1, []⟩]),
   .transact (.ok [.deleteEntity 1, .putProgressMark 2])]

def issueLife : IndexLife := (begin issueOwner .missing).run issueOperations

theorem exists_issueContent :
    ∃ content, issueLife.index.directory.openFor issueLife.owner.layout = .ok content ∧
      content.progressMark = 2 := by
  have marked : (issueLife.index.directory.openFor issueLife.owner.layout).toOption.map
      (·.progressMark) = some 2 := by decide +kernel
  cases opened : issueLife.index.directory.openFor issueLife.owner.layout with
  | error failure =>
      rw [opened] at marked
      cases marked
  | ok content =>
      rw [opened] at marked
      exact ⟨content, rfl, Option.some.inj marked⟩

theorem documents_of_issues :
    let life := (begin issueOwner .missing).run issueOperations
    life.chronicle.version = some 3 ∧ life.chronicle.lastMark? = some 2 ∧
      ∃ content, life.index.directory = .readable content ∧
        ∃ current, life.chronicle.Shows content.documents current := by
  intro life
  have unbuilt : IndexDirectory.missing.content? = none := rfl
  obtain ⟨described, serves, _, _⟩ :=
    documents_follow_chronicle issueOwner unbuilt issueOperations
  have started : life.started = true := by decide +kernel
  obtain ⟨version, content, readable, _⟩ := serves started
  have mark : life.chronicle.lastMark? = some 2 := by decide +kernel
  exact ⟨version, mark, content, readable, described content readable⟩

end IndexLife

end EntitySearch
