import EntitySearch.Proofs.CarriedVersions
import EntitySearch.Proofs.CatchUpScan
import EntitySearch.Proofs.DescribedIndexes

/-!
# Interrupted batches

A batch can fail wherever it reads the store, reads the progress mark or runs a
transaction.  It then leaves whole transactions behind: that of the requested
entities, and those of some scan batches, each of which carries the progress mark
along with its documents.  A later scan resumes from that mark, so what it leaves
when it comes to its end is what an unhindered scan would have indexed.
-/

namespace EntitySearch

namespace LocalIndex

theorem transact_of_refused {layout : Layout} {index : LocalIndex} {failure : SearchFailure}
    (refused : index.directory.openFor layout = .error failure)
    (staged : Except SearchFailure (List IndexChange)) :
    index.transact layout staged = (index.refresh, .error failure) := by
  simp only [transact, runTransaction, openDirectory_error refused]

/-- A transaction whose changes cannot be staged commits nothing. -/
theorem transact_of_unstaged {layout : Layout} {index : LocalIndex} {content : IndexContent}
    (opened : index.directory.openFor layout = .ok content) (failure : SearchFailure) :
    (index.transact layout (.error failure)).1.directory.openFor layout = .ok content := by
  have sameLayout := (IndexDirectory.openFor_eq_ok opened).1
  simp only [transact, runTransaction, openDirectory_ok opened]
  exact IndexDirectory.openFor_readable sameLayout

end LocalIndex

namespace IndexingBatch

/-! ### Steps that fail -/

/-- What goes wrong in a step of a batch. -/
inductive Trouble
  | none
  /-- The step fails before it has opened the index: the store does not answer, or the index
  cannot be opened. -/
  | refused (failure : SearchFailure)
  /-- The step opens the index and fails: the mark cannot be read, or the transaction is rolled
  back. -/
  | withdrawn (failure : SearchFailure)
  /-- The transaction fails when it has committed already. -/
  | unsettled (failure : SearchFailure)

def stepAmid (owner : EntityIndex) (source : EntitySource) (batch : IndexingBatch) :
    Trouble → IndexingBatch
  | .none => batch.step owner source
  | .refused failure => if batch.hasEnded then batch else batch.fail failure
  | .withdrawn failure =>
      match batch.phase with
      | .loading [] _ | .recording _ =>
          { batch with index := (batch.index.transact owner.layout (.error failure)).1 }.fail
            failure
      | .seeking =>
          { batch with index := (batch.index.openDirectory owner.layout).1 }.fail failure
      | _ => batch.step owner source
  | .unsettled failure =>
      match batch.staged? owner source with
      | some changes =>
          { batch with
            index :=
              { (batch.index.transact owner.layout (.ok changes)).1 with
                hasCommitted := batch.index.hasCommitted } }.fail failure
      | none => batch.step owner source

def runAmid (owner : EntityIndex) (source : EntitySource) (batch : IndexingBatch)
    (troubles : List Trouble) : IndexingBatch :=
  troubles.foldl (stepAmid owner source) batch

variable {owner : EntityIndex} {store : EntityStore} {owns : ProjectId → Bool}
  {works : List Scheduling.Work} {batch : IndexingBatch} {before now : IndexContent}

theorem runAmid_none (owner : EntityIndex) (source : EntitySource) (batch : IndexingBatch)
    (steps : Nat) : batch.runAmid owner source (List.replicate steps .none) =
      batch.run owner source steps := by
  induction steps with
  | zero => rfl
  | succ steps ih =>
      rw [runAmid] at ih
      rw [run_succ, runAmid, List.replicate_succ', List.foldl_append, ih]
      rfl

/-- Where the index cannot be opened, a batch leaves the directory as it is. -/
theorem directory_stepAmid (source : EntitySource) {failure : SearchFailure}
    (refused : batch.index.directory.openFor owner.layout = .error failure) (trouble : Trouble) :
    (batch.stepAmid owner source trouble).index.directory = batch.index.directory := by
  have stepped : (batch.step owner source).index.directory = batch.index.directory := by
    unfold step
    split
    case h_1 => split <;> rfl
    case h_2 =>
      rw [index_commitLoaded, LocalIndex.transact_of_refused refused]
      rfl
    case h_3 =>
      simp only [LocalIndex.readProgressMark, LocalIndex.openDirectory_error refused]
      rfl
    case h_4 => split <;> rfl
    case h_5 =>
      rw [index_commitScan, LocalIndex.transact_of_refused refused]
      rfl
    case h_6 => rfl
  cases trouble with
  | none => exact stepped
  | refused =>
      rw [stepAmid]
      split <;> rfl
  | withdrawn =>
      simp only [stepAmid]
      split
      · rw [LocalIndex.transact_of_refused refused]
        rfl
      · rw [LocalIndex.transact_of_refused refused]
        rfl
      · rw [LocalIndex.openDirectory_error refused]
        rfl
      · exact stepped
  | unsettled =>
      simp only [stepAmid]
      split
      · rw [LocalIndex.transact_of_refused refused]
        rfl
      · exact stepped

theorem directory_runAmid (source : EntitySource) {failure : SearchFailure}
    (refused : batch.index.directory.openFor owner.layout = .error failure)
    (troubles : List Trouble) :
    (batch.runAmid owner source troubles).index.directory = batch.index.directory := by
  induction troubles generalizing batch with
  | nil => rfl
  | cons trouble troubles ih =>
      have stepped := directory_stepAmid source refused trouble
      rw [← stepped] at refused ⊢
      exact ih refused

/-- A step either succeeds, or the batch fails with the index as it is or with the transaction
of the step committed. -/
theorem stepAmid_cases (source : EntitySource)
    (opened : batch.index.directory.openFor owner.layout = .ok now) (trouble : Trouble) :
    batch.stepAmid owner source trouble = batch.step owner source ∨
      ∃ failure index later, batch.stepAmid owner source trouble =
          { batch with index := index, phase := .ended (.error failure) } ∧
        index.directory.openFor owner.layout = .ok later ∧
          (later = now ∨ ∃ changes, batch.staged? owner source = some changes ∧
            later = now.commit changes) := by
  cases trouble with
  | none => exact Or.inl rfl
  | refused failure =>
      rw [stepAmid]
      split
      case isTrue ended => exact Or.inl (step_of_hasEnded ended).symm
      case isFalse => exact Or.inr ⟨failure, batch.index, now, rfl, opened, Or.inl rfl⟩
  | withdrawn failure =>
      have unstaged := LocalIndex.transact_of_unstaged opened failure
      simp only [stepAmid]
      split
      · exact Or.inr ⟨failure, _, now, rfl, unstaged, Or.inl rfl⟩
      · exact Or.inr ⟨failure, _, now, rfl, unstaged, Or.inl rfl⟩
      · have sameLayout := (IndexDirectory.openFor_eq_ok opened).1
        rw [LocalIndex.openDirectory_ok opened]
        exact Or.inr ⟨failure, _, now, rfl, IndexDirectory.openFor_readable sameLayout,
          Or.inl rfl⟩
      · exact Or.inl rfl
  | unsettled failure =>
      simp only [stepAmid]
      split
      case h_1 changes isStaged =>
        obtain ⟨after, committed, openedAfter⟩ := LocalIndex.transact_of_opened opened changes
        refine Or.inr ⟨failure, _, now.commit changes, rfl, ?_, Or.inr ⟨changes, isStaged, rfl⟩⟩
        rw [committed]
        exact openedAfter
      case h_2 => exact Or.inl rfl

/-! ### Whole transactions -/

def loadedDocuments (owner : EntityIndex) (store : EntityStore) (ids : List EntityId) :
    List EntityDocument :=
  (ids.filterMap store.load).map owner.documentFor

/-- The content behind the transaction of the requested entities, if there are any. -/
def withEntities (owner : EntityIndex) (store : EntityStore) (works : List Scheduling.Work)
    (before : IndexContent) : IndexContent :=
  match Scheduling.entityIds works with
  | [] => before
  | id :: ids => before.commit ((loadedDocuments owner store (id :: ids)).map .upsert)

/-- The content behind the transactions of scan batches, each of which was fetched from behind
the mark of the one before. -/
inductive ScanBatches (owner : EntityIndex) (store : EntityStore) (owns : ProjectId → Bool)
    (begun : IndexContent) : List (List Entity) → IndexContent → Prop
  | none : ScanBatches owner store owns begun [] begun
  | next {batches now fetched} (earlier : ScanBatches owner store owns begun batches now)
      (found : fetched ≠ [])
      (isFetch : fetched =
        store.queryAfter now.progressMark owner.settings.indexing.batchSize.toNat) :
      ScanBatches owner store owns begun (batches ++ [fetched])
        (now.commit (scanChanges owner (store.source owns) fetched))

/-- What there can be behind a batch of works: the content from before it, or the one behind the
transaction of the entities and those of some scan batches. -/
inductive LeavesWhole (owner : EntityIndex) (store : EntityStore) (owns : ProjectId → Bool)
    (works : List Scheduling.Work) (before : IndexContent) :
    List (List Entity) → IndexContent → Prop
  | untouched : LeavesWhole owner store owns works before [] before
  | committed {batches now}
      (scans : ScanBatches owner store owns (withEntities owner store works before) batches now)
      (asked : batches ≠ [] → works.contains .scan = true) :
      LeavesWhole owner store owns works before batches now

/-- The works ask for a scan, which has come to this content. -/
def ScansTo (owner : EntityIndex) (store : EntityStore) (owns : ProjectId → Bool)
    (works : List Scheduling.Work) (before now : IndexContent) : Prop :=
  works.contains .scan = true ∧ ∃ batches,
    ScanBatches owner store owns (withEntities owner store works before) batches now

/-- What the phase of a batch says of the content. -/
def PhaseMatches (owner : EntityIndex) (store : EntityStore) (owns : ProjectId → Bool)
    (works : List Scheduling.Work) (before now : IndexContent) : BatchPhase → Prop
  | .loading waiting documents =>
      now = before ∧ ∃ done, Scheduling.entityIds works = done ++ waiting ∧
        documents = loadedDocuments owner store done ∧ done ++ waiting ≠ []
  | .seeking => ScansTo owner store owns works before now
  | .fetching mark => mark = now.progressMark ∧ ScansTo owner store owns works before now
  | .recording fetched =>
      fetched ≠ [] ∧
        fetched = store.queryAfter now.progressMark owner.settings.indexing.batchSize.toNat ∧
        ScansTo owner store owns works before now
  | .ended outcome =>
      (∃ batches, LeavesWhole owner store owns works before batches now) ∧
        (outcome = .ok () → works.contains .scan = true →
          ∀ entity ∈ store.toList, entity.id ≤ now.progressMark)

/-- A batch of works is on its way from one content, and the other one is committed now. -/
structure Midway (owner : EntityIndex) (store : EntityStore) (owns : ProjectId → Bool)
    (works : List Scheduling.Work) (before : IndexContent) (batch : IndexingBatch)
    (now : IndexContent) : Prop where
  opened : batch.index.directory.openFor owner.layout = .ok now
  scans : batch.scans = works.contains .scan
  phase : PhaseMatches owner store owns works before now batch.phase

theorem ScansTo.leavesWhole (scansTo : ScansTo owner store owns works before now) :
    ∃ batches, LeavesWhole owner store owns works before batches now := by
  obtain ⟨asked, batches, scans⟩ := scansTo
  exact ⟨batches, .committed scans fun _ => asked⟩

theorem ScansTo.next (scansTo : ScansTo owner store owns works before now)
    {fetched : List Entity} (found : fetched ≠ [])
    (isFetch : fetched =
      store.queryAfter now.progressMark owner.settings.indexing.batchSize.toNat) :
    ScansTo owner store owns works before
      (now.commit (scanChanges owner (store.source owns) fetched)) := by
  obtain ⟨asked, batches, scans⟩ := scansTo
  exact ⟨asked, _, scans.next found isFetch⟩

theorem PhaseMatches.leavesWhole {phase : BatchPhase}
    (fits : PhaseMatches owner store owns works before now phase) :
    ∃ batches, LeavesWhole owner store owns works before batches now := by
  cases phase with
  | loading waiting documents =>
      rw [fits.1]
      exact ⟨[], .untouched⟩
  | seeking => exact ScansTo.leavesWhole fits
  | fetching mark => exact fits.2.leavesWhole
  | recording fetched => exact fits.2.2.leavesWhole
  | ended outcome => exact fits.1

/-- The transaction of the entities comes to the content that is due behind it. -/
theorem commit_loaded {documents : List EntityDocument}
    (fits : PhaseMatches owner store owns works before now (.loading [] documents)) :
    now.commit (documents.map .upsert) = withEntities owner store works before := by
  obtain ⟨rfl, done, split, rfl, requested⟩ := fits
  rw [List.append_nil] at split requested
  rw [withEntities, split]
  split
  case h_1 => exact (requested rfl).elim
  case h_2 => rfl

theorem Midway.leavesWhole_staged (midway : Midway owner store owns works before batch now)
    {changes : List IndexChange}
    (isStaged : batch.staged? owner (store.source owns) = some changes) :
    ∃ batches, LeavesWhole owner store owns works before batches (now.commit changes) := by
  have fits := midway.phase
  unfold staged? at isStaged
  split at isStaged
  case h_1 documents isLoading =>
    cases isStaged
    rw [isLoading] at fits
    rw [commit_loaded fits]
    exact ⟨[], .committed .none fun none => (none rfl).elim⟩
  case h_2 fetched isRecording =>
    cases isStaged
    rw [isRecording] at fits
    exact (fits.2.2.next fits.1 fits.2.1).leavesWhole
  case h_3 => cases isStaged

theorem matches_afterLoading (isNow : now = withEntities owner store works before) :
    PhaseMatches owner store owns works before now (afterLoading (works.contains .scan)) := by
  subst isNow
  rw [afterLoading]
  split
  case isTrue asked => exact ⟨asked, [], .none⟩
  case isFalse unasked =>
    exact ⟨⟨[], .committed .none fun none => (none rfl).elim⟩,
      fun _ asked => (unasked asked).elim⟩

end IndexingBatch

theorem IndexContent.progressMark_commit_putProgressMark {content : IndexContent}
    {configuration : IndexConfiguration} (accepted : content.layout = configuration.layout)
    (changes : List IndexChange) (mark : EntityId) :
    (content.commit (changes ++ [.putProgressMark mark])).progressMark = mark := by
  have documents : (content.commit (changes ++ [.putProgressMark mark])).documents =
      ((content.commit changes).documents.filter fun document =>
        !(document.isOf .progressMarker)) ++ [Document.progressMarker mark] := by
    rw [documents_commit, List.foldl_append, ← documents_commit, accepted]
    have targets : IndexChange.targets configuration.layout (.putProgressMark mark) =
        Document.isOf .progressMarker := by
      funext document
      exact IndexChange.targets_eq configuration (.putProgressMark mark) document
    simp only [List.foldl_cons, List.foldl_nil, IndexChange.apply, targets]
    rfl
  have marker : ((content.commit (changes ++ [.putProgressMark mark])).ofKind .progressMarker).map
      (·.document) = [Document.progressMarker mark] := by
    have committed : (content.commit (changes ++ [.putProgressMark mark])).layout =
        configuration.layout := accepted
    rw [documents_ofKind committed, documents, List.filter_append, List.filter_filter]
    simp [Document.isOf_progressMarker]
  rw [progressMark, marker?_eq, marker]
  rfl

namespace IndexingBatch

variable {owner : EntityIndex} {store : EntityStore} {owns : ProjectId → Bool}
  {works : List Scheduling.Work} {batch : IndexingBatch} {before now : IndexContent}

namespace Midway

theorem start (owner : EntityIndex) (store : EntityStore) (owns : ProjectId → Bool)
    (works : List Scheduling.Work) {index : LocalIndex}
    (opened : index.directory.openFor owner.layout = .ok before) (tally : IndexTally) :
    Midway owner store owns works before (start index tally works) before := by
  refine ⟨?_, ?_, ?_⟩
  · rw [index_start]
    exact opened
  · unfold IndexingBatch.start
    split <;> rfl
  · unfold IndexingBatch.start
    split
    case h_1 none =>
      apply matches_afterLoading
      rw [withEntities, none]
    case h_2 id ids requested => exact ⟨rfl, [], requested, rfl, by simp⟩

theorem step_loaded (midway : Midway owner store owns works before batch now)
    {documents : List EntityDocument} (phase : batch.phase = .loading [] documents) :
    ∃ later, Midway owner store owns works before (batch.step owner (store.source owns)) later := by
  have fits := midway.phase
  rw [phase] at fits
  obtain ⟨after, committed, opened⟩ := LocalIndex.transact_of_opened midway.opened
    (documents.map .upsert)
  refine ⟨now.commit (documents.map .upsert), ?_⟩
  simp only [IndexingBatch.step, phase, commitLoaded, committed]
  exact ⟨opened, midway.scans, midway.scans ▸ matches_afterLoading (commit_loaded fits)⟩

theorem step_loading (midway : Midway owner store owns works before batch now)
    {id : EntityId} {waiting : List EntityId} {documents : List EntityDocument}
    (phase : batch.phase = .loading (id :: waiting) documents) :
    Midway owner store owns works before (batch.step owner (store.source owns)) now := by
  have fits := midway.phase
  rw [phase] at fits
  obtain ⟨isBefore, done, split, isLoaded, requested⟩ := fits
  have moved : Scheduling.entityIds works = (done ++ [id]) ++ waiting := by
    rw [split, List.append_assoc]
    rfl
  have remain : (done ++ [id]) ++ waiting ≠ [] := by simp
  cases load : store.load id with
  | none =>
      simp only [IndexingBatch.step, phase, EntityStore.source, load]
      refine ⟨midway.opened, midway.scans, isBefore, done ++ [id], moved, ?_, remain⟩
      simp [isLoaded, loadedDocuments, load]
  | some entity =>
      simp only [IndexingBatch.step, phase, EntityStore.source, load]
      refine ⟨midway.opened, midway.scans, isBefore, done ++ [id], moved, ?_, remain⟩
      simp [isLoaded, loadedDocuments, load]

theorem step_seeking (midway : Midway owner store owns works before batch now)
    (phase : batch.phase = .seeking) :
    Midway owner store owns works before (batch.step owner (store.source owns)) now := by
  have fits := midway.phase
  rw [phase] at fits
  obtain ⟨index, told, opened⟩ := LocalIndex.readProgressMark_of_opened midway.opened
  simp only [IndexingBatch.step, phase, told]
  exact ⟨opened, midway.scans, rfl, fits⟩

theorem step_fetching (midway : Midway owner store owns works before batch now)
    (positive : 0 < owner.settings.indexing.batchSize) {mark : EntityId}
    (phase : batch.phase = .fetching mark) :
    Midway owner store owns works before (batch.step owner (store.source owns)) now := by
  have fits := midway.phase
  rw [phase] at fits
  obtain ⟨rfl, scansTo⟩ := fits
  cases found : store.queryAfter now.progressMark owner.settings.indexing.batchSize.toNat with
  | nil =>
      simp only [IndexingBatch.step, phase, EntityStore.source, found]
      exact ⟨midway.opened, midway.scans, scansTo.leavesWhole, fun _ _ =>
        le_mark_of_nil store (UInt64.lt_iff_toNat_lt.1 positive) found⟩
  | cons entity fetched =>
      simp only [IndexingBatch.step, phase, EntityStore.source, found]
      exact ⟨midway.opened, midway.scans, by simp, found.symm, scansTo⟩

theorem step_recording (midway : Midway owner store owns works before batch now)
    {fetched : List Entity} (phase : batch.phase = .recording fetched) :
    ∃ later, Midway owner store owns works before (batch.step owner (store.source owns)) later := by
  have fits := midway.phase
  rw [phase] at fits
  obtain ⟨found, isFetch, scansTo⟩ := fits
  obtain ⟨index, committed, opened⟩ := LocalIndex.transact_of_opened midway.opened
    (scanChanges owner (store.source owns) fetched)
  have marked : (now.commit (scanChanges owner (store.source owns) fetched)).progressMark =
      lastId fetched :=
    IndexContent.progressMark_commit_putProgressMark
      (IndexDirectory.openFor_eq_ok midway.opened).1 _ _
  have next := scansTo.next found isFetch
  refine ⟨now.commit (scanChanges owner (store.source owns) fetched), ?_⟩
  rw [scanChanges] at committed
  simp only [IndexingBatch.step, phase, commitScan, committed]
  refine ⟨opened, midway.scans, ?_⟩
  dsimp only
  split
  case isTrue => exact next
  case isFalse short =>
    refine ⟨next.leavesWhole, fun _ _ => ?_⟩
    rw [marked]
    rw [isFetch] at short found ⊢
    exact le_lastId_of_short store found (Nat.not_le.1 short)

theorem step (midway : Midway owner store owns works before batch now)
    (positive : 0 < owner.settings.indexing.batchSize) :
    ∃ later, Midway owner store owns works before (batch.step owner (store.source owns)) later := by
  cases phase : batch.phase with
  | loading waiting documents =>
      cases waiting with
      | nil => exact midway.step_loaded phase
      | cons id waiting => exact ⟨now, midway.step_loading phase⟩
  | seeking => exact ⟨now, midway.step_seeking phase⟩
  | fetching mark => exact ⟨now, midway.step_fetching positive phase⟩
  | recording fetched => exact midway.step_recording phase
  | ended outcome =>
      refine ⟨now, ?_⟩
      simp only [IndexingBatch.step, phase]
      exact midway

theorem stepAmid (midway : Midway owner store owns works before batch now)
    (positive : 0 < owner.settings.indexing.batchSize) (trouble : Trouble) :
    ∃ later, Midway owner store owns works before
      (batch.stepAmid owner (store.source owns) trouble) later := by
  rcases stepAmid_cases (store.source owns) midway.opened trouble with
    same | ⟨failure, index, later, same, opened, unchanged | ⟨changes, isStaged, committed⟩⟩
  · rw [same]
    exact midway.step positive
  · rw [same]
    refine ⟨later, opened, midway.scans, ?_, by simp⟩
    rw [unchanged]
    exact midway.phase.leavesWhole
  · rw [same]
    refine ⟨later, opened, midway.scans, ?_, by simp⟩
    rw [committed]
    exact midway.leavesWhole_staged isStaged

theorem runAmid (midway : Midway owner store owns works before batch now)
    (positive : 0 < owner.settings.indexing.batchSize) (troubles : List Trouble) :
    ∃ later, Midway owner store owns works before
      (batch.runAmid owner (store.source owns) troubles) later := by
  induction troubles generalizing batch now with
  | nil => exact ⟨now, midway⟩
  | cons trouble troubles ih =>
      obtain ⟨later, stepped⟩ := midway.stepAmid positive trouble
      exact ih stepped

end Midway

end IndexingBatch

end EntitySearch
