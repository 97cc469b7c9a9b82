import EntitySearch.Proofs.IndexLife

/-!
# Indexes with a chronicle

Several services can share a directory, so that the snapshot of one may be older
than what another one has committed.  Whatever they do, the directory and every
snapshot are at all times what some chronicle says.
-/

namespace EntitySearch

def IndexContent.IsDescribed (content : IndexContent) : Prop :=
  ∃ chronicle : Chronicle, chronicle.Describes content

namespace LocalIndex

/-- What is in the directory and what the reader shows is each described by a chronicle. -/
structure IsDescribed (index : LocalIndex) : Prop where
  directory : ∀ content, index.directory = .readable content → content.IsDescribed
  snapshot : ∀ content, index.snapshot = some content → content.IsDescribed

variable {index : LocalIndex}

theorem Keeps.isDescribed {chronicle : Chronicle} (keeps : index.Keeps chronicle) :
    index.IsDescribed where
  directory := fun content readable => ⟨chronicle, keeps.described content readable⟩
  snapshot := fun content shown => ⟨chronicle, keeps.described content (keeps.shown content shown)⟩

theorem IsDescribed.stop (described : index.IsDescribed) : index.stop.IsDescribed where
  directory := described.directory
  snapshot := by
    intro content shown
    cases shown

/-- A directory without an index takes nothing away. -/
theorem IsDescribed.damage (described : index.IsDescribed) {directory : IndexDirectory}
    (unbuilt : directory.content? = none) :
    ({ index with directory := directory } : LocalIndex).IsDescribed where
  directory := by
    intro content readable
    rw [IndexDirectory.content?_eq_some.2 readable] at unbuilt
    cases unbuilt
  snapshot := described.snapshot

/-- Another described index takes the place of the one in the directory. -/
theorem IsDescribed.replace (described : index.IsDescribed) {content : IndexContent}
    (contentDescribed : content.IsDescribed) (committed : Bool) :
    (⟨.readable content, index.snapshot, committed⟩ : LocalIndex).IsDescribed where
  directory := by
    intro other readable
    cases readable
    exact contentDescribed
  snapshot := described.snapshot

theorem IsDescribed.refresh (described : index.IsDescribed) : index.refresh.IsDescribed where
  directory := described.directory
  snapshot := by
    intro content shown
    obtain ⟨earlier, present, same⟩ := Option.map_eq_some_iff.1 shown
    cases readable : index.directory.content? with
    | none =>
        rw [readable] at same
        cases same
        exact described.snapshot _ present
    | some newer =>
        rw [readable] at same
        cases same
        exact described.directory _ (IndexDirectory.content?_eq_some.1 readable)

/-- What opening for the layout of a configuration leaves behind and finds. -/
theorem IsDescribed.openDirectory (described : index.IsDescribed)
    (configuration : IndexConfiguration) :
    (index.openDirectory configuration.layout).1.IsDescribed ∧
      ∀ content, (index.openDirectory configuration.layout).2 = .ok content →
        (index.openDirectory configuration.layout).1 =
            { index with directory := .readable content } ∧
          content.layout = configuration.layout ∧ content.IsDescribed := by
  cases opened : index.directory.openFor configuration.layout with
  | error failure =>
      rw [openDirectory_error opened]
      refine ⟨described, fun content isOpened => ?_⟩
      cases isOpened
  | ok content =>
      rw [openDirectory_ok opened]
      have contentDescribed : content.IsDescribed := by
        obtain ⟨_, before | ⟨_, new⟩⟩ := IndexDirectory.openFor_eq_ok opened
        · exact described.directory content before
        · rw [new]
          exact ⟨Chronicle.blank, Chronicle.Describes.empty configuration⟩
      obtain ⟨sameLayout, _⟩ := IndexDirectory.openFor_eq_ok opened
      refine ⟨described.replace contentDescribed index.hasCommitted, fun other isOpened => ?_⟩
      cases isOpened
      exact ⟨rfl, sameLayout, contentDescribed⟩

/-- A transaction of ordinary changes leaves a described index. -/
theorem IsDescribed.transact (described : index.IsDescribed) {configuration : IndexConfiguration}
    {staged : Except SearchFailure (List IndexChange)}
    (ordinary : Chronicle.StagesOrdinary configuration.layout staged) :
    (index.transact configuration.layout staged).1.IsDescribed := by
  obtain ⟨openedDescribed, openedOk⟩ := described.openDirectory configuration
  unfold LocalIndex.transact runTransaction
  generalize index.openDirectory configuration.layout = result at *
  obtain ⟨opened, outcome⟩ := result
  cases outcome with
  | error failure => exact openedDescribed.refresh
  | ok content =>
      obtain ⟨_, sameLayout, chronicle, describes⟩ := openedOk content rfl
      cases staged with
      | error failure => exact openedDescribed.refresh
      | ok changes =>
          have staged := ordinary changes rfl
          rw [← sameLayout] at staged
          exact (openedDescribed.replace ⟨_, describes.commit staged⟩ true).refresh

theorem IsDescribed.start (described : index.IsDescribed) (configuration : IndexConfiguration)
    (version : UInt64) : (index.start ⟨configuration.layout, version⟩).1.IsDescribed := by
  cases started : (index.start ⟨configuration.layout, version⟩).2 with
  | error failure =>
      rw [start_error started]
      exact described
  | ok done =>
      by_cases current : storedVersion? configuration.layout index.directory = some version
      · obtain ⟨content, readable, sameLayout, recorded⟩ := storedVersion?_eq_some.1 current
        have contentDescribed := described.directory content readable
        rw [start_current readable sameLayout recorded]
        refine ⟨fun other isThere => ?_, fun other isShown => ?_⟩
        · cases isThere
          exact contentDescribed
        · cases isShown
          exact contentDescribed
      · cases created : index.directory.create with
        | error refusal =>
            simp only [LocalIndex.start, created] at started
            cases started
        | ok directory =>
            rw [start_stale created current]
            have rebuilt : ((IndexContent.empty configuration.layout).commit
                [.putSchemaMarker version]).IsDescribed :=
              ⟨_, Chronicle.Describes.rebuilt configuration version⟩
            refine ⟨fun other isThere => ?_, fun other isShown => ?_⟩
            · cases isThere
              exact rebuilt
            · cases isShown
              exact rebuilt

theorem IsDescribed.readProgressMark (described : index.IsDescribed)
    (configuration : IndexConfiguration) :
    (index.readProgressMark configuration.layout).1.IsDescribed :=
  (described.openDirectory configuration).1

theorem IsDescribed.statistics (described : index.IsDescribed)
    (configuration : IndexConfiguration) :
    (index.statistics configuration.layout).1.IsDescribed := by
  unfold LocalIndex.statistics
  split
  · exact described
  · exact (described.openDirectory configuration).1

end LocalIndex

namespace EntityIndex

theorem stagesOrdinary_deleteEntities (owner : EntityIndex) (ids : List EntityId) :
    Chronicle.StagesOrdinary owner.layout (.ok (ids.map .deleteEntity)) := by
  intro changes same change inside
  cases same
  obtain ⟨id, _, rfl⟩ := List.mem_map.1 inside
  exact .deleteEntity id

theorem stagesOrdinary_deleteProject (owner : EntityIndex) (project : ProjectId) :
    Chronicle.StagesOrdinary owner.layout (.ok [.deleteProject project]) := by
  intro changes same change inside
  cases same
  rw [List.mem_singleton.1 inside]
  exact .deleteProject project

theorem stagesOrdinary_edits (owner : EntityIndex)
    (staged : Except SearchFailure (List IndexEdit)) :
    Chronicle.StagesOrdinary owner.layout (staged.map (·.map (·.change owner))) := by
  intro changes same change inside
  cases staged with
  | error failure => cases same
  | ok edits =>
      cases same
      obtain ⟨edit, _, rfl⟩ := List.mem_map.1 inside
      exact edit.isOrdinary_change owner

/-- Whatever a task does to an index, it stays described. -/
theorem isDescribed_answer (owner : EntityIndex) {index : LocalIndex}
    (described : index.IsDescribed) (task : ClusterTask) :
    (owner.answer index task).1.IsDescribed := by
  cases task with
  | count _ _ => exact described
  | search _ _ _ => exact described
  | deleteProject _ project =>
      exact described.transact (owner.stagesOrdinary_deleteProject project)

end EntityIndex

namespace IndexingBatch

variable {owner : EntityIndex} {batch : IndexingBatch}

theorem index_start (index : LocalIndex) (tally : IndexTally) (works : List Scheduling.Work) :
    (start index tally works).index = index := by
  unfold start
  split <;> rfl

theorem isDescribed_step (described : batch.index.IsDescribed)
    (loads : batch.LoadsEntities owner) (source : EntitySource) :
    (batch.step owner source).index.IsDescribed := by
  unfold step
  split
  case h_1 => split <;> exact described
  case h_2 documents isLoading =>
    rw [index_commitLoaded]
    apply described.transact
    intro changes same
    cases same
    exact isOrdinary_upserts (loads [] documents isLoading)
  case h_3 isSeeking =>
    have opened := described.readProgressMark owner.configuration
    have sameIndex : (batch.index.readProgressMark owner.layout).1 =
        (batch.index.readProgressMark owner.configuration.layout).1 := rfl
    rw [← sameIndex] at opened
    generalize batch.index.readProgressMark owner.layout = result at *
    obtain ⟨index, _ | _⟩ := result <;> exact opened
  case h_4 => split <;> exact described
  case h_5 fetched isRecording =>
    rw [index_commitScan]
    apply described.transact
    have isStaged : batch.staged? owner source = some (scanChanges owner source fetched) := by
      simp only [staged?, isRecording]
    intro changes same
    cases same
    exact isOrdinary_staged? loads isStaged
  case h_6 => exact described

/-- A batch leaves a described index, however many steps it takes. -/
theorem isDescribed_run (described : batch.index.IsDescribed)
    (loads : batch.LoadsEntities owner) (source : EntitySource) (steps : Nat) :
    (batch.run owner source steps).index.IsDescribed := by
  induction steps generalizing batch with
  | zero => exact described
  | succ steps ih =>
      unfold run
      split
      · exact described
      · exact ih (isDescribed_step described loads source) (loadsEntities_step loads source)

end IndexingBatch

end EntitySearch
