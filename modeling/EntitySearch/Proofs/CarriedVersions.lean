import EntitySearch.Proofs.IndexLife
import EntitySearch.Proofs.ReplacedDocuments
import EntitySearch.Proofs.StoreOrder

/-!
# Versions that a batch carries

Between reading an entity and committing its document a batch carries a version of
it.  As long as what it carries is what the store holds, a step of the batch turns
an awaited entity into a carried one and a carried one into an indexed one, and
loses neither.
-/

namespace EntitySearch

namespace Scheduling

theorem nodup_eraseDups (ids : List EntityId) : ids.eraseDups.Nodup := by
  induction length : ids.length using Nat.strongRecOn generalizing ids with
  | ind size ih =>
      cases ids with
      | nil => simp
      | cons id ids =>
          rw [List.eraseDups_cons, List.nodup_cons, List.mem_eraseDups]
          refine ⟨by simp, ih _ ?_ _ rfl⟩
          have shorter := List.length_filter_le (fun other => !other == id) ids
          rw [List.length_cons] at length
          omega

theorem mem_entityIds {works : List Work} {id : EntityId} :
    id ∈ entityIds works ↔ .entity id ∈ works := by
  rw [entityIds, List.mem_eraseDups, List.mem_mergeSort, List.mem_filterMap]
  constructor
  · rintro ⟨work, inside, isEntity⟩
    cases work with
    | entity other =>
        cases isEntity
        exact inside
    | scan => cases isEntity
  · exact fun inside => ⟨.entity id, inside, rfl⟩

end Scheduling

namespace IndexingBatch

/-- The documents of what a batch has read and not committed. -/
def staged (owner : EntityIndex) (batch : IndexingBatch) : List EntityDocument :=
  match batch.phase with
  | .loading _ documents => documents
  | .recording fetched => fetched.map owner.documentFor
  | _ => []

/-- The batch is going to load the entity. -/
def Awaits (batch : IndexingBatch) (id : EntityId) : Prop :=
  ∃ waiting documents, batch.phase = .loading waiting documents ∧ id ∈ waiting

/-- The batch has loaded the document and is going to commit it. -/
def Holds (batch : IndexingBatch) (document : EntityDocument) : Prop :=
  ∃ waiting documents, batch.phase = .loading waiting documents ∧ document ∈ documents

/-- The batch has not failed, and reads no entity twice for one commit. -/
def Proper (batch : IndexingBatch) : Prop :=
  match batch.phase with
  | .loading waiting documents => (documents.map (·.id) ++ waiting).Nodup
  | .recording fetched => (fetched.map (·.id)).Nodup
  | .ended outcome => outcome = .ok ()
  | _ => True

/-- The document is in the index or on its way there, and no other one with its identifier is
on the way. -/
structure Carries (owner : EntityIndex) (batch : IndexingBatch) (current : List EntityDocument)
    (document : EntityDocument) : Prop where
  only : ∀ other ∈ batch.staged owner, other.id = document.id → other = document
  present : document ∈ current ∨ batch.Holds document

/-- From one state of a batch and the documents of its index to another no version that the
store holds gets lost. -/
structure Hands (owner : EntityIndex) (store : EntityStore) (batch : IndexingBatch)
    (current : List EntityDocument) (after : IndexingBatch) (later : List EntityDocument) :
    Prop where
  proper : after.Proper
  awaited : ∀ id entity, store.load id = some entity → batch.Awaits id →
    after.Awaits id ∨ after.Carries owner later (owner.documentFor entity)
  carried : ∀ id entity, store.load id = some entity →
    batch.Carries owner current (owner.documentFor entity) →
      after.Carries owner later (owner.documentFor entity)

variable {owner : EntityIndex} {store : EntityStore} {batch after : IndexingBatch}
  {current later : List EntityDocument} {document : EntityDocument}

theorem not_awaits (other : ∀ waiting documents, batch.phase ≠ .loading waiting documents)
    (id : EntityId) : ¬ batch.Awaits id := by
  rintro ⟨waiting, documents, isLoading, _⟩
  exact other waiting documents isLoading

theorem Awaits.hasEnded {id : EntityId} (awaits : batch.Awaits id) : batch.hasEnded = false := by
  obtain ⟨waiting, documents, isLoading, _⟩ := awaits
  simp [IndexingBatch.hasEnded, isLoading]

theorem Holds.hasEnded (holds : batch.Holds document) : batch.hasEnded = false := by
  obtain ⟨waiting, documents, isLoading, _⟩ := holds
  simp [IndexingBatch.hasEnded, isLoading]

/-- A batch that is not loading carries nothing but what is in the index already. -/
theorem Carries.mem_current (carries : batch.Carries owner current document)
    (other : ∀ waiting documents, batch.phase ≠ .loading waiting documents) :
    document ∈ current := by
  refine carries.present.resolve_right ?_
  rintro ⟨waiting, documents, isLoading, _⟩
  exact other waiting documents isLoading

theorem carries_of_mem (inside : document ∈ current) (nothing : batch.staged owner = []) :
    batch.Carries owner current document where
  only := by simp [nothing]
  present := Or.inl inside

section Start

variable (index : LocalIndex) (tally : IndexTally) (works : List Scheduling.Work)

theorem start_cases :
    (Scheduling.entityIds works = [] ∧
        (start index tally works).phase = afterLoading (works.contains .scan)) ∨
      (start index tally works).phase = .loading (Scheduling.entityIds works) [] := by
  unfold start
  cases Scheduling.entityIds works with
  | nil => exact Or.inl ⟨rfl, rfl⟩
  | cons id ids => exact Or.inr rfl

theorem proper_start : (start index tally works).Proper := by
  rw [Proper]
  rcases start_cases index tally works with ⟨_, isNext⟩ | isNext
  · rw [isNext]
    cases works.contains .scan <;> trivial
  · rw [isNext]
    exact Scheduling.nodup_eraseDups _

theorem staged_start (owner : EntityIndex) : (start index tally works).staged owner = [] := by
  rw [staged]
  rcases start_cases index tally works with ⟨_, isNext⟩ | isNext
  · rw [isNext]
    cases works.contains .scan <;> rfl
  · rw [isNext]

theorem awaits_start {id : EntityId} (inside : .entity id ∈ works) :
    (start index tally works).Awaits id := by
  have isWanted := Scheduling.mem_entityIds.2 inside
  rcases start_cases index tally works with ⟨none, _⟩ | isNext
  · rw [none] at isWanted
    cases isWanted
  · exact ⟨_, _, isNext, isWanted⟩

end Start

theorem hands_load_none {id : EntityId} {waiting : List EntityId}
    {documents : List EntityDocument} (proper : batch.Proper)
    (isLoading : batch.phase = .loading (id :: waiting) documents)
    (gone : store.load id = none) :
    batch.Hands owner store current { batch with phase := .loading waiting documents }
      current where
  proper := by
    rw [Proper, isLoading] at proper
    exact proper.sublist ((List.sublist_cons_self id waiting).append_left _)
  awaited := by
    rintro other entity present ⟨before, loaded, same, inside⟩
    obtain ⟨rfl, rfl⟩ := BatchPhase.loading.inj (isLoading.symm.trans same)
    rcases List.mem_cons.1 inside with rfl | behind
    · rw [gone] at present
      cases present
    · exact Or.inl ⟨waiting, documents, rfl, behind⟩
  carried := by
    intro other entity _ carries
    refine ⟨?_, carries.present.imp_right ?_⟩
    · have only := carries.only
      rw [staged, isLoading] at only
      exact only
    · rintro ⟨before, loaded, same, inside⟩
      obtain ⟨rfl, rfl⟩ := BatchPhase.loading.inj (isLoading.symm.trans same)
      exact ⟨waiting, documents, rfl, inside⟩

theorem hands_load_some {id : EntityId} {waiting : List EntityId}
    {documents : List EntityDocument} {loaded : Entity} (proper : batch.Proper)
    (isLoading : batch.phase = .loading (id :: waiting) documents)
    (found : store.load id = some loaded) :
    batch.Hands owner store current
      { batch with phase := .loading waiting (documents ++ [owner.documentFor loaded]) }
      current := by
  have sameId := EntityStore.id_of_load found
  have documentId : (owner.documentFor loaded).id = id := sameId
  rw [Proper, isLoading] at proper
  have fresh : id ∉ documents.map (·.id) := fun inside =>
    (List.nodup_append.1 proper).2.2 id inside id List.mem_cons_self rfl
  refine ⟨?_, ?_, ?_⟩
  · simpa [Proper, documentId] using proper
  · rintro other entity present ⟨before, held, same, inside⟩
    obtain ⟨rfl, rfl⟩ := BatchPhase.loading.inj (isLoading.symm.trans same)
    rcases List.mem_cons.1 inside with rfl | behind
    · obtain rfl : loaded = entity := Option.some.inj (found.symm.trans present)
      refine Or.inr ⟨fun document staged sameDocument => ?_, Or.inr ⟨waiting, _, rfl, by simp⟩⟩
      rcases List.mem_append.1 staged with early | last
      · rw [documentId] at sameDocument
        exact absurd (List.mem_map.2 ⟨document, early, sameDocument⟩) fresh
      · exact List.mem_singleton.1 last
    · exact Or.inl ⟨waiting, _, rfl, behind⟩
  · intro other entity present carries
    have only := carries.only
    rw [staged, isLoading] at only
    refine ⟨fun document staged sameDocument => ?_, carries.present.imp_right ?_⟩
    · rcases List.mem_append.1 staged with early | last
      · exact only document early sameDocument
      · rw [List.mem_singleton.1 last] at sameDocument ⊢
        have sameEntity : id = other := by
          rw [← documentId, sameDocument]
          exact EntityStore.id_of_load present
        rw [sameEntity, present] at found
        rw [Option.some.inj found]
    · rintro ⟨before, held, same, inside⟩
      obtain ⟨rfl, rfl⟩ := BatchPhase.loading.inj (isLoading.symm.trans same)
      exact ⟨waiting, _, rfl, List.mem_append_left _ inside⟩

theorem hands_commit_loaded {documents : List EntityDocument}
    (isLoading : batch.phase = .loading [] documents)
    (afterwards : after.phase = afterLoading batch.scans) :
    batch.Hands owner store current after (overlay current documents) := by
  have nothing : after.staged owner = [] := by
    rw [staged, afterwards]
    cases batch.scans <;> rfl
  refine ⟨?_, ?_, ?_⟩
  · rw [Proper, afterwards]
    cases batch.scans <;> trivial
  · rintro id entity _ ⟨waiting, held, same, inside⟩
    obtain ⟨rfl, rfl⟩ := BatchPhase.loading.inj (isLoading.symm.trans same)
    cases inside
  · intro id entity _ carries
    have only := carries.only
    rw [staged, isLoading] at only
    refine carries_of_mem (mem_overlay_of_only (carries.present.imp_right ?_) only) nothing
    rintro ⟨waiting, held, same, inside⟩
    obtain ⟨rfl, rfl⟩ := BatchPhase.loading.inj (isLoading.symm.trans same)
    exact inside

/-- A step of a scan changes nothing that is carried: what it commits is staged before. -/
theorem hands_scan {newer : List EntityDocument}
    (other : ∀ waiting documents, batch.phase ≠ .loading waiting documents)
    (fromStaged : ∀ document ∈ newer, document ∈ batch.staged owner) (proper : after.Proper)
    (fetched : ∀ document ∈ after.staged owner, ∃ entity ∈ store.toList,
      document = owner.documentFor entity) :
    batch.Hands owner store current after (overlay current newer) where
  proper := proper
  awaited id entity _ awaits := absurd awaits (not_awaits other id)
  carried := by
    intro id entity present carries
    have only := carries.only
    refine ⟨fun document staged same => ?_, Or.inl (mem_overlay_of_only
      (Or.inl (carries.mem_current other)) fun document inside => only document
        (fromStaged document inside))⟩
    obtain ⟨read, stored, rfl⟩ := fetched document staged
    have sameId : read.id = id := same.trans (EntityStore.id_of_load present)
    have loaded := EntityStore.load_of_mem stored
    rw [sameId, present] at loaded
    rw [Option.some.inj loaded]

theorem mem_toList_of_fetched {mark : EntityId} {limit : Nat} {entity : Entity}
    (fetched : entity ∈ store.queryAfter mark limit) : entity ∈ store.toList :=
  (List.mem_filter.1 (List.mem_of_mem_take fetched)).1

theorem nodup_fetched (store : EntityStore) (mark : EntityId) (limit : Nat) :
    ((store.queryAfter mark limit).map (·.id)).Nodup := by
  rw [List.Nodup, List.pairwise_map]
  exact ((store.ascending_toList.filter _).take).imp UInt64.ne_of_lt

theorem ownedDocuments_sublist (owner : EntityIndex) (source : EntitySource)
    (fetched : List Entity) :
    (ownedDocuments owner source fetched).Sublist (fetched.map owner.documentFor) :=
  List.filter_sublist.map _

section Steps

variable {content : IndexContent} {chronicle : Chronicle} (proper : batch.Proper)
  (opened : batch.index.directory.openFor owner.layout = .ok content)
  (describes : chronicle.DescribesAs content current) (owns : ProjectId → Bool)

/-- The step leaves an index that can be opened, and loses no version that the store holds. -/
def HandsOn (owner : EntityIndex) (store : EntityStore) (batch : IndexingBatch)
    (current : List EntityDocument) (after : IndexingBatch) : Prop :=
  ∃ (content : IndexContent) (chronicle : Chronicle) (later : List EntityDocument),
    after.index.directory.openFor owner.layout = .ok content ∧
      chronicle.DescribesAs content later ∧ batch.Hands owner store current after later

include opened describes

theorem handsOn_seeking (isSeeking : batch.phase = .seeking) :
    batch.HandsOn owner store current (batch.step owner (store.source owns)) := by
  obtain ⟨index, told, openedAfter⟩ := LocalIndex.readProgressMark_of_opened opened
  have stepped : batch.step owner (store.source owns) =
      { batch with index := index, phase := .fetching content.progressMark } := by
    simp only [step, isSeeking, told]
  rw [stepped]
  have hands : batch.Hands owner store current
      { batch with index := index, phase := .fetching content.progressMark }
      (overlay current []) :=
    hands_scan (by simp [isSeeking]) (by simp) trivial (by simp [staged])
  rw [overlay_nil] at hands
  exact ⟨content, chronicle, current, openedAfter, describes, hands⟩

theorem handsOn_fetching {mark : EntityId} (isFetching : batch.phase = .fetching mark) :
    batch.HandsOn owner store current (batch.step owner (store.source owns)) := by
  have noLoading : ∀ waiting documents, batch.phase ≠ .loading waiting documents := by
    simp [isFetching]
  cases found : store.queryAfter mark owner.settings.indexing.batchSize.toNat with
  | nil =>
      have stepped : batch.step owner (store.source owns) =
          { batch with phase := .ended (.ok ()) } := by
        simp only [step, isFetching, EntityStore.source, found]
      rw [stepped]
      have hands : batch.Hands owner store current { batch with phase := .ended (.ok ()) }
          (overlay current []) :=
        hands_scan noLoading (by simp) rfl (by simp [staged])
      rw [overlay_nil] at hands
      exact ⟨content, chronicle, current, opened, describes, hands⟩
  | cons entity fetched =>
      have stepped : batch.step owner (store.source owns) =
          { batch with phase := .recording (entity :: fetched) } := by
        simp only [step, isFetching, EntityStore.source, found]
      rw [stepped]
      have distinct := nodup_fetched store mark owner.settings.indexing.batchSize.toNat
      rw [found] at distinct
      have hands : batch.Hands owner store current
          { batch with phase := .recording (entity :: fetched) } (overlay current []) := by
        refine hands_scan noLoading (by simp) distinct fun document isStaged => ?_
        obtain ⟨read, inFetched, rfl⟩ := List.mem_map.1 isStaged
        rw [← found] at inFetched
        exact ⟨read, mem_toList_of_fetched inFetched, rfl⟩
      rw [overlay_nil] at hands
      exact ⟨content, chronicle, current, opened, describes, hands⟩

include proper

theorem handsOn_loading (loads : batch.LoadsEntities owner) {waiting : List EntityId}
    {documents : List EntityDocument} (isLoading : batch.phase = .loading waiting documents) :
    batch.HandsOn owner store current (batch.step owner (store.source owns)) := by
  cases waiting with
  | nil =>
      obtain ⟨index, committed, openedAfter⟩ :=
        LocalIndex.transact_of_opened opened (documents.map .upsert)
      have stepped : batch.step owner (store.source owns) =
          { batch with
            index := index
            tally := { batch.tally with indexed := batch.tally.indexed + documents.length }
            phase := afterLoading batch.scans } := by
        simp only [step, isLoading, commitLoaded, committed]
      have ordinary := isOrdinary_upserts (loads [] documents isLoading)
      rw [← (IndexDirectory.openFor_eq_ok opened).1] at ordinary
      have distinct : (documents.map (·.id)).Nodup := by
        rw [Proper, isLoading] at proper
        simpa using proper
      have committedAs := describes.commit ordinary
      rw [Chronicle.foldl_updated_upserts _ distinct] at committedAs
      rw [stepped]
      exact ⟨_, _, _, openedAfter, committedAs, hands_commit_loaded isLoading rfl⟩
  | cons id waiting =>
      cases found : store.load id with
      | none =>
          have stepped : batch.step owner (store.source owns) =
              { batch with phase := .loading waiting documents } := by
            simp only [step, isLoading, EntityStore.source, found]
          rw [stepped]
          exact ⟨_, _, _, opened, describes, hands_load_none proper isLoading found⟩
      | some loaded =>
          have stepped : batch.step owner (store.source owns) =
              { batch with
                phase := .loading waiting (documents ++ [owner.documentFor loaded]) } := by
            simp only [step, isLoading, EntityStore.source, found]
          rw [stepped]
          exact ⟨_, _, _, opened, describes, hands_load_some proper isLoading found⟩

theorem handsOn_recording {fetched : List Entity} (isRecording : batch.phase = .recording fetched) :
    batch.HandsOn owner store current (batch.step owner (store.source owns)) := by
  obtain ⟨index, committed, openedAfter⟩ := LocalIndex.transact_of_opened opened
    (scanChanges owner (store.source owns) fetched)
  have sameIndex : (batch.step owner (store.source owns)).index = index := by
    simp only [step, isRecording, index_commitScan, committed]
  have nextPhase : (batch.step owner (store.source owns)).phase = .seeking ∨
      (batch.step owner (store.source owns)).phase = .ended (.ok ()) := by
    rw [scanChanges] at committed
    simp only [step, isRecording, commitScan, committed]
    split
    · exact Or.inl rfl
    · exact Or.inr rfl
  have properAfter : (batch.step owner (store.source owns)).Proper := by
    rw [Proper]
    rcases nextPhase with isNext | isNext <;> simp [isNext]
  have nothing : (batch.step owner (store.source owns)).staged owner = [] := by
    rw [staged]
    rcases nextPhase with isNext | isNext <;> simp [isNext]
  have ordinary := isOrdinary_scanChanges owner (store.source owns) fetched
  rw [← (IndexDirectory.openFor_eq_ok opened).1] at ordinary
  have sublist := ownedDocuments_sublist owner (store.source owns) fetched
  have distinct : ((ownedDocuments owner (store.source owns) fetched).map (·.id)).Nodup := by
    rw [Proper, isRecording] at proper
    refine List.Nodup.sublist (sublist.map _) ?_
    rw [List.map_map]
    exact proper
  have committedAs := describes.commit ordinary
  rw [scanChanges, List.foldl_append, Chronicle.foldl_updated_upserts _ distinct,
    List.foldl_cons, List.foldl_nil, Chronicle.updated_putProgressMark, ← scanChanges]
    at committedAs
  refine ⟨_, _, _, ?_, committedAs, hands_scan (by simp [isRecording]) ?_ properAfter ?_⟩
  · rw [sameIndex]
    exact openedAfter
  · intro document inside
    rw [staged, isRecording]
    exact sublist.subset inside
  · simp [nothing]

/-- A step of a batch commits no other version of an entity than the one in the store, and
loses none. -/
theorem handsOn_step (loads : batch.LoadsEntities owner) :
    batch.HandsOn owner store current (batch.step owner (store.source owns)) := by
  cases phase : batch.phase with
  | loading waiting documents => exact handsOn_loading proper opened describes owns loads phase
  | seeking => exact handsOn_seeking opened describes owns phase
  | fetching mark => exact handsOn_fetching opened describes owns phase
  | recording fetched => exact handsOn_recording proper opened describes owns phase
  | ended outcome =>
      have stepped : batch.step owner (store.source owns) = batch := by
        simp only [step, phase]
      rw [stepped]
      exact ⟨content, chronicle, current, opened, describes, proper,
        fun _ _ _ awaits => Or.inl awaits, fun _ _ _ carries => carries⟩

end Steps

end IndexingBatch

end EntitySearch
