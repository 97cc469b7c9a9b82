import EntitySearch.Proofs.CarriedVersions

/-!
# Removed entities

A client removes an entity from the store and then deletes its documents from the
index, while batches read the store and commit what they have read.  A batch that
has read the entity before its removal and commits behind the deletion brings the
document back, and nothing removes it again.  Where no batch crosses the deletion in
this way, an entity that is gone from the store stays out of the index.
-/

namespace EntitySearch

theorem Chronicle.Survives.of_extend {chronicle : Chronicle} {changes : List IndexChange}
    {document : EntityDocument} (survives : (chronicle.extend changes).Survives document) :
    (chronicle.Survives document ∧ ∀ change ∈ changes, change.removes document = false) ∨
      .upsert document ∈ changes := by
  obtain ⟨earlier, later, split, kept⟩ := survives
  -- The upsert that survives stands among the earlier changes or among the further ones.
  rcases List.append_eq_append_iff.1 split with ⟨middle, -, whole⟩ | ⟨middle, front, back⟩
  · exact Or.inr (whole ▸ List.mem_append_right _ List.mem_cons_self)
  · cases middle with
    | nil =>
        rw [List.nil_append] at back
        exact Or.inr (back ▸ List.mem_cons_self)
    | cons change middle =>
        obtain ⟨rfl, rfl⟩ := List.cons.inj back
        exact Or.inl ⟨⟨earlier, middle, front, fun other inside =>
          kept other (List.mem_append_left _ inside)⟩, fun other inside =>
          kept other (List.mem_append_right _ inside)⟩

namespace EntityStore

theorem load_remove_of_ne (store : EntityStore) {id other : EntityId} (different : other ≠ id) :
    (store.remove id).load other = store.load other :=
  Table.get?_erase_of_ne _ different

end EntityStore

namespace IndexingBatch

variable {owner : EntityIndex} {batch : IndexingBatch} {document : EntityDocument}

/-- A step of a batch brings nothing into the index that was not staged before. -/
theorem survives_enter {source : EntitySource} {chronicle : Chronicle}
    (survives : (batch.enter owner source chronicle).Survives document) :
    chronicle.Survives document ∨ document ∈ batch.staged owner := by
  unfold enter at survives
  split at survives
  case h_2 => exact Or.inl survives
  case h_1 changes staged =>
    cases outcome : (batch.index.transact owner.layout (.ok changes)).2 with
    | error failure =>
        rw [outcome, Chronicle.enter_error] at survives
        exact Or.inl survives
    | ok done =>
        rw [outcome] at survives
        refine survives.of_extend.imp And.left fun upserted => ?_
        unfold staged? at staged
        unfold IndexingBatch.staged
        split at staged
        case h_1 documents isLoading =>
          cases staged
          simpa [isLoading] using upserted
        case h_2 fetched isRecording =>
          cases staged
          rw [isRecording]
          refine (ownedDocuments_sublist owner source fetched).subset ?_
          simpa [scanChanges] using upserted
        case h_3 => cases staged

theorem staged_commitLoaded (documents : List EntityDocument) :
    (commitLoaded owner batch documents).staged owner = [] := by
  unfold commitLoaded
  split
  · rfl
  · cases scans : batch.scans <;> rfl

theorem staged_commitScan (source : EntitySource) (fetched : List Entity) :
    (commitScan owner source batch fetched).staged owner = [] := by
  unfold commitScan
  dsimp only
  split
  · rfl
  · by_cases full : owner.settings.indexing.batchSize.toNat ≤ fetched.length <;>
      simp [staged, full]

/-- What a batch has staged after a step was staged before, or is the document of an entity in
the store. -/
theorem staged_step (store : EntityStore) (owns : ProjectId → Bool)
    (isStaged : document ∈ (batch.step owner (store.source owns)).staged owner) :
    document ∈ batch.staged owner ∨
      ∃ entity, store.load entity.id = some entity ∧ document = owner.documentFor entity := by
  unfold step at isStaged
  split at isStaged
  case h_1 id waiting documents isLoading =>
    have before : batch.staged owner = documents := by
      rw [staged, isLoading]
    rw [before]
    cases found : store.load id with
    | none =>
        simp only [EntityStore.source, found] at isStaged
        exact Or.inl isStaged
    | some entity =>
        simp only [EntityStore.source, found] at isStaged
        rcases List.mem_append.1 isStaged with earlier | new
        · exact Or.inl earlier
        · rw [← EntityStore.id_of_load found] at found
          exact Or.inr ⟨entity, found, List.mem_singleton.1 new⟩
  case h_2 documents isLoading =>
    rw [staged_commitLoaded] at isStaged
    cases isStaged
  case h_3 isSeeking =>
    split at isStaged <;> cases isStaged
  case h_4 mark isFetching =>
    cases found : store.queryAfter mark owner.settings.indexing.batchSize.toNat with
    | nil =>
        simp only [EntityStore.source, found] at isStaged
        cases isStaged
    | cons first fetched =>
        simp only [EntityStore.source, found] at isStaged
        obtain ⟨entity, inside, rfl⟩ := List.mem_map.1 isStaged
        rw [← found] at inside
        exact Or.inr ⟨entity, EntityStore.load_of_mem (mem_toList_of_fetched inside), rfl⟩
  case h_5 fetched isRecording =>
    rw [staged_commitScan] at isStaged
    cases isStaged
  case h_6 => exact Or.inl isStaged

end IndexingBatch

namespace IndexLife

/-- Whether a batch has read the entity and not committed its document. -/
def isCarried (life : IndexLife) (id : EntityId) : Bool :=
  life.batches.any fun batch => (batch.staged life.owner).any (·.id == id)

/-- Neither the index nor a batch at work holds a document of the entity. -/
structure Lacks (life : IndexLife) (id : EntityId) : Prop where
  indexed : ∀ document, life.chronicle.Survives document → document.id ≠ id
  uncarried : life.isCarried id = false

variable {life : IndexLife} {id : EntityId}

theorem isCarried_eq_false : life.isCarried id = false ↔
    ∀ batch ∈ life.batches, ∀ document ∈ batch.staged life.owner, document.id ≠ id := by
  simp [isCarried]

/-- Deleting its documents takes an entity out of the index, and brings no other one in. -/
theorem survives_deleteEntities {document : EntityDocument}
    (survives : (life.step (.deleteEntities [id])).chronicle.Survives document) :
    life.chronicle.Survives document ∧
      ((life.owner.deleteEntities life.index [id]).2 = .ok () → document.id ≠ id) := by
  simp only [step, IndexLife.enter] at survives
  cases outcome : (life.owner.deleteEntities life.index [id]).2 with
  | error failure =>
      rw [outcome, Chronicle.enter_error] at survives
      exact ⟨survives, fun done => by cases done⟩
  | ok done =>
      rw [outcome] at survives
      rcases survives.of_extend with ⟨before, kept⟩ | upserted
      · have spared := kept (.deleteEntity id) List.mem_cons_self
        refine ⟨before, fun _ same => ?_⟩
        simp [IndexChange.removes, same] at spared
      · cases List.mem_singleton.1 upserted

theorem Lacks.deleteEntities (lacks : life.Lacks id) (other : EntityId) :
    (life.step (.deleteEntities [other])).Lacks id where
  indexed document survives := lacks.indexed document (survives_deleteEntities survives).1
  uncarried := lacks.uncarried

theorem Lacks.beginBatch (lacks : life.Lacks id) (works : List Scheduling.Work) :
    (life.step (.beginBatch works)).Lacks id where
  indexed := lacks.indexed
  uncarried := by
    rw [isCarried_eq_false]
    intro batch atWork document isStaged
    rcases List.mem_append.1 atWork with earlier | new
    · exact isCarried_eq_false.1 lacks.uncarried batch earlier document isStaged
    · rw [List.mem_singleton.1 new, IndexingBatch.staged_start] at isStaged
      cases isStaged

theorem Lacks.stepBatch (lacks : life.Lacks id) {store : EntityStore}
    (gone : store.load id = none) (place : Nat) (owns : ProjectId → Bool) :
    (life.step (.stepBatch place (store.source owns))).Lacks id := by
  simp only [step]
  split
  case h_1 => exact lacks
  case h_2 waiting found =>
    have absent := isCarried_eq_false.1 lacks.uncarried
    have atWork := List.mem_of_getElem? found
    constructor
    · intro document survives
      rcases IndexingBatch.survives_enter survives with before | isStaged
      · exact lacks.indexed document before
      · exact absent waiting atWork document isStaged
    · rw [isCarried_eq_false]
      intro batch present document isStaged
      rcases List.mem_or_eq_of_mem_set present with other | rfl
      · exact absent batch other document isStaged
      · -- What the batch has read in this step is in the store, so it is another entity.
        rcases IndexingBatch.staged_step store owns isStaged with before | ⟨entity, stored, rfl⟩
        · exact absent waiting atWork document before
        · rintro rfl
          cases gone.symm.trans stored

end IndexLife

/-- A store and the life of its index, with the identifiers that were removed so far, those
whose documents have not been deleted since, and those that a batch had read from the store
when their documents were deleted last. -/
structure Turnover where
  store : EntityStore
  life : IndexLife
  removed : List EntityId
  owed : List EntityId
  crossed : List EntityId

/-- One atomic step of a client or of a batch. -/
inductive TurnoverEvent
  | save (entity : Entity)
  | remove (id : EntityId)
  | delete (id : EntityId)
  | beginBatch (works : List Scheduling.Work)
  /-- A batch takes a step, with the ownership as it is then. -/
  | stepBatch (place : Nat) (owns : ProjectId → Bool)

namespace Turnover

/-- A store and its index before anybody removes anything. -/
def start (store : EntityStore) (life : IndexLife) : Turnover :=
  ⟨store, life, [], [], []⟩

/-- The deletion of the documents of an entity has been committed. -/
def settle (state : Turnover) (id : EntityId) : Turnover :=
  { state with
    owed := state.owed.erase id
    crossed :=
      if state.life.isCarried id then id :: state.crossed
      else state.crossed.filter (· ≠ id) }

def step (state : Turnover) : TurnoverEvent → Turnover
  | .save entity => { state with store := state.store.save entity }
  | .remove id =>
      { state with
        store := state.store.remove id
        removed := id :: state.removed
        owed := id :: state.owed }
  | .delete id =>
      let next := { state with life := state.life.step (.deleteEntities [id]) }
      match (state.life.owner.deleteEntities state.life.index [id]).2 with
      | .ok () => next.settle id
      | .error _ => next
  | .beginBatch works => { state with life := state.life.step (.beginBatch works) }
  | .stepBatch place owns =>
      { state with life := state.life.step (.stepBatch place (state.store.source owns)) }

def run (state : Turnover) (events : List TurnoverEvent) : Turnover :=
  events.foldl step state

/-- What holds at every moment: an entity that was removed and is not stored still has to be
deleted, or is nowhere, unless a batch has crossed its deletion. -/
structure Sound (state : Turnover) : Prop where
  life : state.life.Sound
  cleared : ∀ id ∈ state.removed, state.store.load id = none → id ∉ state.crossed →
    id ∈ state.owed ∨ state.life.Lacks id

variable {state : Turnover} {id : EntityId}

theorem sound_start {life : IndexLife} (sound : life.Sound) (store : EntityStore) :
    (start store life).Sound where
  life := sound
  cleared _ inside := by cases inside

/-- A deletion that is committed settles what is owed for its entity: the entity is nowhere
then, or a batch has crossed the deletion. -/
theorem Sound.settle (sound : state.Sound) (id : EntityId)
    (deleted : (state.life.owner.deleteEntities state.life.index [id]).2 = .ok ()) :
    ({ state with life := state.life.step (.deleteEntities [id]) }.settle id).Sound where
  life := sound.life.step (.deleteEntities [id])
  cleared other inside gone untouched := by
    simp only [Turnover.settle] at untouched
    by_cases same : other = id
    · subst same
      right
      cases carried : state.life.isCarried other with
      | false => exact ⟨fun document survives =>
          (IndexLife.survives_deleteEntities survives).2 deleted, carried⟩
      | true =>
          have sameBatches : (state.life.step (.deleteEntities [other])).isCarried other = true :=
            carried
          simp [sameBatches] at untouched
    · have before : other ∉ state.crossed := by
        split at untouched <;> simp_all
      refine (sound.cleared other inside gone before).imp ?_ (·.deleteEntities id)
      exact (List.mem_erase_of_ne same).2

theorem Sound.step (sound : state.Sound) (event : TurnoverEvent) : (state.step event).Sound := by
  cases event with
  | save entity =>
      -- The saved entity is stored now, whatever was removed before.
      refine ⟨sound.life, fun id inside gone => sound.cleared id inside ?_⟩
      by_cases same : id = entity.id
      · simp [Turnover.step, same, EntityStore.load_save_self] at gone
      · exact (EntityStore.load_save_of_ne state.store same).symm.trans gone
  | remove id =>
      refine ⟨sound.life, fun other inside gone untouched => ?_⟩
      by_cases same : other = id
      · exact Or.inl (same ▸ List.mem_cons_self)
      · have before := (List.mem_cons.1 inside).resolve_left same
        have wasGone := (EntityStore.load_remove_of_ne state.store same).symm.trans gone
        exact (sound.cleared other before wasGone untouched).imp_left (List.mem_cons_of_mem id)
  | delete id =>
      simp only [Turnover.step]
      split
      case h_1 deleted => exact sound.settle id deleted
      case h_2 =>
        refine ⟨sound.life.step (.deleteEntities [id]), fun other inside gone untouched => ?_⟩
        exact (sound.cleared other inside gone untouched).imp_right (·.deleteEntities id)
  | beginBatch works =>
      refine ⟨sound.life.step (.beginBatch works), fun id inside gone untouched => ?_⟩
      exact (sound.cleared id inside gone untouched).imp_right (·.beginBatch works)
  | stepBatch place owns =>
      refine ⟨sound.life.step (.stepBatch place (state.store.source owns)),
        fun id inside gone untouched => ?_⟩
      exact (sound.cleared id inside gone untouched).imp_right (·.stepBatch gone place owns)

theorem Sound.run (sound : state.Sound) (events : List TurnoverEvent) :
    (state.run events).Sound := by
  induction events generalizing state with
  | nil => exact sound
  | cons event events ih => exact ih (sound.step event)

/-- Whatever clients and batches do between each other, an entity that is gone from the store
stays out of the index and out of all batches at work, once the documents of every removed
version have been deleted and no batch has crossed the last deletion. -/
theorem removed_entities_stay_away (owner : EntityIndex) {directory : IndexDirectory}
    (unbuilt : directory.content? = none) (operations : List IndexOperation)
    (store : EntityStore) (events : List TurnoverEvent) :
    let state := (start store ((IndexLife.begin owner directory).run operations)).run events
    ∀ id ∈ state.removed, state.store.load id = none → id ∉ state.owed → id ∉ state.crossed →
      state.life.isCarried id = false ∧
        ∀ content, state.life.index.directory = .readable content →
          ∃ current, state.life.chronicle.Shows content.documents current ∧
            ∀ document ∈ current, document.id ≠ id := by
  intro state id inside gone paid untouched
  have sound : state.Sound :=
    (sound_start ((IndexLife.sound_begin owner unbuilt).run operations) store).run events
  have lacks := (sound.cleared id inside gone untouched).resolve_left paid
  refine ⟨lacks.uncarried, fun content readable => ?_⟩
  obtain ⟨current, shows⟩ := (sound.life.keeps.described content readable).shown
  exact ⟨current, shows, fun document present =>
    lacks.indexed document ((shows.surviving document).1 present)⟩

def openIssue : Entity := ⟨7, 1, [("state", .text "open")]⟩

/-- A batch indexes the issue, and then a client removes it and deletes its documents. -/
def orderedEvents : List TurnoverEvent :=
  [.save openIssue, .beginBatch [.entity 7], .stepBatch 0 (fun _ => true),
    .stepBatch 0 (fun _ => true), .remove 7, .delete 7]

/-- Behind these events the index has no document of the issue. -/
theorem removed_issue_stays_away :
    let state := (start EntityStore.empty IndexLife.issueLife).run orderedEvents
    7 ∈ state.removed ∧ state.store.load 7 = none ∧
      ∀ content, state.life.index.directory = .readable content →
        ∃ current, state.life.chronicle.Shows content.documents current ∧
          ∀ document ∈ current, document.id ≠ 7 := by
  intro state
  have removed : 7 ∈ state.removed := by decide +kernel
  have gone : state.store.load 7 = none := by decide +kernel
  have away := removed_entities_stay_away IndexLife.issueOwner rfl IndexLife.issueOperations
    EntityStore.empty orderedEvents 7 removed gone (by decide +kernel) (by decide +kernel)
  exact ⟨removed, gone, away.2⟩

/-- A batch reads the issue, a client removes it and deletes its documents, and the batch commits
what it has read; then the issue is requested again. -/
def crossingEvents : List TurnoverEvent :=
  [.save openIssue, .beginBatch [.entity 7], .stepBatch 0 (fun _ => true), .remove 7, .delete 7,
    .stepBatch 0 (fun _ => true), .beginBatch [.entity 7], .stepBatch 1 (fun _ => true),
    .stepBatch 1 (fun _ => true)]

/-- The turnover of an index of issues behind these events. -/
def haunted : Turnover :=
  (start EntityStore.empty IndexLife.issueLife).run crossingEvents

/-- An entity whose deletion a batch crosses comes back, and stays in the index. -/
theorem crossed_issue_comes_back :
    haunted.removed = [7] ∧ haunted.owed = [] ∧ haunted.crossed = [7] ∧
      haunted.store.load 7 = none ∧ (∀ batch ∈ haunted.life.batches, batch.hasEnded = true) ∧
      ∃ content, haunted.life.index.directory = .readable content ∧
        (haunted.life.owner.documentFor openIssue).document ∈ content.documents := by
  have sound : haunted.Sound :=
    (sound_start ((IndexLife.sound_begin IndexLife.issueOwner rfl).run
      IndexLife.issueOperations) EntityStore.empty).run crossingEvents
  have last : haunted.life.chronicle.changes.getLast? =
      some (.upsert (haunted.life.owner.documentFor openIssue)) := by decide +kernel
  have survives : haunted.life.chronicle.Survives (haunted.life.owner.documentFor openIssue) := by
    obtain ⟨earlier, split⟩ := List.getLast?_eq_some_iff.1 last
    exact ⟨earlier, [], split, by simp⟩
  have present : haunted.life.index.directory.content?.isSome = true := by decide +kernel
  obtain ⟨content, isContent⟩ := Option.isSome_iff_exists.1 present
  have readable := IndexDirectory.content?_eq_some.1 isContent
  obtain ⟨current, shows⟩ := (sound.life.keeps.described content readable).shown
  refine ⟨by decide +kernel, by decide +kernel, by decide +kernel, by decide +kernel,
    by decide +kernel, content, readable, ?_⟩
  rw [shows.documents.mem_iff]
  exact List.mem_append_right _ (List.mem_map_of_mem ((shows.surviving _).2 survives))

end Turnover

end EntitySearch
