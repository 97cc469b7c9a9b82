import EntitySearch.Proofs.ProjectRemoval
import EntitySearch.Proofs.StoreOrder

/-!
# Documents of own projects

A scan indexes entities of the projects that its node owns, and a requested entity
is indexed on the node that was asked for it, whoever owns its project.  So from
fresh indexes on, and while no project changes hands, every document on a node is
one of a project of the node, or its entity was requested there.  Nodes that only
scan have no project in common.
-/

namespace EntitySearch

/-- The documents of two entities differ unless the entities have the same identifier and
project. -/
theorem Layout.same_of_documentFor {layout otherLayout : Layout} {entity other : Entity}
    (same : (layout.documentFor entity).document = (otherLayout.documentFor other).document) :
    entity.id = other.id ∧ entity.project = other.project := by
  have sameIds := congrArg (Document.valuesOf · CoreField.entity) same
  have sameProjects := congrArg (Document.valuesOf · CoreField.project) same
  simp only [entity_documentFor, project_documentFor, List.cons.injEq, FieldValue.unsigned.injEq,
    and_true] at sameIds sameProjects
  exact ⟨sameIds, sameProjects⟩

variable {may : EntityId → ProjectId → Prop}

/-! ### Indexes with certain entities only -/

namespace IndexChange

/-- The change upserts nothing but documents of entities that may be in the index. -/
def Admits (may : EntityId → ProjectId → Prop) (change : IndexChange) : Prop :=
  ∀ document, change.upserted? = some document →
    ∃ (layout : Layout) (entity : Entity), document = layout.documentFor entity ∧
      may entity.id entity.project

/-- What a change adds is the document that it upserts, or a marker. -/
theorem Admits.addition {change : IndexChange} (admits : change.Admits may) {layout : Layout}
    {entity : Entity} (added : change.addition? = some (layout.documentFor entity).document) :
    may entity.id entity.project := by
  have isEntity := Document.isOf_documentFor layout .entity entity
  cases change with
  | upsert document =>
      obtain ⟨otherLayout, other, rfl, mayBe⟩ := admits document rfl
      obtain ⟨sameId, sameProject⟩ := Layout.same_of_documentFor (Option.some.inj added)
      rw [← sameId, ← sameProject]
      exact mayBe
  | deleteEntity id => cases added
  | deleteProject project => cases added
  | putSchemaMarker version =>
      rw [← Option.some.inj added, Document.isOf_schemaMarker] at isEntity
      cases isEntity
  | putProgressMark mark =>
      rw [← Option.some.inj added, Document.isOf_progressMarker] at isEntity
      cases isEntity

/-- A list of changes leaves documents that were there before or that one of them adds. -/
theorem mem_foldl_apply (layout : Layout) {changes : List IndexChange}
    {documents : List Document} {document : Document}
    (inside : document ∈ changes.foldl (apply layout) documents) :
    document ∈ documents ∨ ∃ change ∈ changes, change.addition? = some document := by
  induction changes generalizing documents with
  | nil => exact Or.inl inside
  | cons change changes ih =>
      rcases ih inside with kept | ⟨later, isLater, adds⟩
      · rcases List.mem_append.1 kept with before | added
        · exact Or.inl (List.mem_filter.1 before).1
        · exact Or.inr ⟨change, List.mem_cons_self, Option.mem_toList.1 added⟩
      · exact Or.inr ⟨later, List.mem_cons_of_mem _ isLater, adds⟩

end IndexChange

namespace IndexContent

/-- The index holds documents of entities only that may be there. -/
def HoldsOnly (may : EntityId → ProjectId → Prop) (content : IndexContent) : Prop :=
  ∀ (layout : Layout) (entity : Entity),
    (layout.documentFor entity).document ∈ content.documents → may entity.id entity.project

theorem holdsOnly_empty (may : EntityId → ProjectId → Prop) (layout : Layout) :
    (empty layout).HoldsOnly may := by
  intro _ entity inside
  rw [documents_empty] at inside
  cases inside

theorem HoldsOnly.commit {content : IndexContent} (holds : content.HoldsOnly may)
    {changes : List IndexChange} (admits : ∀ change ∈ changes, change.Admits may) :
    (content.commit changes).HoldsOnly may := by
  intro layout entity inside
  rw [documents_commit] at inside
  rcases IndexChange.mem_foldl_apply content.layout inside with before | ⟨change, staged, adds⟩
  · exact holds layout entity before
  · exact (admits change staged).addition adds

end IndexContent

namespace LocalIndex

/-- The directory holds documents of entities only that may be there, and so does the reader. -/
structure HoldsOnly (may : EntityId → ProjectId → Prop) (index : LocalIndex) : Prop where
  directory : ∀ content, index.directory = .readable content → content.HoldsOnly may
  snapshot : ∀ content, index.snapshot = some content → content.HoldsOnly may

variable {index : LocalIndex}

theorem HoldsOnly.refresh (holds : index.HoldsOnly may) : index.refresh.HoldsOnly may where
  directory := holds.directory
  snapshot := by
    intro content shown
    obtain ⟨earlier, wasShown, same⟩ := Option.map_eq_some_iff.1 shown
    cases readable : index.directory.content? with
    | none =>
        rw [readable, Option.getD_none] at same
        exact same ▸ holds.snapshot earlier wasShown
    | some newer =>
        rw [readable, Option.getD_some] at same
        exact same ▸ holds.directory newer (IndexDirectory.content?_eq_some.1 readable)

theorem HoldsOnly.stop (holds : index.HoldsOnly may) : index.stop.HoldsOnly may where
  directory := holds.directory
  snapshot := by
    rintro content ⟨⟩

theorem HoldsOnly.replace (holds : index.HoldsOnly may) {content : IndexContent}
    (contentHolds : content.HoldsOnly may) (committed : Bool) :
    HoldsOnly may ⟨.readable content, index.snapshot, committed⟩ where
  directory := by
    rintro _ ⟨⟩
    exact contentHolds
  snapshot := holds.snapshot

theorem HoldsOnly.of_openFor (holds : index.HoldsOnly may) {layout : Layout}
    {content : IndexContent} (opened : index.directory.openFor layout = .ok content) :
    content.HoldsOnly may := by
  obtain ⟨_, before | ⟨_, new⟩⟩ := IndexDirectory.openFor_eq_ok opened
  · exact holds.directory content before
  · exact new ▸ IndexContent.holdsOnly_empty may layout

theorem HoldsOnly.readProgressMark (holds : index.HoldsOnly may) (layout : Layout) :
    (index.readProgressMark layout).1.HoldsOnly may := by
  unfold LocalIndex.readProgressMark
  cases opened : index.directory.openFor layout with
  | error failure => simpa only [openDirectory_error opened] using holds
  | ok content =>
      simpa only [openDirectory_ok opened] using
        holds.replace (holds.of_openFor opened) index.hasCommitted

theorem HoldsOnly.transact (holds : index.HoldsOnly may) (layout : Layout)
    {changes : List IndexChange} (admits : ∀ change ∈ changes, change.Admits may) :
    (index.transact layout (.ok changes)).1.HoldsOnly may := by
  unfold LocalIndex.transact runTransaction
  cases opened : index.directory.openFor layout with
  | error failure => simpa only [openDirectory_error opened] using holds.refresh
  | ok content =>
      simpa only [openDirectory_ok opened] using
        (holds.replace ((holds.of_openFor opened).commit admits) true).refresh

theorem HoldsOnly.start (holds : index.HoldsOnly may) (spec : IndexSpec) :
    (index.start spec).1.HoldsOnly may := by
  cases started : (index.start spec).2 with
  | error failure =>
      rw [start_error started]
      exact holds
  | ok done =>
      have shown : ∀ content : IndexContent, content.HoldsOnly may → ∀ committed,
          HoldsOnly may ⟨.readable content, some content, committed⟩ := by
        intro content contentHolds committed
        refine ⟨?_, ?_⟩
        · rintro _ ⟨⟩
          exact contentHolds
        · rintro _ ⟨⟩
          exact contentHolds
      by_cases current : storedVersion? spec.layout index.directory = some spec.version
      · obtain ⟨content, readable, sameLayout, recorded⟩ := storedVersion?_eq_some.1 current
        rw [start_current readable sameLayout recorded]
        exact shown content (holds.directory content readable) index.hasCommitted
      · cases created : index.directory.create with
        | error refusal =>
            simp only [LocalIndex.start, created] at started
            cases started
        | ok directory =>
            rw [start_stale created current]
            refine shown _ ((IndexContent.holdsOnly_empty may spec.layout).commit ?_) true
            intro change inside document upserted
            rw [List.mem_singleton.1 inside] at upserted
            cases upserted

end LocalIndex

/-! ### Batches -/

def BatchPhase.Loads (owner : EntityIndex) (requested : EntityId → Prop) : BatchPhase → Prop
  | .loading waiting documents =>
      (∀ id ∈ waiting, requested id) ∧ ∀ document ∈ documents, ∃ entity : Entity,
        document = owner.documentFor entity ∧ requested entity.id
  | _ => True

namespace IndexingBatch

/-- The index of the batch holds what it may, and the batch loads requested entities. -/
structure Guarded (owner : EntityIndex) (may : EntityId → ProjectId → Prop)
    (requested : EntityId → Prop) (batch : IndexingBatch) : Prop where
  index : batch.index.HoldsOnly may
  loads : batch.phase.Loads owner requested

variable {owner : EntityIndex} {requested : EntityId → Prop} {source : EntitySource}
  {batch : IndexingBatch}

theorem loads_afterLoading (owner : EntityIndex) (requested : EntityId → Prop) (scans : Bool) :
    (afterLoading scans).Loads owner requested := by
  cases scans <;> trivial

theorem guarded_start {index : LocalIndex} (holds : index.HoldsOnly may) (owner : EntityIndex)
    (tally : IndexTally) {works : List Scheduling.Work}
    (asked : ∀ id, .entity id ∈ works → requested id) :
    (start index tally works).Guarded owner may requested := by
  refine ⟨by rwa [index_start], ?_⟩
  have ids : ∀ id ∈ Scheduling.entityIds works, requested id := by
    intro id inside
    rw [Scheduling.entityIds, List.mem_eraseDups, (List.mergeSort_perm _ _).mem_iff,
      List.mem_filterMap] at inside
    obtain ⟨work, isWork, same⟩ := inside
    cases work with
    | entity found =>
        cases same
        exact asked id isWork
    | scan => cases same
  unfold start
  split
  · exact loads_afterLoading owner requested _
  · rename_i id rest listed
    refine ⟨fun waiting inside => ids waiting (listed ▸ inside), fun document inside => ?_⟩
    cases inside

theorem loads_commitLoaded (documents : List EntityDocument) :
    (commitLoaded owner batch documents).phase.Loads owner requested := by
  unfold commitLoaded
  split
  · trivial
  · exact loads_afterLoading owner requested _

theorem loads_commitScan (fetched : List Entity) :
    (commitScan owner source batch fetched).phase.Loads owner requested := by
  simp only [commitScan]
  split
  · trivial
  · simp only
    split <;> trivial

section

variable (owned : ∀ id project, source.owns project = true → may id project)
  (wanted : ∀ id project, requested id → may id project)

include wanted in
theorem admits_upserts {documents : List EntityDocument}
    (loaded : ∀ document ∈ documents, ∃ entity, document = owner.documentFor entity ∧
      requested entity.id) :
    ∀ change ∈ documents.map IndexChange.upsert, change.Admits may := by
  intro change inside document upserted
  obtain ⟨staged, isStaged, rfl⟩ := List.mem_map.1 inside
  cases upserted
  obtain ⟨entity, made, asked⟩ := loaded document isStaged
  exact ⟨owner.layout, entity, made, wanted _ _ asked⟩

include owned in
theorem admits_scanChanges (fetched : List Entity) :
    ∀ change ∈ scanChanges owner source fetched, change.Admits may := by
  intro change inside document upserted
  rcases List.mem_append.1 inside with isUpsert | isMark
  · obtain ⟨staged, isStaged, rfl⟩ := List.mem_map.1 isUpsert
    cases upserted
    obtain ⟨entity, isOwned, rfl⟩ := List.mem_map.1 isStaged
    exact ⟨owner.layout, entity, rfl, owned _ _ (List.mem_filter.1 isOwned).2⟩
  · rw [List.mem_singleton.1 isMark] at upserted
    cases upserted

variable (faithful : ∀ id entity, source.load id = .ok (some entity) → entity.id = id)

include owned wanted faithful

theorem Guarded.step (guarded : batch.Guarded owner may requested) :
    (batch.step owner source).Guarded owner may requested := by
  obtain ⟨holds, loads⟩ := guarded
  unfold IndexingBatch.step
  split
  case h_1 id waiting documents isLoading =>
    rw [isLoading] at loads
    obtain ⟨asked, loaded⟩ := loads
    have askedLater := fun later inside => asked later (List.mem_cons_of_mem _ inside)
    split
    case h_1 => exact ⟨holds, trivial⟩
    case h_2 => exact ⟨holds, askedLater, loaded⟩
    case h_3 entity found =>
      refine ⟨holds, askedLater, fun document inside => ?_⟩
      rcases List.mem_append.1 inside with earlier | new
      · exact loaded document earlier
      · refine ⟨entity, List.mem_singleton.1 new, ?_⟩
        rw [faithful id entity found]
        exact asked id List.mem_cons_self
  case h_2 documents isLoading =>
    rw [isLoading] at loads
    refine ⟨?_, loads_commitLoaded documents⟩
    rw [index_commitLoaded]
    exact holds.transact owner.layout (admits_upserts wanted loads.2)
  case h_3 =>
    have opened := holds.readProgressMark owner.layout
    generalize batch.index.readProgressMark owner.layout = result at *
    obtain ⟨index, _ | _⟩ := result <;> exact ⟨opened, trivial⟩
  case h_4 => split <;> exact ⟨holds, trivial⟩
  case h_5 fetched isRecording =>
    refine ⟨?_, loads_commitScan fetched⟩
    rw [index_commitScan]
    exact holds.transact owner.layout (admits_scanChanges owned fetched)
  case h_6 => exact ⟨holds, loads⟩

theorem Guarded.run (guarded : batch.Guarded owner may requested) (steps : Nat) :
    (batch.run owner source steps).Guarded owner may requested := by
  induction steps generalizing batch with
  | zero => exact guarded
  | succ steps ih =>
      unfold IndexingBatch.run
      split
      · exact guarded
      · exact ih (guarded.step owned wanted faithful)

end

end IndexingBatch

namespace Deployment

/-! ### Deployments -/

/-- An entity may have a document on the node that owns its project, and on every node on which
its indexing was requested. -/
def OwnsOrRequested (cluster : Cluster Nat) (requested : NodeAddress → EntityId → Prop)
    (node : NodeAddress) (id : EntityId) (project : ProjectId) : Prop :=
  cluster.ownerOf project = some node ∨ requested node id

/-- Every index of a node holds documents only that may be on the node, and so does every
reader. -/
structure HoldsOnly (may : NodeAddress → EntityId → ProjectId → Prop)
    (deployment : Deployment) : Prop where
  directories : ∀ node indexName content,
    deployment.directoryAt node indexName = .readable content → content.HoldsOnly (may node)
  snapshots : ∀ id service content, deployment.services.get? id = some service →
    service.snapshot = some content → content.HoldsOnly (may service.node)

section

variable {deployment : Deployment} {may : NodeAddress → EntityId → ProjectId → Prop}
  {id : ServiceId} {service : Service}

theorem HoldsOnly.localIndexOf (holds : deployment.HoldsOnly may)
    (present : deployment.services.get? id = some service) :
    (deployment.localIndexOf service).HoldsOnly (may service.node) where
  directory := holds.directories service.node service.index.name
  snapshot := fun content => holds.snapshots id service content present

theorem HoldsOnly.changeNode (holds : deployment.HoldsOnly may) (node : NodeAddress)
    {change : NodeState → NodeState}
    (keeps : ∀ state, (change state).directories = state.directories) :
    (deployment.changeNode node change).HoldsOnly may where
  directories := by
    intro other indexName content readable
    rw [directoryAt_changeNode_of_keeps keeps] at readable
    exact holds.directories other indexName content readable
  snapshots := holds.snapshots

theorem HoldsOnly.setLocalIndex (holds : deployment.HoldsOnly may)
    (present : deployment.services.get? id = some service) {index : LocalIndex}
    (indexHolds : index.HoldsOnly (may service.node)) :
    (deployment.setLocalIndex id service index).HoldsOnly may where
  directories := by
    intro node indexName content readable
    rw [← directoryAt_viewOf] at readable
    by_cases own : node = service.node
    · subst own
      cases isNode : deployment.nodes.get? service.node with
      | none =>
          have nowhere : (deployment.setLocalIndex id service index).nodes.get? service.node =
              none := by
            refine (Table.get?_modify ..).trans ?_
            rw [if_pos rfl, isNode]
            rfl
          rw [NodeView.directoryAt, viewOf, nowhere] at readable
          cases readable
      | some state =>
          rw [directoryAt_setLocalIndex present isNode] at readable
          split at readable
          · exact indexHolds.directory content readable
          · exact holds.directories service.node indexName content readable
    · rw [viewOf_setLocalIndex_of_ne present own] at readable
      exact holds.directories node indexName content readable
  snapshots := by
    intro other found content isFound shown
    have modified : (deployment.services.modify id fun present =>
        { present with snapshot := index.snapshot, hasCommitted := index.hasCommitted }).get?
          other = some found := isFound
    rw [Table.get?_modify] at modified
    split at modified
    · rw [present] at modified
      cases modified
      exact indexHolds.snapshot content shown
    · exact holds.snapshots other found content modified shown

end

section

variable {deployment before : Deployment} {requested : NodeAddress → EntityId → Prop}
  {owner : Nat → Option NodeAddress} {node : NodeAddress} {id : ServiceId} {service : Service}

/-- The batch of works of a service brings documents of own projects into the index, and those of
the entities that the works ask for. -/
theorem HoldsOnly.batchOf
    (holds : deployment.HoldsOnly (OwnsOrRequested deployment.cluster requested))
    (present : deployment.services.get? id = some service) {works : List Scheduling.Work}
    (asked : ∀ entity, .entity entity ∈ works → requested service.node entity) :
    (deployment.batchOf service works).index.HoldsOnly
      (OwnsOrRequested deployment.cluster requested service.node) := by
  have faithful : ∀ id entity, (deployment.sourceFor service).load id = .ok (some entity) →
      entity.id = id := by
    intro id entity loaded
    have found : (deployment.storeOf service.typeName).read (·.load id) = .ok (some entity) :=
      loaded
    unfold SharedStore.read at found
    split at found
    · cases found
    · exact EntityStore.id_of_load (Except.ok.inj found)
  exact ((IndexingBatch.guarded_start (holds.localIndexOf present) service.index _ asked).run
    (fun _ _ isOwner => Or.inl (of_decide_eq_true isOwner)) (fun _ _ wanted => Or.inr wanted)
    faithful _).index

/-- The pool of a node works for services of the node, and on entities that were requested on
it. -/
def requestScope (owner : Nat → Option NodeAddress) (requested : NodeAddress → EntityId → Prop)
    (node : NodeAddress) : Scheduling.Scope ServiceId where
  agents id := owner id = some node
  works work := ∀ entity, work = .entity entity → requested node entity

open Scheduling in
theorem own_of_requestScope (worker : Worker ServiceId) (works : List Work)
    (covers : (requestScope owner requested node).Covers worker works) :
    (ownScope owner node).Covers worker works :=
  ⟨covers.1, fun _ _ => trivial⟩

/-- The nodes keep apart, and every document on a node is of an own project or was requested, as is
every entity that is going to be indexed. -/
structure IsGuarded (deployment : Deployment) (owner : Nat → Option NodeAddress)
    (requested : NodeAddress → EntityId → Prop) : Prop where
  apart : deployment.KeepsApart owner
  holds : deployment.HoldsOnly (OwnsOrRequested deployment.cluster requested)
  pools : ∀ node state, deployment.nodes.get? node = some state →
    state.pool.pool.Employs (requestScope owner requested node)

namespace IsGuarded

theorem setLocalIndex (guarded : deployment.IsGuarded owner requested)
    (present : deployment.services.get? id = some service) {index : LocalIndex}
    (indexHolds : index.HoldsOnly
      (OwnsOrRequested deployment.cluster requested service.node)) :
    (deployment.setLocalIndex id service index).IsGuarded owner requested where
  apart := guarded.apart.setLocalIndex id service index
  holds := guarded.holds.setLocalIndex present indexHolds
  pools := by
    intro node state isNode
    obtain ⟨earlier, wasNode, samePool⟩ := exists_pool_of_setLocalIndex isNode
    exact samePool ▸ guarded.pools node earlier wasNode

open Scheduling in
/-- What happens on the pool of a node keeps the deployment guarded if the pool does. -/
theorem onPool (guarded : deployment.IsGuarded owner requested)
    {act : Timeline ServiceId Deployment → Timeline ServiceId Deployment}
    (acts : ∀ line : Timeline ServiceId Deployment,
      StaysWithin owner node deployment line.world ∧
          line.world.HoldsOnly (OwnsOrRequested deployment.cluster requested) →
        line.pool.Employs (requestScope owner requested node) →
          (StaysWithin owner node deployment (act line).world ∧
              (act line).world.HoldsOnly (OwnsOrRequested deployment.cluster requested)) ∧
            (act line).pool.Employs (requestScope owner requested node)) :
    (deployment.onPool node act).IsGuarded owner requested := by
  cases isNode : deployment.nodes.get? node with
  | none => simpa only [Deployment.onPool, isNode] using guarded
  | some state =>
      obtain ⟨⟨within, holds⟩, employs⟩ := acts { state.pool with world := deployment }
        ⟨guarded.apart.within node, guarded.holds⟩ (guarded.pools node state isNode)
      rw [onPool_of_node isNode]
      generalize act { state.pool with world := deployment } = line at *
      have settled : StaysWithin owner node deployment (line.world.changeNode node fun state =>
          { state with pool := { line with world := () } }) :=
        within.setPool (employs.mono own_of_requestScope)
      refine ⟨settled.apart, ?_, fun other found isFound => ?_⟩
      · rw [settled.cluster]
        exact holds.changeNode node fun _ => rfl
      · by_cases same : other = node
        · have modified : (line.world.nodes.modify node fun state =>
              { state with pool := { line with world := () } }).get? other = some found := isFound
          rw [Table.get?_modify, if_pos same] at modified
          obtain ⟨_, _, rfl⟩ := Option.map_eq_some_iff.1 modified
          exact same ▸ employs
        · have unmoved := congrArg NodeView.state (settled.others other same)
          exact guarded.pools other found (unmoved.symm.trans isFound)

open Scheduling in
theorem submit (guarded : deployment.IsGuarded owner requested)
    (isOwner : owner id = some service.node) {work : Work}
    (asked : ∀ entity, work = .entity entity → requested service.node entity) :
    (deployment.submit id service work).IsGuarded owner requested := by
  refine guarded.onPool fun line both employs => ?_
  have may : (requestScope owner requested service.node).Covers (workerOf id service) [work] := by
    refine ⟨isOwner, fun submitted inside => ?_⟩
    rw [List.mem_singleton.1 inside]
    exact asked
  split
  · rename_i next taken
    rw [Timeline.world_submit taken]
    exact ⟨both, Timeline.employs_submit employs may taken⟩
  · exact ⟨both, employs⟩

open Scheduling in
/-- The batches of a node bring nothing but documents of own projects and of requested entities
into its indexes. -/
theorem keepsFor_batches (owner : Nat → Option NodeAddress)
    (requested : NodeAddress → EntityId → Prop) (node : NodeAddress) (before : Deployment) :
    batchBehavior.KeepsFor (requestScope owner requested node) fun world =>
      StaysWithin owner node before world ∧
        world.HoldsOnly (OwnsOrRequested before.cluster requested) where
  start := fun _ _ _ _ both => both
  finish := by
    rintro world now batch slept covers ⟨within, holds⟩
    refine ⟨(keepsFor_batchBehavior owner node before).finish world now batch slept
      (own_of_requestScope _ _ covers) within, ?_⟩
    have sameCluster := within.cluster
    simp only [batchBehavior]
    cases present : world.services.get? batch.worker.agent with
    | none => exact ⟨holds.directories, holds.snapshots⟩
    | some service =>
        have own : some service.node = some node :=
          (within.apart.services _ service present).symm.trans covers.1
        cases own
        have asked : ∀ entity, .entity entity ∈ batch.works → requested service.node entity :=
          fun entity inside => covers.2 _ inside entity rfl
        rw [← sameCluster] at holds ⊢
        have replaced := holds.setLocalIndex present (holds.batchOf present asked)
        simp only [runBatch_eq]
        exact ⟨replaced.directories, replaced.snapshots⟩
  hires := fun _ _ _ _ => rfl
  refused := fun _ _ both => both

theorem settleNode (guarded : deployment.IsGuarded owner requested) (node : NodeAddress) :
    (deployment.settleNode node).IsGuarded owner requested :=
  guarded.onPool fun _ both employs =>
    (keepsFor_batches owner requested node deployment).settle employs both _

theorem settle (guarded : deployment.IsGuarded owner requested) :
    deployment.settle.IsGuarded owner requested :=
  List.foldlRecOn deployment.nodes.keys Deployment.settleNode
    (motive := fun deployment => deployment.IsGuarded owner requested) guarded
    fun _ kept node _ => kept.settleNode node

theorem startService (guarded : deployment.IsGuarded owner requested)
    (present : deployment.services.get? id = some service) :
    (deployment.startService id service).1.IsGuarded owner requested := by
  have started : (deployment.onLocalIndex id service
      (LocalIndex.start service.index.spec)).1.IsGuarded owner requested :=
    guarded.setLocalIndex present ((guarded.holds.localIndexOf present).start service.index.spec)
  unfold Deployment.startService
  generalize deployment.onLocalIndex id service (LocalIndex.start service.index.spec) = result
    at *
  obtain ⟨after, _ | _⟩ := result
  · exact started
  · exact started.submit (guarded.apart.services id service present) fun _ same => by cases same

theorem requestIndex (guarded : deployment.IsGuarded owner requested)
    (present : deployment.services.get? id = some service) {ids : List EntityId}
    (asked : ∀ entity ∈ ids, requested service.node entity) :
    (deployment.requestIndex id service ids).IsGuarded owner requested := by
  refine List.foldlRecOn ids _
    (motive := fun deployment : Deployment => deployment.IsGuarded owner requested) guarded
    fun _ kept entity inside => ?_
  refine kept.submit (guarded.apart.services id service present) fun other same => ?_
  cases same
  exact asked entity inside

end IsGuarded

end

/-! ### Deployments that index -/

/-- No index has been built yet, and no pool has anything to do. -/
def isFresh (deployment : Deployment) : Bool :=
  deployment.nodes.values.all (fun state =>
      state.directories.values.all (·.content?.isNone) &&
        state.pool.pool.slots.values.all (·.pending.isEmpty) &&
        state.pool.pool.running.all (·.works.isEmpty)) &&
    deployment.services.values.all (·.snapshot.isNone)

variable {deployment : Deployment} {requested : NodeAddress → EntityId → Prop}
  {owner : Nat → Option NodeAddress}

theorem node_of_fresh (fresh : deployment.isFresh = true) {node : NodeAddress} {state : NodeState}
    (isNode : deployment.nodes.get? node = some state) :
    (∀ directory ∈ state.directories.values, directory.content?.isNone = true) ∧
      (∀ slot ∈ state.pool.pool.slots.values, slot.pending.isEmpty = true) ∧
      ∀ batch ∈ state.pool.pool.running, batch.works.isEmpty = true := by
  obtain ⟨nodes, _⟩ := Bool.and_eq_true_iff.1 fresh
  have unused := List.all_eq_true.1 nodes state ((Table.mem_values_iff _).2 ⟨node, isNode⟩)
  simpa only [Bool.and_eq_true, List.all_eq_true, and_assoc] using unused

theorem holdsOnly_of_fresh (fresh : deployment.isFresh = true)
    (may : NodeAddress → EntityId → ProjectId → Prop) : deployment.HoldsOnly may where
  directories := by
    intro node indexName content readable
    cases isNode : deployment.nodes.get? node with
    | none =>
        rw [directoryAt, isNode] at readable
        cases readable
    | some state =>
        rw [directoryAt, isNode, Option.bind_some] at readable
        cases isDirectory : state.directories.get? indexName with
        | none =>
            rw [isDirectory] at readable
            cases readable
        | some directory =>
            rw [isDirectory, Option.getD_some] at readable
            have unbuilt := (node_of_fresh fresh isNode).1 directory
              ((Table.mem_values_iff _).2 ⟨indexName, isDirectory⟩)
            rw [readable] at unbuilt
            cases unbuilt
  snapshots := by
    intro id service content present shown
    obtain ⟨_, services⟩ := Bool.and_eq_true_iff.1 fresh
    have closed := List.all_eq_true.1 services service
      ((Table.mem_values_iff _).2 ⟨id, present⟩)
    rw [shown] at closed
    cases closed

/-- Nothing is in the indexes of fresh nodes, and nothing is on its way there. -/
theorem KeepsApart.isGuarded_of_fresh (apart : deployment.KeepsApart owner)
    (fresh : deployment.isFresh = true) (requested : NodeAddress → EntityId → Prop) :
    deployment.IsGuarded owner requested := by
  refine ⟨apart, holdsOnly_of_fresh fresh _, fun node state isNode => ?_⟩
  obtain ⟨_, pending, running⟩ := node_of_fresh fresh isNode
  have employed := (apart.nodes node state isNode).employed
  constructor
  · intro name slot isSlot
    have nothing := List.isEmpty_iff.1 (pending slot ((Table.mem_values_iff _).2 ⟨name, isSlot⟩))
    rw [nothing]
    exact ⟨(employed.slots name slot isSlot).1, fun _ inside => by cases inside⟩
  · intro batch isRunning
    rw [List.isEmpty_iff.1 (running batch isRunning)]
    exact ⟨(employed.batches batch isRunning).1, fun _ inside => by cases inside⟩

end Deployment

/-- The operation saves entities, runs pools, or has a service scan, index requested entities or
delete some; `requested` tells which requests can be made. -/
def DeploymentOperation.Indexes (requested : NodeAddress → EntityId → Prop)
    (deployment : Deployment) : DeploymentOperation → Prop
  | .changeStore _ _ => True
  | .settle => True
  | .work id (.requestIndex ids) => ∀ service, deployment.services.get? id = some service →
      ∀ entity ∈ ids, requested service.node entity
  | .work _ .start => True
  | .work _ .stop => True
  | .work _ .refresh => True
  | .work _ (.deleteEntities _) => True
  | _ => False

namespace Deployment

variable {deployment : Deployment} {requested : NodeAddress → EntityId → Prop}
  {owner : Nat → Option NodeAddress}

theorem IsGuarded.measure (guarded : deployment.IsGuarded owner requested) (indexName : String)
    (change : IndexMetrics → IndexMetrics) :
    (deployment.measure indexName change).IsGuarded owner requested :=
  ⟨guarded.apart.measure indexName change, ⟨guarded.holds.directories, guarded.holds.snapshots⟩,
    guarded.pools⟩

theorem IsGuarded.deleteEntities (guarded : deployment.IsGuarded owner requested) {id : ServiceId}
    {service : Service} (present : deployment.services.get? id = some service)
    (ids : List EntityId) :
    (deployment.deleteEntities id service ids).1.IsGuarded owner requested := by
  have deleted : (deployment.onLocalIndex id service
      (service.index.deleteEntities · ids)).1.IsGuarded owner requested := by
    refine guarded.setLocalIndex present ((guarded.holds.localIndexOf present).transact
      service.index.layout fun change inside document upserted => ?_)
    obtain ⟨entity, _, rfl⟩ := List.mem_map.1 inside
    cases upserted
  unfold Deployment.deleteEntities
  generalize deployment.onLocalIndex id service (service.index.deleteEntities · ids) = result
    at *
  obtain ⟨after, _ | _⟩ := result
  · exact deleted
  · simp only
    apply IsGuarded.measure
    exact deleted

theorem IsGuarded.step (guarded : deployment.IsGuarded owner requested)
    {operation : DeploymentOperation} (indexes : operation.Indexes requested deployment) :
    (deployment.step operation).IsGuarded owner requested := by
  cases operation with
  | changeStore typeName change =>
      exact ⟨guarded.apart.ofStores _, ⟨guarded.holds.directories, guarded.holds.snapshots⟩,
        guarded.pools⟩
  | settle => exact guarded.settle
  | work id operation =>
      simp only [Deployment.step]
      split
      · exact guarded
      · rename_i service present
        have holds := guarded.holds.localIndexOf present
        cases operation with
        | requestIndex ids => exact guarded.requestIndex present (indexes service present)
        | start => exact guarded.startService present
        | stop => exact guarded.setLocalIndex present holds.stop
        | refresh => exact guarded.setLocalIndex present holds.refresh
        | deleteEntities ids => exact guarded.deleteEntities present ids
        | _ => exact indexes.elim
  | _ => exact indexes.elim

/-- The deployment is reached from fresh nodes by operations of this kind, so that no project
changes hands. -/
inductive IsIndexing (requested : NodeAddress → EntityId → Prop) : Deployment → Prop
  | fresh {deployment : Deployment} (separate : deployment.IsSeparate)
      (unused : deployment.isFresh = true) : IsIndexing requested deployment
  | step {deployment : Deployment} {operation : DeploymentOperation}
      (indexing : IsIndexing requested deployment)
      (indexes : operation.Indexes requested deployment) :
      IsIndexing requested (deployment.step operation)

theorem IsIndexing.run (indexing : IsIndexing requested deployment)
    {operations : List DeploymentOperation}
    (index : ∀ operation ∈ operations, ∀ deployment, operation.Indexes requested deployment) :
    IsIndexing requested (deployment.run operations) := by
  induction operations generalizing deployment with
  | nil => exact indexing
  | cons operation operations ih =>
      exact ih (indexing.step (index operation List.mem_cons_self deployment))
        fun other inside => index other (List.mem_cons_of_mem _ inside)

theorem IsIndexing.isGuarded (indexing : IsIndexing requested deployment) :
    ∃ owner, deployment.IsGuarded owner requested := by
  induction indexing with
  | fresh separate unused =>
      obtain ⟨owner, apart⟩ := separate
      exact ⟨owner, apart.isGuarded_of_fresh unused requested⟩
  | step _ indexes ih =>
      obtain ⟨owner, guarded⟩ := ih
      exact ⟨owner, guarded.step indexes⟩

/-- Whatever the nodes index, a document on a node is of a project that the node owns, or its
entity was requested on the node. -/
theorem own_or_requested (indexing : IsIndexing requested deployment) {node : NodeAddress}
    {indexName : String} {content : IndexContent}
    (readable : deployment.directoryAt node indexName = .readable content) {layout : Layout}
    {entity : Entity} (inside : (layout.documentFor entity).document ∈ content.documents) :
    deployment.cluster.ownerOf entity.project = some node ∨ requested node entity.id := by
  obtain ⟨owner, guarded⟩ := indexing.isGuarded
  exact guarded.holds.directories node indexName content readable layout entity inside

/-- Nodes that index nothing on request have no project in common. -/
theorem node_unique_of_scans (indexing : IsIndexing (fun _ _ => False) deployment)
    {first second : NodeAddress} {firstIndex secondIndex : String}
    {content otherContent : IndexContent}
    (readable : deployment.directoryAt first firstIndex = .readable content)
    (readableToo : deployment.directoryAt second secondIndex = .readable otherContent)
    {layout otherLayout : Layout} {entity other : Entity}
    (inside : (layout.documentFor entity).document ∈ content.documents)
    (insideToo : (otherLayout.documentFor other).document ∈ otherContent.documents)
    (sameProject : other.project = entity.project) : second = first := by
  obtain ⟨owner, guarded⟩ := indexing.isGuarded
  have owned := guarded.holds.directories
  have owns := (owned first firstIndex content readable layout entity inside).resolve_right id
  have ownsToo := (owned second secondIndex otherContent readableToo otherLayout other
    insideToo).resolve_right id
  rw [sameProject, owns] at ownsToo
  exact (Option.some.inj ownsToo).symm

/-- Two nodes without indexes over a store with one issue. -/
def sharingNodes : Deployment :=
  empty.run
    [.join "a" 1, .install IndexLife.issueOwner "issue" "a", .join "b" 1,
      .install IndexLife.issueOwner "issue" "b",
      .changeStore "issue" fun shared =>
        { shared with store := shared.store.save ⟨1, 1, [("state", .text "open")]⟩ }]

/-- The first of these nodes owns the project of the issue, and both have scanned the store. -/
def scannedNodes : Deployment :=
  ({ sharingNodes with cluster := sharingNodes.cluster.assign 1 "a" } : Deployment).run
    [.work 1 .start, .work 3 .start, .settle]

theorem isIndexing_scannedNodes (requested : NodeAddress → EntityId → Prop) :
    IsIndexing requested scannedNodes := by
  have joined : sharingNodes.IsReached := by
    refine IsReached.empty.run fun operation inside deployment => ?_
    simp only [List.mem_cons, List.not_mem_nil, or_false] at inside
    rcases inside with rfl | rfl | rfl | rfl | rfl <;> trivial
  have assigned : IsReached { sharingNodes with cluster := sharingNodes.cluster.assign 1 "a" } :=
    joined.changeCluster fun _ _ isHandler => Or.inl isHandler
  refine (IsIndexing.fresh assigned.isSeparate (by decide +kernel)).run
    fun operation inside deployment => ?_
  simp only [List.mem_cons, List.not_mem_nil, or_false] at inside
  rcases inside with rfl | rfl | rfl <;> trivial

/-- The scans index the issue on the node that owns its project. -/
example : (["a", "b"].map fun node => idsIn (scannedNodes.directoryAt node "issue")) =
    [[(some 1, some 1)], []] := by
  decide +kernel

/-- Then the second node was asked to index the issue. -/
def askedNodes : Deployment :=
  scannedNodes.run [.work 3 (.requestIndex [1]), .settle]

theorem isIndexing_askedNodes :
    IsIndexing (fun node entity => node = "b" ∧ entity = 1) askedNodes := by
  have onSecond : (scannedNodes.services.get? 3).map (·.node) = some "b" := by decide +kernel
  have asked : DeploymentOperation.Indexes (fun node entity => node = "b" ∧ entity = 1)
      scannedNodes (.work 3 (.requestIndex [1])) := by
    intro service present entity inside
    rw [present, Option.map_some] at onSecond
    exact ⟨Option.some.inj onSecond, List.mem_singleton.1 inside⟩
  have requested := (isIndexing_scannedNodes fun node entity => node = "b" ∧ entity = 1).step asked
  have settled : IsIndexing (fun node entity => node = "b" ∧ entity = 1)
      ((scannedNodes.step (.work 3 (.requestIndex [1]))).step .settle) :=
    requested.step trivial
  exact settled

/-- The second node does not own the project of the issue, but was asked for it. -/
theorem asked_node_owns_or_was_asked :
    ∃ content, askedNodes.directoryAt "b" "issue" = .readable content ∧
      (IndexLife.issueOwner.documentFor ⟨1, 1, [("state", .text "open")]⟩).document ∈
        content.documents ∧
      (askedNodes.cluster.ownerOf 1 = some "b" ∨ "b" = "b" ∧ (1 : EntityId) = 1) := by
  have holds : (askedNodes.directoryAt "b" "issue").content?.any (fun content =>
      content.documents.contains
        (IndexLife.issueOwner.documentFor ⟨1, 1, [("state", .text "open")]⟩).document) = true := by
    decide +kernel
  obtain ⟨content, isContent, found⟩ := (Option.any_eq_true ..).1 holds
  have readable := IndexDirectory.content?_eq_some.1 isContent
  have inside := List.contains_iff_mem.1 found
  exact ⟨content, readable, inside, own_or_requested isIndexing_askedNodes readable inside⟩

/-- The request indexes the issue on the other node, too, and it is counted twice then. -/
theorem requested_issue_is_counted_twice :
    IsIndexing (fun node entity => node = "b" ∧ entity = 1) askedNodes ∧
      (askedNodes.storeOf "issue").store.size = 1 ∧ askedNodes.cluster.ownerOf 1 = some "a" ∧
      (["a", "b"].map fun node => idsIn (askedNodes.directoryAt node "issue")) =
        [[(some 1, some 1)], [(some 1, some 1)]] ∧
      (askedNodes.count issueService "*:*").2.toOption = some 2 := by
  refine ⟨isIndexing_askedNodes, ?_, ?_, ?_, ?_⟩
  all_goals decide +kernel

end Deployment

end EntitySearch
