import EntitySearch.Deployment.Questions
import EntitySearch.Proofs.DescribedIndexes
import EntitySearch.Proofs.GatheredAnswers
import EntitySearch.Proofs.PoolWorlds
import EntitySearch.Proofs.TableEntries

/-!
# The life of a deployment

A deployment is reached by changes of its stores and its cluster, by nodes and
services that come and go, by work on the indexes, and by the background batches.
In every deployment that is reached, each index in a directory and each snapshot
of a service is what some chronicle says.
-/

namespace EntitySearch

namespace Deployment

/-- Every index in a directory and every snapshot of a service is described by a chronicle. -/
structure IsDescribed (deployment : Deployment) : Prop where
  directories : ∀ node indexName content,
    deployment.directoryAt node indexName = .readable content → content.IsDescribed
  snapshots : ∀ id service content, deployment.services.get? id = some service →
    service.snapshot = some content → content.IsDescribed

variable {deployment : Deployment}

theorem isDescribed_empty : empty.IsDescribed where
  directories := by
    intro node indexName content readable
    cases readable
  snapshots := by
    intro id service content present
    cases present

theorem IsDescribed.of_same (described : deployment.IsDescribed) {other : Deployment}
    (sameDirectories : ∀ node indexName,
      other.directoryAt node indexName = deployment.directoryAt node indexName)
    (fewerServices : ∀ id service, other.services.get? id = some service →
      deployment.services.get? id = some service) : other.IsDescribed where
  directories := by
    intro node indexName content readable
    rw [sameDirectories] at readable
    exact described.directories node indexName content readable
  snapshots := fun id service content present =>
    described.snapshots id service content (fewerServices id service present)

/-- The directory of an index of a node, by the state of the node. -/
def directoryIn (state : Option NodeState) (indexName : String) : IndexDirectory :=
  (state.bind fun state => state.directories.get? indexName).getD .missing

theorem directoryAt_changeNode (deployment : Deployment) (node other : NodeAddress)
    (change : NodeState → NodeState) (indexName : String) :
    (deployment.changeNode node change).directoryAt other indexName =
      directoryIn (if other = node then (deployment.nodes.get? node).map change
        else deployment.nodes.get? other) indexName := by
  show directoryIn ((deployment.nodes.modify node change).get? other) indexName = _
  rw [Table.get?_modify]

/-- A change of a node that leaves its directories alone leaves all directories alone. -/
theorem directoryAt_changeNode_of_keeps {change : NodeState → NodeState}
    (keeps : ∀ state, (change state).directories = state.directories) (deployment : Deployment)
    (node other : NodeAddress) (indexName : String) :
    (deployment.changeNode node change).directoryAt other indexName =
      deployment.directoryAt other indexName := by
  rw [directoryAt_changeNode]
  split
  · rename_i same
    rw [same]
    show directoryIn _ indexName = directoryIn (deployment.nodes.get? node) indexName
    cases deployment.nodes.get? node with
    | none => rfl
    | some state =>
        show ((change state).directories.get? indexName).getD .missing = _
        rw [keeps state]
        rfl
  · rfl

theorem IsDescribed.changeNode (described : deployment.IsDescribed) (node : NodeAddress)
    {change : NodeState → NodeState}
    (keeps : ∀ state, (change state).directories = state.directories) :
    (deployment.changeNode node change).IsDescribed :=
  described.of_same (directoryAt_changeNode_of_keeps keeps deployment node)
    (fun _ _ present => present)

theorem IsDescribed.forgetLost (described : deployment.IsDescribed) :
    deployment.forgetLost.IsDescribed := by
  refine described.of_same (fun _ _ => rfl) fun id service present => ?_
  rw [← Table.mem_entries_iff] at present ⊢
  exact (List.mem_filter.1 present).1

theorem IsDescribed.measure (described : deployment.IsDescribed) (indexName : String)
    (change : IndexMetrics → IndexMetrics) : (deployment.measure indexName change).IsDescribed :=
  described.of_same (fun _ _ => rfl) (fun _ _ present => present)

theorem IsDescribed.localIndexOf (described : deployment.IsDescribed) {id : ServiceId}
    {service : Service} (present : deployment.services.get? id = some service) :
    (deployment.localIndexOf service).IsDescribed where
  directory := described.directories service.node service.index.name
  snapshot := fun content => described.snapshots id service content present

theorem IsDescribed.setLocalIndex (described : deployment.IsDescribed) (id : ServiceId)
    (service : Service) {index : LocalIndex} (indexDescribed : index.IsDescribed) :
    (deployment.setLocalIndex id service index).IsDescribed where
  directories := by
    intro node indexName content readable
    have found : (deployment.setDirectory service.node service.index.name
        index.directory).directoryAt node indexName = .readable content := readable
    rw [setDirectory, directoryAt_changeNode] at found
    split at found
    · rename_i same
      cases state : deployment.nodes.get? service.node with
      | none =>
          rw [state] at found
          cases found
      | some present =>
          rw [state] at found
          by_cases sameName : indexName = service.index.name
          · subst sameName
            simp only [directoryIn, Option.map_some, Option.bind_some, Table.get?_set_self,
              Option.getD_some] at found
            exact indexDescribed.directory content found
          · simp only [directoryIn, Option.map_some, Option.bind_some,
              Table.get?_set_of_ne _ sameName] at found
            refine described.directories service.node indexName content ?_
            rw [directoryAt, state]
            exact found
    · exact described.directories node indexName content found
  snapshots := by
    intro other found content present shown
    have modified : (deployment.services.modify id fun present =>
        { present with snapshot := index.snapshot, hasCommitted := index.hasCommitted }).get?
          other = some found := present
    rw [Table.get?_modify] at modified
    split at modified
    · obtain ⟨earlier, _, same⟩ := Option.map_eq_some_iff.1 modified
      rw [← same] at shown
      exact indexDescribed.snapshot content shown
    · exact described.snapshots other found content modified shown

theorem IsDescribed.onLocalIndex {Outcome : Type} (described : deployment.IsDescribed)
    {id : ServiceId} {service : Service} {act : LocalIndex → LocalIndex × Outcome}
    (acts : ∀ index : LocalIndex, index.IsDescribed → (act index).1.IsDescribed)
    (present : deployment.services.get? id = some service) :
    (deployment.onLocalIndex id service act).1.IsDescribed :=
  described.setLocalIndex id service (acts _ (described.localIndexOf present))

section Pools

open Scheduling

theorem IsDescribed.runBatch (described : deployment.IsDescribed) {id : ServiceId}
    {service : Service} (present : deployment.services.get? id = some service)
    (works : List Work) : (deployment.runBatch id service works).1.IsDescribed := by
  have started : (IndexingBatch.start (deployment.localIndexOf service)
      (deployment.metricsOf service.index.name).tally works).index.IsDescribed := by
    rw [IndexingBatch.index_start]
    exact described.localIndexOf present
  have ended := IndexingBatch.isDescribed_run started
    (IndexingBatch.loadsEntities_start service.index _ _ works) (deployment.sourceFor service)
    (IndexingBatch.stepBound works.length (deployment.storeOf service.typeName).store.size)
  have reached : ∀ change (outcome : BatchOutcome),
      ((deployment.setLocalIndex id service _).measure service.index.name change,
        outcome).1.IsDescribed :=
    fun change _ => (described.setLocalIndex id service ended).measure _ change
  simp only [Deployment.runBatch]
  split <;> exact reached _ _

theorem keeps_batchBehavior : batchBehavior.Keeps IsDescribed where
  start := fun _ _ _ described => described
  finish := by
    intro deployment now batch slept described
    simp only [batchBehavior]
    apply IsDescribed.measure
    cases present : deployment.services.get? batch.worker.agent with
    | none => exact described
    | some service => exact described.runBatch present batch.works
  refused := fun _ _ described => described

theorem IsDescribed.onPool (described : deployment.IsDescribed) (node : NodeAddress)
    {act : Timeline ServiceId Deployment → Timeline ServiceId Deployment}
    (acts : ∀ line : Timeline ServiceId Deployment,
      line.world.IsDescribed → (act line).world.IsDescribed) :
    (deployment.onPool node act).IsDescribed := by
  unfold Deployment.onPool
  split
  · exact described
  · exact (acts _ described).changeNode node (fun _ => rfl)

theorem IsDescribed.submit (described : deployment.IsDescribed) (id : ServiceId)
    (service : Service) (work : Work) : (deployment.submit id service work).IsDescribed := by
  refine described.onPool service.node fun line lineDescribed => ?_
  split
  · rename_i next submitted
    rw [Timeline.world_submit submitted]
    exact lineDescribed
  · exact lineDescribed

theorem IsDescribed.requestIndex (described : deployment.IsDescribed) (id : ServiceId)
    (service : Service) (ids : List EntityId) :
    (deployment.requestIndex id service ids).IsDescribed :=
  List.foldlRecOn ids _ described fun _ kept entity _ => kept.submit id service (.entity entity)

theorem IsDescribed.settleNode (described : deployment.IsDescribed) (node : NodeAddress) :
    (deployment.settleNode node).IsDescribed :=
  described.onPool node fun _ lineDescribed =>
    Timeline.keeps_settle keeps_batchBehavior _ lineDescribed

theorem IsDescribed.settle (described : deployment.IsDescribed) :
    deployment.settle.IsDescribed :=
  List.foldlRecOn deployment.nodes.keys _ described fun _ kept node _ => kept.settleNode node

theorem IsDescribed.settleOthers (described : deployment.IsDescribed) (node : NodeAddress) :
    (deployment.settleOthers node).IsDescribed :=
  List.foldlRecOn (deployment.nodes.keys.filter (· != node)) _ described
    fun _ kept other _ => kept.settleNode other

theorem IsDescribed.shutDown (described : deployment.IsDescribed) (node : NodeAddress) :
    (deployment.shutDown node).IsDescribed := by
  unfold Deployment.shutDown
  split
  · exact described
  · exact (described.settleOthers node).onPool node fun _ lineDescribed =>
      Timeline.keeps_shutDown keeps_batchBehavior _ lineDescribed

end Pools

section Services

theorem IsDescribed.startService (described : deployment.IsDescribed) {id : ServiceId}
    {service : Service} (present : deployment.services.get? id = some service) :
    (deployment.startService id service).1.IsDescribed := by
  have started := described.onLocalIndex
    (fun index indexDescribed => indexDescribed.start service.index.configuration
      service.index.configuration.version) present
  have sameStart : deployment.onLocalIndex id service (LocalIndex.start service.index.spec) =
      deployment.onLocalIndex id service (LocalIndex.start
        ⟨service.index.configuration.layout, service.index.configuration.version⟩) := rfl
  rw [← sameStart] at started
  unfold Deployment.startService
  generalize deployment.onLocalIndex id service (LocalIndex.start service.index.spec) = result
    at *
  obtain ⟨after, _ | _⟩ := result
  · exact started
  · exact started.submit id service .scan

theorem IsDescribed.deleteEntities (described : deployment.IsDescribed) {id : ServiceId}
    {service : Service} (present : deployment.services.get? id = some service)
    (ids : List EntityId) : (deployment.deleteEntities id service ids).1.IsDescribed := by
  have acts : ∀ index : LocalIndex, index.IsDescribed →
      (service.index.deleteEntities index ids).1.IsDescribed := fun index indexDescribed =>
    indexDescribed.transact (service.index.stagesOrdinary_deleteEntities ids)
  have deleted := described.onLocalIndex acts present
  unfold Deployment.deleteEntities
  generalize deployment.onLocalIndex id service (service.index.deleteEntities · ids) = result
    at *
  obtain ⟨after, _ | _⟩ := result
  · exact deleted
  · simp only
    apply IsDescribed.measure
    exact deleted

theorem IsDescribed.answerTask (described : deployment.IsDescribed) (registry : Registry)
    (task : ClusterTask) : (deployment.answerTask registry task).1.IsDescribed := by
  unfold Deployment.answerTask
  split
  · exact described
  · rename_i id service found
    obtain ⟨_, _, served⟩ := Option.bind_eq_some_iff.1 found
    obtain ⟨_, present, same⟩ := Option.map_eq_some_iff.1 served
    cases same
    exact described.onLocalIndex
      (fun index indexDescribed => service.index.isDescribed_answer indexDescribed task) present

theorem IsDescribed.broadcast (described : deployment.IsDescribed) (service : Service)
    (task : ClusterTask) : (deployment.broadcast service task).1.IsDescribed := by
  have runs : ∀ (world : Deployment) (number : Nat) (task : ClusterTask) (after : Deployment)
      (answer : Except NodeFailure ClusterResponse),
      taskRunner.run world number task = some (after, answer) →
        world.IsDescribed → after.IsDescribed := by
    intro world number task after answer ran worldDescribed
    obtain ⟨registry, _, answered⟩ := Option.map_eq_some_iff.1 ran
    have afterDescribed := worldDescribed.answerTask registry task
    rw [answered] at afterDescribed
    exact afterDescribed
  exact IsDescribed.measure (Cluster.keeps_broadcast runs
    (fun world worldDescribed => worldDescribed.settle) _ described) _ _

theorem IsDescribed.count (described : deployment.IsDescribed) (service : Service)
    (query : String) : (deployment.count service query).1.IsDescribed := by
  unfold Deployment.count
  split
  · exact described
  · simp only
    apply IsDescribed.measure
    exact described.broadcast service _

theorem IsDescribed.rankedPage (described : deployment.IsDescribed) (service : Service)
    (query : String) (offset limit : UInt64) :
    (deployment.rankedPage service query offset limit).1.IsDescribed := by
  unfold Deployment.rankedPage
  split
  · exact described
  · simp only
    apply IsDescribed.measure
    exact described.broadcast service _

theorem IsDescribed.search (described : deployment.IsDescribed) (service : Service)
    (query : String) (offset limit : UInt64) :
    (deployment.search service query offset limit).1.IsDescribed := by
  unfold Deployment.search
  split
  · exact described
  · exact described.rankedPage service query offset limit

end Services

section Nodes

theorem IsDescribed.setNode (described : deployment.IsDescribed) (node : NodeAddress)
    {state : NodeState} (cluster : Cluster Nat) (number : Nat)
    (kept : ∀ indexName content, directoryIn (some state) indexName = .readable content →
      deployment.directoryAt node indexName = .readable content) :
    ({ deployment with
        nodes := deployment.nodes.set node state
        cluster := cluster
        nextNumber := number } : Deployment).IsDescribed where
  directories := by
    intro other indexName content readable
    have found : directoryIn ((deployment.nodes.set node state).get? other) indexName =
        .readable content := readable
    by_cases same : other = node
    · subst same
      rw [Table.get?_set_self] at found
      exact described.directories other indexName content (kept indexName content found)
    · rw [Table.get?_set_of_ne _ same] at found
      exact described.directories other indexName content found
  snapshots := described.snapshots

theorem IsDescribed.join (described : deployment.IsDescribed) (node : NodeAddress)
    (poolSize : Nat) : (deployment.join node poolSize).IsDescribed := by
  unfold Deployment.join
  split
  · exact described.of_same (fun _ _ => rfl) (fun _ _ present => present)
  · refine described.setNode node _ _ fun indexName content readable => ?_
    cases readable

theorem IsDescribed.restart (described : deployment.IsDescribed) (node : NodeAddress) :
    (deployment.restart node).IsDescribed := by
  unfold Deployment.restart
  split
  · exact described
  · rename_i state isState
    refine IsDescribed.forgetLost (described.setNode node _ _ fun indexName content readable => ?_)
    rw [directoryAt, isState]
    exact readable

theorem IsDescribed.install (described : deployment.IsDescribed) {service : Service}
    (closed : service.snapshot = none) : (deployment.install service).1.IsDescribed := by
  have added : ({ deployment with
      services := deployment.services.set deployment.nextNumber service
      nextNumber := deployment.nextNumber + 1 } : Deployment).IsDescribed := by
    refine ⟨described.directories, fun id found content present shown => ?_⟩
    by_cases same : id = deployment.nextNumber
    · rw [same, Table.get?_set_self] at present
      cases present
      rw [closed] at shown
      cases shown
    · rw [Table.get?_set_of_ne _ same] at present
      exact described.snapshots id found content present shown
  unfold Deployment.install
  apply IsDescribed.forgetLost
  apply added.changeNode
  intro state
  rfl

theorem IsDescribed.dropRegistry (described : deployment.IsDescribed) (node : NodeAddress) :
    (deployment.dropRegistry node).IsDescribed := by
  unfold Deployment.dropRegistry
  apply IsDescribed.forgetLost
  apply described.changeNode
  intro state
  rfl

theorem IsDescribed.unregister (described : deployment.IsDescribed) (node : NodeAddress)
    (indexName : String) : (deployment.unregister node indexName).IsDescribed := by
  unfold Deployment.unregister
  apply IsDescribed.forgetLost
  apply described.changeNode
  intro state
  rfl

theorem IsDescribed.forget (described : deployment.IsDescribed) (node : NodeAddress)
    (typeName : String) : (deployment.forget node typeName).IsDescribed := by
  unfold Deployment.forget
  split
  · exact described
  · apply IsDescribed.unregister
    apply described.changeNode
    intro state
    rfl

end Nodes

end Deployment

inductive ServiceOperation
  | start
  | stop
  | refresh
  /-- The index is lost from the directory. -/
  | damage (directory : IndexDirectory) (unbuilt : directory.content? = none)
  | readProgressMark
  | statistics
  | transact (staged : Except SearchFailure (List IndexEdit))
  | deleteEntities (ids : List EntityId)
  | requestIndex (ids : List EntityId)
  | deleteProject (project : ProjectId)
  | count (query : String)
  | search (query : String) (offset limit : UInt64)

inductive DeploymentOperation
  | changeStore (typeName : String) (change : SharedStore → SharedStore)
  /-- Members leave, get out of reach or slow, and projects change hands. -/
  | changeCluster (cluster : Cluster Nat)
  | join (node : NodeAddress) (poolSize : Nat)
  | restart (node : NodeAddress)
  | dropRegistry (node : NodeAddress)
  | install (index : EntityIndex) (typeName : String) (node : NodeAddress)
  | unregister (node : NodeAddress) (indexName : String)
  | forget (node : NodeAddress) (typeName : String)
  | settle
  | shutDown (node : NodeAddress)
  /-- A registry handles a task, wherever that comes from. -/
  | answerTask (registry : Registry) (task : ClusterTask)
  /-- A service works; nothing happens if there is no such service. -/
  | work (id : ServiceId) (operation : ServiceOperation)

namespace Deployment

def work (deployment : Deployment) (id : ServiceId) (service : Service) :
    ServiceOperation → Deployment
  | .start => (deployment.startService id service).1
  | .stop => (deployment.onLocalIndex id service fun index => (index.stop, ())).1
  | .refresh => (deployment.onLocalIndex id service fun index => (index.refresh, ())).1
  | .damage directory _ =>
      (deployment.onLocalIndex id service fun index =>
        ({ index with directory := directory }, ())).1
  | .readProgressMark =>
      (deployment.onLocalIndex id service (LocalIndex.readProgressMark service.index.layout)).1
  | .statistics =>
      (deployment.onLocalIndex id service (LocalIndex.statistics service.index.layout)).1
  | .transact staged =>
      (deployment.onLocalIndex id service fun index =>
        index.transact service.index.layout (staged.map (·.map (·.change service.index)))).1
  | .deleteEntities ids => (deployment.deleteEntities id service ids).1
  | .requestIndex ids => deployment.requestIndex id service ids
  | .deleteProject project => (deployment.deleteProject service project).1
  | .count query => (deployment.count service query).1
  | .search query offset limit => (deployment.search service query offset limit).1

def step (deployment : Deployment) : DeploymentOperation → Deployment
  | .changeStore typeName change => deployment.changeStore typeName change
  | .changeCluster cluster => { deployment with cluster := cluster }
  | .join node poolSize => deployment.join node poolSize
  | .restart node => deployment.restart node
  | .dropRegistry node => deployment.dropRegistry node
  | .install index typeName node => (deployment.install ⟨index, typeName, node, none, false⟩).1
  | .unregister node indexName => deployment.unregister node indexName
  | .forget node typeName => deployment.forget node typeName
  | .settle => deployment.settle
  | .shutDown node => deployment.shutDown node
  | .answerTask registry task => (deployment.answerTask registry task).1
  | .work id operation =>
      match deployment.services.get? id with
      | none => deployment
      | some service => deployment.work id service operation

def run (deployment : Deployment) (operations : List DeploymentOperation) : Deployment :=
  operations.foldl step deployment

variable {deployment : Deployment}

theorem IsDescribed.work (described : deployment.IsDescribed) {id : ServiceId}
    {service : Service} (present : deployment.services.get? id = some service)
    (operation : ServiceOperation) : (deployment.work id service operation).IsDescribed := by
  cases operation with
  | start => exact described.startService present
  | stop => exact described.onLocalIndex (fun _ indexDescribed => indexDescribed.stop) present
  | refresh =>
      exact described.onLocalIndex (fun _ indexDescribed => indexDescribed.refresh) present
  | damage directory unbuilt =>
      exact described.onLocalIndex (fun _ indexDescribed => indexDescribed.damage unbuilt) present
  | readProgressMark =>
      exact described.onLocalIndex (fun _ indexDescribed =>
        indexDescribed.readProgressMark service.index.configuration) present
  | statistics =>
      exact described.onLocalIndex (fun _ indexDescribed =>
        indexDescribed.statistics service.index.configuration) present
  | transact staged =>
      exact described.onLocalIndex (fun _ indexDescribed =>
        indexDescribed.transact (service.index.stagesOrdinary_edits staged)) present
  | deleteEntities ids => exact described.deleteEntities present ids
  | requestIndex ids => exact described.requestIndex id service ids
  | deleteProject project => exact described.broadcast service _
  | count query => exact described.count service query
  | search query offset limit => exact described.search service query offset limit

theorem IsDescribed.step (described : deployment.IsDescribed) (operation : DeploymentOperation) :
    (deployment.step operation).IsDescribed := by
  cases operation with
  | changeStore typeName change =>
      exact described.of_same (fun _ _ => rfl) (fun _ _ present => present)
  | changeCluster cluster =>
      exact described.of_same (fun _ _ => rfl) (fun _ _ present => present)
  | join node poolSize => exact described.join node poolSize
  | restart node => exact described.restart node
  | dropRegistry node => exact described.dropRegistry node
  | install index typeName node => exact described.install rfl
  | unregister node indexName => exact described.unregister node indexName
  | forget node typeName => exact described.forget node typeName
  | settle => exact described.settle
  | shutDown node => exact described.shutDown node
  | answerTask registry task => exact described.answerTask registry task
  | work id operation =>
      simp only [Deployment.step]
      split
      · exact described
      · rename_i service present
        exact described.work present operation

/-- Whatever happens to a deployment, what is stored and what is shown stays described by
chronicles. -/
theorem IsDescribed.run (described : deployment.IsDescribed)
    (operations : List DeploymentOperation) : (deployment.run operations).IsDescribed := by
  induction operations generalizing deployment with
  | nil => exact described
  | cons operation operations ih => exact ih (described.step operation)

end Deployment

end EntitySearch
