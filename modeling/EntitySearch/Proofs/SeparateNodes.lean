import EntitySearch.Proofs.DeploymentLife
import EntitySearch.Proofs.PairedPools
import EntitySearch.Proofs.SearchRounds
import Mathlib.Logic.Function.Basic

/-!
# Separate nodes

The numbers of registries and services are given out once, each to one node.  A
registry, its services, the handler of a member and the works in a pool all go by
numbers that were given to the same node.  So a task that is delivered to a node,
and a batch in its pool, meet services of this node only.
-/

namespace EntitySearch

/-- The pool of a node works for services of the node, whatever they ask for. -/
def ownScope (owner : Nat → Option NodeAddress) (node : NodeAddress) :
    Scheduling.Scope ServiceId where
  agents id := owner id = some node
  works _ := True

namespace NodeState

/-- What a node uses are numbers of its own, and its registry lists services by their names. -/
structure UsesOwn (state : NodeState) (services : Table ServiceId Service)
    (owner : Nat → Option NodeAddress) (node : NodeAddress) : Prop where
  registry : ∀ registry, state.registry = some registry → owner registry.number = some node
  registered : ∀ registry indexName id, state.registry = some registry →
    registry.services.get? indexName = some id → owner id = some node ∧
      ∀ service, services.get? id = some service → service.index.name = indexName
  employed : state.pool.pool.Employs (ownScope owner node)

variable {state : NodeState} {services : Table ServiceId Service}
  {owner : Nat → Option NodeAddress} {node : NodeAddress}

/-- A state in which less is registered uses no other numbers. -/
theorem UsesOwn.fewer (own : state.UsesOwn services owner node) {next : NodeState}
    (registry : ∀ registry, next.registry = some registry → ∃ earlier,
      state.registry = some earlier ∧ registry.number = earlier.number ∧
        ∀ indexName id, registry.services.get? indexName = some id →
          earlier.services.get? indexName = some id)
    (employed : next.pool.pool.Employs (ownScope owner node)) :
    next.UsesOwn services owner node where
  registry := by
    intro found isRegistry
    obtain ⟨earlier, wasRegistry, sameNumber, _⟩ := registry found isRegistry
    rw [sameNumber]
    exact own.registry earlier wasRegistry
  registered := by
    intro found indexName id isRegistry listed
    obtain ⟨earlier, wasRegistry, _, wasListed⟩ := registry found isRegistry
    exact own.registered earlier indexName id wasRegistry (wasListed indexName id listed)
  employed := employed

theorem UsesOwn.sameRegistry (own : state.UsesOwn services owner node) {next : NodeState}
    (registry : next.registry = state.registry)
    (employed : next.pool.pool.Employs (ownScope owner node)) :
    next.UsesOwn services owner node :=
  own.fewer (fun found isRegistry => ⟨found, registry ▸ isRegistry, rfl, fun _ _ listed => listed⟩)
    employed

end NodeState

namespace Deployment

/-- The nodes keep apart: `owner` tells to which node a number was given, and each node goes by
its own numbers. -/
structure KeepsApart (deployment : Deployment) (owner : Nat → Option NodeAddress) : Prop where
  given : ∀ number node, owner number = some node → number < deployment.nextNumber
  services : ∀ id service, deployment.services.get? id = some service →
    owner id = some service.node
  handlers : ∀ node number, handlerOf deployment.cluster node = some number →
    owner number = some node
  nodes : ∀ node state, deployment.nodes.get? node = some state →
    state.UsesOwn deployment.services owner node

/-- The nodes keep apart by some distribution of the numbers. -/
def IsSeparate (deployment : Deployment) : Prop :=
  ∃ owner, deployment.KeepsApart owner

theorem isSeparate_empty : empty.IsSeparate := by
  refine ⟨fun _ => none, ⟨?_, ?_, ?_, ?_⟩⟩
  · intro number node isOwner
    cases isOwner
  · intro id service present
    cases present
  · intro node number isHandler
    cases isHandler
  · intro node state isNode
    cases isNode

namespace KeepsApart

variable {deployment : Deployment} {owner : Nat → Option NodeAddress}

/-! ### Parts of a deployment -/

theorem setNode (apart : deployment.KeepsApart owner) {node : NodeAddress} {state : NodeState}
    (own : state.UsesOwn deployment.services owner node) :
    ({ deployment with nodes := deployment.nodes.set node state } : Deployment).KeepsApart
      owner := by
  refine ⟨apart.given, apart.services, apart.handlers, fun other found present => ?_⟩
  by_cases same : other = node
  · rw [same, Table.get?_set_self] at present
    cases present
    exact same ▸ own
  · rw [Table.get?_set_of_ne _ same] at present
    exact apart.nodes other found present

theorem changeNode (apart : deployment.KeepsApart owner) {node : NodeAddress}
    {change : NodeState → NodeState}
    (own : ∀ state, state.UsesOwn deployment.services owner node →
      (change state).UsesOwn deployment.services owner node) :
    (deployment.changeNode node change).KeepsApart owner := by
  unfold Deployment.changeNode Table.modify
  split
  · rename_i state isNode
    exact apart.setNode (own state (apart.nodes node state isNode))
  · exact apart

/-- Services go, or change nothing but what they hold in memory. -/
theorem ofServices (apart : deployment.KeepsApart owner) {services : Table ServiceId Service}
    (fewer : ∀ id service, services.get? id = some service → ∃ earlier,
      deployment.services.get? id = some earlier ∧ earlier.node = service.node ∧
        earlier.index = service.index) :
    ({ deployment with services := services } : Deployment).KeepsApart owner where
  given := apart.given
  services := by
    intro id service present
    obtain ⟨earlier, wasPresent, sameNode, _⟩ := fewer id service present
    rw [← sameNode]
    exact apart.services id earlier wasPresent
  handlers := apart.handlers
  nodes := by
    intro node state isNode
    have own := apart.nodes node state isNode
    refine ⟨own.registry, fun registry indexName id isRegistry listed => ?_, own.employed⟩
    obtain ⟨isOwner, named⟩ := own.registered registry indexName id isRegistry listed
    refine ⟨isOwner, fun service present => ?_⟩
    obtain ⟨earlier, wasPresent, _, sameIndex⟩ := fewer id service present
    rw [← sameIndex]
    exact named earlier wasPresent

theorem ofCluster (apart : deployment.KeepsApart owner) {cluster : Cluster Nat}
    (handlers : ∀ node number, handlerOf cluster node = some number → owner number = some node) :
    ({ deployment with cluster := cluster } : Deployment).KeepsApart owner :=
  ⟨apart.given, apart.services, handlers, apart.nodes⟩

theorem ofStores (apart : deployment.KeepsApart owner) (stores : Table String SharedStore) :
    ({ deployment with stores := stores } : Deployment).KeepsApart owner :=
  ⟨apart.given, apart.services, apart.handlers, apart.nodes⟩

theorem measure (apart : deployment.KeepsApart owner) (indexName : String)
    (change : IndexMetrics → IndexMetrics) :
    (deployment.measure indexName change).KeepsApart owner :=
  ⟨apart.given, apart.services, apart.handlers, apart.nodes⟩

theorem forgetLost (apart : deployment.KeepsApart owner) :
    deployment.forgetLost.KeepsApart owner := by
  refine apart.ofServices fun id service present => ⟨service, ?_, rfl, rfl⟩
  rw [← Table.mem_entries_iff] at present ⊢
  exact (List.mem_filter.1 present).1

theorem setLocalIndex (apart : deployment.KeepsApart owner) (id : ServiceId) (service : Service)
    (index : LocalIndex) : (deployment.setLocalIndex id service index).KeepsApart owner := by
  have placed : (deployment.setDirectory service.node service.index.name
      index.directory).KeepsApart owner :=
    apart.changeNode fun _ own => own.sameRegistry rfl own.employed
  refine placed.ofServices fun other found present => ?_
  rw [Table.get?_modify] at present
  split at present
  · rename_i same
    obtain ⟨earlier, wasPresent, rfl⟩ := Option.map_eq_some_iff.1 present
    exact ⟨earlier, same ▸ wasPresent, rfl, rfl⟩
  · exact ⟨found, present, rfl, rfl⟩

theorem handlerOf_attach (cluster : Cluster Nat) (node other : NodeAddress) (number : Nat) :
    handlerOf (cluster.attach node number) other =
      if other = node then some number else handlerOf cluster other := by
  unfold handlerOf Cluster.attach Table.alter
  split
  · rename_i same
    rw [same, Table.get?_set_self]
    rfl
  · rename_i different
    rw [Table.get?_set_of_ne _ different]

theorem attach (apart : deployment.KeepsApart owner) {node : NodeAddress} {number : Nat}
    (isOwner : owner number = some node) :
    ({ deployment with cluster := deployment.cluster.attach node number } :
      Deployment).KeepsApart owner := by
  refine apart.ofCluster fun other found isHandler => ?_
  rw [handlerOf_attach] at isHandler
  split at isHandler
  · rename_i same
    cases isHandler
    exact same ▸ isOwner
  · exact apart.handlers other found isHandler

/-! ### Numbers that are given out -/

theorem giveNext (apart : deployment.KeepsApart owner) (node : NodeAddress) :
    ({ deployment with nextNumber := deployment.nextNumber + 1 } : Deployment).KeepsApart
      (Function.update owner deployment.nextNumber (some node)) := by
  have kept : ∀ number other, owner number = some other →
      Function.update owner deployment.nextNumber (some node) number = some other := by
    intro number other isOwner
    rw [Function.update_of_ne (Nat.ne_of_lt (apart.given number other isOwner))]
    exact isOwner
  refine ⟨?_, ?_, ?_, ?_⟩
  · intro number other isOwner
    by_cases isNext : number = deployment.nextNumber
    · exact isNext ▸ Nat.lt_succ_self _
    · rw [Function.update_of_ne isNext] at isOwner
      exact Nat.lt_succ_of_lt (apart.given number other isOwner)
  · exact fun id service present => kept id _ (apart.services id service present)
  · exact fun other number isHandler => kept _ _ (apart.handlers other number isHandler)
  · intro other state isNode
    have own := apart.nodes other state isNode
    refine ⟨fun registry isRegistry => kept _ _ (own.registry registry isRegistry), ?_,
      own.employed.mono fun worker _ covers => ⟨kept worker.agent other covers.1, covers.2⟩⟩
    intro registry indexName id isRegistry listed
    obtain ⟨isOwner, named⟩ := own.registered registry indexName id isRegistry listed
    exact ⟨kept id other isOwner, named⟩

/-- A service of a node enters under the next number, which nobody uses yet. -/
theorem addService (apart : deployment.KeepsApart owner) (service : Service) :
    ({ deployment with
        services := deployment.services.set deployment.nextNumber service
        nextNumber := deployment.nextNumber + 1 } : Deployment).KeepsApart
      (Function.update owner deployment.nextNumber (some service.node)) := by
  have given := apart.giveNext service.node
  refine ⟨given.given, ?_, given.handlers, ?_⟩
  · intro id found present
    by_cases same : id = deployment.nextNumber
    · rw [same, Table.get?_set_self] at present
      cases present
      rw [same, Function.update_self]
    · rw [Table.get?_set_of_ne _ same] at present
      exact given.services id found present
  · intro node state isNode
    have own := given.nodes node state isNode
    refine ⟨own.registry, fun registry indexName id isRegistry listed => ?_, own.employed⟩
    obtain ⟨isOwner, named⟩ := own.registered registry indexName id isRegistry listed
    refine ⟨isOwner, fun found present => ?_⟩
    have wasOwner :=
      ((apart.nodes node state isNode).registered registry indexName id isRegistry listed).1
    have older : id ≠ deployment.nextNumber := Nat.ne_of_lt (apart.given id node wasOwner)
    rw [Table.get?_set_of_ne _ older] at present
    exact named found present

theorem setNewNode (apart : deployment.KeepsApart owner) (node : NodeAddress) (poolSize : Nat)
    (directories : Table String IndexDirectory) :
    ({ deployment with
        nodes := deployment.nodes.set node
          { newNode deployment.nextNumber poolSize with directories := directories }
        cluster := deployment.cluster.attach node deployment.nextNumber
        nextNumber := deployment.nextNumber + 1 } : Deployment).KeepsApart
      (Function.update owner deployment.nextNumber (some node)) := by
  have isOwner : Function.update owner deployment.nextNumber (some node) deployment.nextNumber =
      some node := Function.update_self ..
  refine ((apart.giveNext node).setNode ⟨?_, ?_, ?_⟩).attach isOwner
  · intro registry isRegistry
    cases isRegistry
    exact isOwner
  · intro registry indexName id isRegistry listed
    cases isRegistry
    cases listed
  · exact Scheduling.Pool.employs_start _ poolSize

end KeepsApart

/-! ### What belongs to a node -/

/-- What belongs to a node: its state and its services. -/
structure NodeView where
  state : Option NodeState
  services : ServiceId → Option Service

def viewOf (deployment : Deployment) (node : NodeAddress) : NodeView where
  state := deployment.nodes.get? node
  services id := (deployment.services.get? id).filter fun service => service.node == node

/-- What is found in the place of an index of the node. -/
def NodeView.directoryAt (view : NodeView) (indexName : String) : IndexDirectory :=
  directoryIn view.state indexName

section Views

variable {deployment other : Deployment} {node : NodeAddress} {id : ServiceId}
  {service : Service} {owner : Nat → Option NodeAddress}

theorem services_viewOf (present : deployment.services.get? id = some service) :
    (deployment.viewOf service.node).services id = some service := by
  simp [viewOf, present]

/-- A number of the node leads to a service of the node or to none. -/
theorem KeepsApart.services_viewOf (apart : deployment.KeepsApart owner)
    (isOwner : owner id = some node) :
    (deployment.viewOf node).services id = deployment.services.get? id := by
  cases present : deployment.services.get? id with
  | none => simp [viewOf, present]
  | some service =>
      have sameNode := apart.services id service present
      rw [isOwner] at sameNode
      cases sameNode
      exact Deployment.services_viewOf present

theorem viewOf_changeService {change : Service → Service}
    (keeps : ∀ service, (change service).node = service.node) (deployment : Deployment)
    (id : ServiceId) (node : NodeAddress) :
    (deployment.changeService id change).viewOf node =
      { deployment.viewOf node with
        services := fun other =>
          if other = id then ((deployment.viewOf node).services id).map change
          else (deployment.viewOf node).services other } := by
  simp only [viewOf, changeService, NodeView.mk.injEq, true_and]
  funext other
  rw [Table.get?_modify]
  split
  · cases deployment.services.get? id with
    | none => rfl
    | some service =>
        by_cases own : service.node = node <;> simp [Option.filter, keeps, own]
  · rfl

theorem viewOf_changeNode (deployment : Deployment) (changed node : NodeAddress)
    (change : NodeState → NodeState) :
    (deployment.changeNode changed change).viewOf node =
      { deployment.viewOf node with
        state := if node = changed then (deployment.nodes.get? changed).map change
          else deployment.nodes.get? node } := by
  simp only [viewOf, changeNode, NodeView.mk.injEq, and_true]
  rw [Table.get?_modify]

theorem viewOf_changeNode_of_ne (deployment : Deployment) {changed node : NodeAddress}
    (different : node ≠ changed) (change : NodeState → NodeState) :
    (deployment.changeNode changed change).viewOf node = deployment.viewOf node := by
  rw [viewOf_changeNode, if_neg different]
  rfl

theorem viewOf_setLocalIndex_of_ne (present : deployment.services.get? id = some service)
    (different : node ≠ service.node) (index : LocalIndex) :
    (deployment.setLocalIndex id service index).viewOf node = deployment.viewOf node := by
  have notOwn : (deployment.viewOf node).services id = none := by
    simp [viewOf, present, Option.filter, Ne.symm different]
  have noRow : (((deployment.setDirectory service.node service.index.name
      index.directory).viewOf node).services id) = none := notOwn
  rw [setLocalIndex, viewOf_changeService (by intro service; rfl), noRow, setDirectory,
    viewOf_changeNode_of_ne deployment different]
  have sameServices : (fun other => if other = id then Option.map (fun present : Service =>
      { present with snapshot := index.snapshot, hasCommitted := index.hasCommitted }) none
      else (deployment.viewOf node).services other) = (deployment.viewOf node).services := by
    funext other
    split
    · rename_i same
      rw [same, notOwn]
      rfl
    · rfl
  rw [sameServices]

/-- What a change of a local index makes of what belongs to a node depends on that only. -/
theorem viewOf_setLocalIndex_congr (same : other.viewOf node = deployment.viewOf node)
    (id : ServiceId) (service : Service) (index : LocalIndex) :
    (other.setLocalIndex id service index).viewOf node =
      (deployment.setLocalIndex id service index).viewOf node := by
  have sameStates : ∀ changed : NodeAddress, node = changed →
      other.nodes.get? changed = deployment.nodes.get? changed := by
    rintro _ rfl
    exact congrArg NodeView.state same
  have sameState : (other.setDirectory service.node service.index.name index.directory).viewOf
      node = (deployment.setDirectory service.node service.index.name index.directory).viewOf
        node := by
    rw [setDirectory, setDirectory, viewOf_changeNode, viewOf_changeNode, same]
    split
    · rename_i isNode
      rw [sameStates service.node isNode]
    · rw [show other.nodes.get? node = deployment.nodes.get? node from congrArg NodeView.state same]
  rw [setLocalIndex, setLocalIndex, viewOf_changeService (by intro service; rfl),
    viewOf_changeService (by intro service; rfl), sameState]

theorem viewOf_setLocalIndex (present : deployment.services.get? id = some service)
    {state : NodeState} (isNode : deployment.nodes.get? service.node = some state)
    (index : LocalIndex) :
    (deployment.setLocalIndex id service index).viewOf service.node =
      { state := some
          { state with
            directories := state.directories.set service.index.name index.directory }
        services := fun other =>
          if other = id then
            some { service with snapshot := index.snapshot, hasCommitted := index.hasCommitted }
          else (deployment.viewOf service.node).services other } := by
  have sameServices : ((deployment.setDirectory service.node service.index.name
      index.directory).viewOf service.node).services =
        (deployment.viewOf service.node).services := rfl
  rw [setLocalIndex, viewOf_changeService (by intro service; rfl), sameServices,
    services_viewOf present, setDirectory, viewOf_changeNode, if_pos rfl, isNode]
  rfl

theorem exists_pool_of_setLocalIndex {index : LocalIndex} {state : NodeState}
    (isNode : (deployment.setLocalIndex id service index).nodes.get? node = some state) :
    ∃ earlier, deployment.nodes.get? node = some earlier ∧ earlier.pool = state.pool := by
  have modified : (deployment.nodes.modify service.node fun state =>
      { state with
        directories := state.directories.set service.index.name index.directory }).get? node =
          some state := isNode
  rw [Table.get?_modify] at modified
  split at modified
  · rename_i same
    obtain ⟨earlier, wasNode, rfl⟩ := Option.map_eq_some_iff.1 modified
    exact ⟨earlier, same ▸ wasNode, rfl⟩
  · exact ⟨state, modified, rfl⟩

theorem directoryAt_viewOf (deployment : Deployment) (node : NodeAddress) (indexName : String) :
    (deployment.viewOf node).directoryAt indexName = deployment.directoryAt node indexName := rfl

theorem directoryIn_set (state : NodeState) (changed indexName : String)
    (directory : IndexDirectory) :
    directoryIn (some { state with directories := state.directories.set changed directory })
        indexName =
      if indexName = changed then directory else directoryIn (some state) indexName := by
  split
  · rename_i same
    simp [directoryIn, same, Table.get?_set_self]
  · rename_i different
    simp [directoryIn, Table.get?_set_of_ne _ different]

theorem directoryAt_setLocalIndex {state : NodeState}
    (present : deployment.services.get? id = some service)
    (isNode : deployment.nodes.get? service.node = some state) (index : LocalIndex)
    (indexName : String) :
    ((deployment.setLocalIndex id service index).viewOf service.node).directoryAt indexName =
      if indexName = service.index.name then index.directory
      else (deployment.viewOf service.node).directoryAt indexName := by
  rw [viewOf_setLocalIndex present isNode, NodeView.directoryAt, directoryIn_set,
    NodeView.directoryAt, viewOf, isNode]

end Views

/-! ### What a node does on its own -/

/-- What has happened stays within a node: nothing that the nodes share has changed, and
nothing that belongs to another node. -/
structure StaysWithin (owner : Nat → Option NodeAddress) (node : NodeAddress)
    (before after : Deployment) : Prop where
  apart : after.KeepsApart owner
  stores : after.stores = before.stores
  cluster : after.cluster = before.cluster
  others : ∀ other, other ≠ node → after.viewOf other = before.viewOf other

variable {owner : Nat → Option NodeAddress} {node : NodeAddress}
  {before deployment : Deployment} {id : ServiceId} {service : Service}

theorem KeepsApart.within (apart : deployment.KeepsApart owner) (node : NodeAddress) :
    StaysWithin owner node deployment deployment :=
  ⟨apart, rfl, rfl, fun _ _ => rfl⟩

namespace StaysWithin

theorem measure (within : StaysWithin owner node before deployment) (indexName : String)
    (change : IndexMetrics → IndexMetrics) :
    StaysWithin owner node before (deployment.measure indexName change) :=
  ⟨within.apart.measure indexName change, within.stores, within.cluster, within.others⟩

theorem setLocalIndex (within : StaysWithin owner node before deployment)
    (present : deployment.services.get? id = some service) (own : service.node = node)
    (index : LocalIndex) :
    StaysWithin owner node before (deployment.setLocalIndex id service index) where
  apart := within.apart.setLocalIndex id service index
  stores := within.stores
  cluster := within.cluster
  others := fun other different =>
    (viewOf_setLocalIndex_of_ne present (own ▸ different) index).trans
      (within.others other different)

open Scheduling in
theorem setPool (within : StaysWithin owner node before deployment)
    {pool : Timeline ServiceId Unit} (employs : pool.pool.Employs (ownScope owner node)) :
    StaysWithin owner node before
      (deployment.changeNode node fun state => { state with pool := pool }) where
  apart := within.apart.changeNode fun _ own => own.sameRegistry rfl employs
  stores := within.stores
  cluster := within.cluster
  others := fun other different =>
    (viewOf_changeNode_of_ne deployment different _).trans (within.others other different)

open Scheduling in
/-- What happens on the pool of a node stays within it if what the pool does to the world
does. -/
theorem onPool (apart : deployment.KeepsApart owner)
    {act : Timeline ServiceId Deployment → Timeline ServiceId Deployment}
    (acts : ∀ line : Timeline ServiceId Deployment, StaysWithin owner node deployment line.world →
      line.pool.Employs (ownScope owner node) →
        StaysWithin owner node deployment (act line).world ∧
          (act line).pool.Employs (ownScope owner node)) :
    StaysWithin owner node deployment (deployment.onPool node act) := by
  unfold Deployment.onPool
  split
  · exact apart.within node
  · rename_i state isNode
    obtain ⟨within, employs⟩ := acts { state.pool with world := deployment }
      (apart.within node) (apart.nodes node state isNode).employed
    exact within.setPool employs

end StaysWithin

section Pools

open Scheduling

def batchOf (deployment : Deployment) (service : Service) (works : List Work) : IndexingBatch :=
  (IndexingBatch.start (deployment.localIndexOf service)
    (deployment.metricsOf service.index.name).tally works).run service.index
      (deployment.sourceFor service)
      (IndexingBatch.stepBound works.length (deployment.storeOf service.typeName).store.size)

/-- How the pool sees the end of a batch. -/
def outcomeOf (batch : IndexingBatch) : BatchOutcome :=
  match batch.phase with
  | .ended (.ok ()) => .success
  | _ => .failure

theorem runBatch_eq (deployment : Deployment) (id : ServiceId) (service : Service)
    (works : List Work) : deployment.runBatch id service works =
      ((deployment.setLocalIndex id service (deployment.batchOf service works).index).measure
        service.index.name ({ · with tally := (deployment.batchOf service works).tally }),
        outcomeOf (deployment.batchOf service works)) := by
  generalize isBatch : deployment.batchOf service works = batch
  unfold batchOf at isBatch
  simp only [runBatch, isBatch, outcomeOf]
  obtain ⟨index, tally, scans, phase⟩ := batch
  cases phase with
  | ended outcome => cases outcome <;> rfl
  | _ => rfl

/-- The batches of the services of a node stay within the node. -/
theorem keepsFor_batchBehavior (owner : Nat → Option NodeAddress) (node : NodeAddress)
    (before : Deployment) :
    batchBehavior.KeepsFor (ownScope owner node) (StaysWithin owner node before) where
  start := fun _ _ _ _ within => within
  finish := by
    intro deployment now batch slept covers within
    simp only [batchBehavior]
    apply StaysWithin.measure
    cases present : deployment.services.get? batch.worker.agent with
    | none => exact within
    | some service =>
        have own : some service.node = some node :=
          (within.apart.services _ service present).symm.trans covers.1
        simp only [runBatch_eq]
        exact (within.setLocalIndex present (Option.some.inj own) _).measure _ _
  hires := fun _ _ _ _ => rfl
  refused := fun _ _ within => within

theorem KeepsApart.submit (apart : deployment.KeepsApart owner)
    (isOwner : owner id = some service.node) (work : Work) :
    StaysWithin owner service.node deployment (deployment.submit id service work) := by
  refine StaysWithin.onPool apart fun line within employs => ?_
  have may : (ownScope owner service.node).Covers (workerOf id service) [work] :=
    ⟨isOwner, fun _ _ => trivial⟩
  split
  · rename_i next taken
    rw [Timeline.world_submit taken]
    exact ⟨within, Timeline.employs_submit employs may taken⟩
  · exact ⟨within, employs⟩

theorem KeepsApart.settleNode (apart : deployment.KeepsApart owner) (node : NodeAddress) :
    StaysWithin owner node deployment (deployment.settleNode node) :=
  StaysWithin.onPool apart fun _ within employs =>
    (keepsFor_batchBehavior owner node deployment).settle employs within _

theorem KeepsApart.settleNodes (apart : deployment.KeepsApart owner) (nodes : List NodeAddress) :
    (nodes.foldl Deployment.settleNode deployment).KeepsApart owner :=
  List.foldlRecOn nodes Deployment.settleNode
    (motive := fun deployment => deployment.KeepsApart owner) apart
    fun _ kept node _ => (kept.settleNode node).apart

theorem KeepsApart.settle (apart : deployment.KeepsApart owner) :
    deployment.settle.KeepsApart owner :=
  apart.settleNodes _

theorem KeepsApart.shutDown (apart : deployment.KeepsApart owner) (node : NodeAddress) :
    (deployment.shutDown node).KeepsApart owner := by
  unfold Deployment.shutDown
  split
  · exact apart
  · have settled := apart.settleNodes (deployment.nodes.keys.filter (· != node))
    exact (StaysWithin.onPool settled fun _ within employs =>
      (keepsFor_batchBehavior owner node _).shutDown employs within _).apart

end Pools

end Deployment

end EntitySearch
