import EntitySearch.Proofs.BroadcastPassages
import EntitySearch.Proofs.SeparateNodes

/-!
# Deployments that are reached

A delivery finds the registry of the node that it goes to, and a service of this
node, so that it stays within the node.  A broadcast is made of such deliveries
and of batches.  The nodes of a deployment keep apart whatever happens to it, as
long as no member is given the handler of another one.
-/

namespace EntitySearch

theorem Table.mem_keys_iff {Key Value : Type} [LT Key] [DecidableEq Key] (table : Table Key Value)
    {key : Key} : key ∈ table.keys ↔ (table.get? key).isSome := by
  simp [keys, get?, List.find?_isSome]

namespace Deployment

variable {deployment : Deployment} {owner : Nat → Option NodeAddress} {node : NodeAddress}
  {handler : Option Nat} {task : ClusterTask} {id : ServiceId} {service : Service}

/-! ### Deliveries -/

/-- A number of the node leads to the registry of the node or to none. -/
theorem KeepsApart.registryAt?_eq (apart : deployment.KeepsApart owner) {number : Nat}
    (isOwner : owner number = some node) :
    deployment.registryAt? number =
      ((deployment.nodes.get? node).bind (·.registry)).filter (·.number == number) := by
  cases found : deployment.registryAt? number with
  | some registry =>
      obtain ⟨state, inside, filtered⟩ := List.exists_of_findSome?_eq_some found
      obtain ⟨isRegistry, sameNumber⟩ := Option.filter_eq_some_iff.1 filtered
      obtain ⟨other, isState⟩ := (Table.mem_values_iff _).1 inside
      -- A number belongs to one node only, so the registry that is found is the node's.
      have isOwnerToo := (apart.nodes other state isState).registry registry isRegistry
      rw [beq_iff_eq.1 sameNumber, isOwner] at isOwnerToo
      cases isOwnerToo
      rw [isState]
      exact filtered.symm
  | none =>
      cases isState : deployment.nodes.get? node with
      | none => rfl
      | some state =>
          have notFound := List.findSome?_eq_none_iff.1 found state
            ((Table.mem_values_iff _).2 ⟨node, isState⟩)
          exact notFound.symm

/-- The registry of a node behind the handler to which a task was sent. -/
def NodeView.registryFor? (view : NodeView) (handler : Option Nat) : Option Registry :=
  handler.bind fun number => (view.state.bind (·.registry)).filter (·.number == number)

/-- The service of a node under an index name of a registry. -/
def NodeView.serviceIn? (view : NodeView) (registry : Registry) (indexName : String) :
    Option (ServiceId × Service) :=
  (registry.services.get? indexName).bind fun id => (view.services id).map (id, ·)

theorem KeepsApart.registryFor?_eq (apart : deployment.KeepsApart owner)
    (own : ∀ number, handler = some number → owner number = some node) :
    handler.bind deployment.registryAt? = (deployment.viewOf node).registryFor? handler := by
  cases handler with
  | none => rfl
  | some number => exact apart.registryAt?_eq (own number rfl)

/-- What a registry of the node lists goes by numbers of the node. -/
theorem KeepsApart.of_registryFor? (apart : deployment.KeepsApart owner) {registry : Registry}
    (heard : (deployment.viewOf node).registryFor? handler = some registry) {indexName : String}
    (listed : registry.services.get? indexName = some id) :
    owner id = some node ∧ ∀ service, deployment.services.get? id = some service →
      service.index.name = indexName := by
  obtain ⟨_, _, filtered⟩ := Option.bind_eq_some_iff.1 heard
  obtain ⟨found, _⟩ := Option.filter_eq_some_iff.1 filtered
  obtain ⟨state, isState, isRegistry⟩ := Option.bind_eq_some_iff.1 found
  exact (apart.nodes node state isState).registered registry indexName id isRegistry listed

theorem KeepsApart.serviceIn?_eq (apart : deployment.KeepsApart owner) {registry : Registry}
    (heard : (deployment.viewOf node).registryFor? handler = some registry) (indexName : String) :
    ((registry.services.get? indexName).bind fun id =>
        (deployment.services.get? id).map (id, ·)) =
      (deployment.viewOf node).serviceIn? registry indexName := by
  unfold NodeView.serviceIn?
  cases listed : registry.services.get? indexName with
  | none => rfl
  | some id =>
      rw [Option.bind_some, Option.bind_some,
        apart.services_viewOf (apart.of_registryFor? heard listed).1]

theorem KeepsApart.of_serviceIn? (apart : deployment.KeepsApart owner) {registry : Registry}
    {indexName : String} (heard : (deployment.viewOf node).registryFor? handler = some registry)
    (listed : (deployment.viewOf node).serviceIn? registry indexName = some (id, service)) :
    deployment.services.get? id = some service ∧ service.node = node ∧
      service.index.name = indexName := by
  obtain ⟨found, isListed, served⟩ := Option.bind_eq_some_iff.1 listed
  obtain ⟨_, isService, same⟩ := Option.map_eq_some_iff.1 served
  cases same
  obtain ⟨isOwner, named⟩ := apart.of_registryFor? heard isListed
  rw [apart.services_viewOf isOwner] at isService
  have isOwnerToo := apart.services id service isService
  rw [isOwner] at isOwnerToo
  exact ⟨isService, (Option.some.inj isOwnerToo).symm, named service isService⟩

theorem KeepsApart.deliver_eq (apart : deployment.KeepsApart owner)
    (own : ∀ number, handler = some number → owner number = some node) :
    Cluster.deliver taskRunner deployment node handler task =
      match (deployment.viewOf node).registryFor? handler with
      | none => (deployment, .error (.unreachable (node ++ " has no handler")))
      | some registry =>
          match (deployment.viewOf node).serviceIn? registry task.index with
          | none => (deployment, .error (.unknownIndex task.index))
          | some (id, service) =>
              let answered := service.index.answer (deployment.localIndexOf service) task
              (deployment.setLocalIndex id service answered.1,
                answered.2.mapError SearchFailure.toNode >>= Cluster.receive) := by
  rw [Deployment.deliver_eq, apart.registryFor?_eq own]
  cases heard : (deployment.viewOf node).registryFor? handler with
  | none => rfl
  | some registry =>
      simp only [answerTask, apart.serviceIn?_eq heard task.index]
      cases (deployment.viewOf node).serviceIn? registry task.index with
      | none => rfl
      | some found => rfl

/-! ### Broadcasts -/

variable {cluster : Cluster Nat} {timeout : Nat}

/-- The pool of the node, if there is one, has nothing to do. -/
def NodeView.IsIdle (view : NodeView) : Prop :=
  ∀ state, view.state = some state → state.pool.pool.isIdle = true

/-- The handlers of the members are numbers of their own. -/
def OwnHandlers (owner : Nat → Option NodeAddress) (cluster : Cluster Nat) : Prop :=
  ∀ node number, handlerOf cluster node = some number → owner number = some node

theorem OwnHandlers.of_send (handlers : OwnHandlers owner cluster) {delay : Option Nat}
    (sent : cluster.send node = .underway handler delay) :
    ∀ number, handler = some number → owner number = some node := by
  rintro number rfl
  exact handlers node number (handlerOf_of_send sent)

/-- A passage leaves the world as it is, or a service of the node answers the task. -/
theorem KeepsApart.world_passage (apart : deployment.KeepsApart owner)
    (handlers : OwnHandlers owner cluster) (task : ClusterTask) (timeout : Nat)
    (node : NodeAddress) :
    (cluster.passage taskRunner task timeout deployment node).1 = deployment ∨
      ∃ id service, deployment.services.get? id = some service ∧ service.node = node ∧
        (cluster.passage taskRunner task timeout deployment node).1 =
          deployment.setLocalIndex id service
            (service.index.answer (deployment.localIndexOf service) task).1 := by
  rcases Cluster.passage_cases taskRunner cluster task timeout deployment node with
    ⟨handler, delay, sent, passed⟩ | ⟨failure, passed⟩
  · rw [passed, apart.deliver_eq (handlers.of_send sent)]
    cases heard : (deployment.viewOf node).registryFor? handler with
    | none => exact Or.inl rfl
    | some registry =>
        cases listed : (deployment.viewOf node).serviceIn? registry task.index with
        | none => exact Or.inl (by simp only [listed])
        | some found =>
            obtain ⟨id, service⟩ := found
            obtain ⟨present, own, _⟩ := apart.of_serviceIn? heard listed
            exact Or.inr ⟨id, service, present, own, by simp only [listed]⟩
  · rw [passed]
    exact Or.inl rfl

theorem KeepsApart.passage (apart : deployment.KeepsApart owner)
    (handlers : OwnHandlers owner cluster) (task : ClusterTask) (timeout : Nat)
    (node : NodeAddress) :
    StaysWithin owner node deployment
      (cluster.passage taskRunner task timeout deployment node).1 := by
  rcases apart.world_passage handlers task timeout node with
    same | ⟨id, service, present, own, answered⟩
  · rw [same]
    exact apart.within node
  · rw [answered]
    exact (apart.within node).setLocalIndex present own _

theorem KeepsApart.isDescribed_passage (apart : deployment.KeepsApart owner)
    (described : deployment.IsDescribed) (handlers : OwnHandlers owner cluster)
    (task : ClusterTask) (timeout : Nat) (node : NodeAddress) :
    (cluster.passage taskRunner task timeout deployment node).1.IsDescribed := by
  rcases apart.world_passage handlers task timeout node with
    same | ⟨id, service, present, _, answered⟩
  · rw [same]
    exact described
  · rw [answered]
    exact described.setLocalIndex id service
      (service.index.isDescribed_answer (described.localIndexOf present) task)

theorem KeepsApart.isIdle_passage (apart : deployment.KeepsApart owner)
    (handlers : OwnHandlers owner cluster) (task : ClusterTask) (timeout : Nat)
    (passed : NodeAddress) (idle : (deployment.viewOf node).IsIdle) :
    ((cluster.passage taskRunner task timeout deployment passed).1.viewOf node).IsIdle := by
  rcases apart.world_passage handlers task timeout passed with
    same | ⟨id, service, _, _, answered⟩
  · rw [same]
    exact idle
  · rw [answered]
    intro state isState
    obtain ⟨earlier, isNode, samePool⟩ := exists_pool_of_setLocalIndex isState
    exact samePool ▸ idle earlier isNode

/-- The world as a broadcast finds it: the nodes keep apart, and what they share is as before. -/
structure IsAround (owner : Nat → Option NodeAddress) (before world : Deployment) : Prop where
  apart : world.KeepsApart owner
  stores : world.stores = before.stores
  cluster : world.cluster = before.cluster

/-- Passages keep what the nodes share, and leave alone what belongs to other nodes. -/
theorem keepsOthers_passage (handlers : OwnHandlers owner cluster) (before : Deployment)
    (task : ClusterTask) (timeout : Nat) :
    KeepsOthers (fun world node => (cluster.passage taskRunner task timeout world node).1)
      (IsAround owner before) viewOf where
  keeps := by
    intro world node around
    have within := around.apart.passage handlers task timeout node
    exact ⟨within.apart, within.stores.trans around.stores, within.cluster.trans around.cluster⟩
  others := by
    intro world node other around different
    exact (around.apart.passage handlers task timeout node).others other different

theorem IsAround.settleNode {before : Deployment} (around : IsAround owner before deployment)
    (node : NodeAddress) : IsAround owner before (deployment.settleNode node) := by
  have within := around.apart.settleNode node
  exact ⟨within.apart, within.stores.trans around.stores, within.cluster.trans around.cluster⟩

theorem IsAround.settle {before : Deployment} (around : IsAround owner before deployment) :
    IsAround owner before deployment.settle :=
  List.foldlRecOn deployment.nodes.keys Deployment.settleNode around
    fun _ kept node _ => kept.settleNode node

theorem IsAround.paused {before : Deployment} (around : IsAround owner before deployment)
    (cluster : Cluster Nat) :
    IsAround owner before (cluster.paused Deployment.settle deployment) := by
  unfold Cluster.paused
  split
  · exact around
  · exact around.settle

theorem IsAround.promptRound {before : Deployment} (around : IsAround owner before deployment)
    (handlers : OwnHandlers owner cluster) (task : ClusterTask) (timeout : Nat) :
    IsAround owner before (cluster.promptRound taskRunner task timeout deployment).1 :=
  Cluster.good_round (keepsOthers_passage handlers before task timeout) _
    (deployment, Gathered.empty) around

/-- A broadcast leaves the nodes apart, and leaves what they share. -/
theorem IsAround.broadcast {before : Deployment} (around : IsAround owner before deployment)
    (handlers : OwnHandlers owner cluster) (task : ClusterTask) (timeout : Nat) :
    IsAround owner before
      (cluster.broadcast taskRunner Deployment.settle deployment task timeout).1 := by
  rw [Cluster.broadcast_eq]
  exact Cluster.good_round (keepsOthers_passage handlers before task timeout) _ (_, _)
    ((around.promptRound handlers task timeout).paused cluster)

theorem KeepsApart.around (apart : deployment.KeepsApart owner) :
    IsAround owner deployment deployment :=
  ⟨apart, rfl, rfl⟩

def gathers (deployment : Deployment) (task : ClusterTask) (timeout : Nat) : Gathered :=
  (deployment.cluster.broadcast taskRunner Deployment.settle deployment task timeout).2

theorem KeepsApart.pausedAround (apart : deployment.KeepsApart owner) (task : ClusterTask)
    (timeout : Nat) : IsAround owner deployment (deployment.cluster.paused Deployment.settle
      (deployment.cluster.promptRound taskRunner task timeout deployment).1) :=
  (apart.around.promptRound apart.handlers task timeout).paused deployment.cluster

theorem KeepsApart.broadcast (apart : deployment.KeepsApart owner) (service : Service)
    (task : ClusterTask) : (deployment.broadcast service task).1.KeepsApart owner :=
  (apart.around.broadcast apart.handlers task _).apart.measure _ _

/-! ### Settling -/

theorem keepsOthers_settleNode (owner : Nat → Option NodeAddress) (before : Deployment) :
    KeepsOthers Deployment.settleNode (IsAround owner before) viewOf where
  keeps _ node around := around.settleNode node
  others _ node other around different :=
    (around.apart.settleNode node).others other different

theorem settleNode_of_no_node
    (isNone : deployment.nodes.get? node = none) : deployment.settleNode node = deployment := by
  simp only [Deployment.settleNode, onPool, isNone]

/-- When all pools settle, a node does what it does on its own. -/
theorem IsAround.viewOf_settle {before : Deployment}
    (around : IsAround owner before deployment) (node : NodeAddress) :
    ∃ reached, IsAround owner before reached ∧ reached.viewOf node = deployment.viewOf node ∧
      deployment.settle.viewOf node = (reached.settleNode node).viewOf node := by
  have visits := keepsOthers_settleNode owner before
  by_cases inside : node ∈ deployment.nodes.keys
  · exact visits.foldl_of_mem around deployment.nodes.nodup_keys inside
  · have unseen : deployment.settle.viewOf node = deployment.viewOf node :=
      visits.foldl_of_not_mem around inside
    have isNone : deployment.nodes.get? node = none := by
      rw [Table.mem_keys_iff, Option.not_isSome_iff_eq_none] at inside
      exact inside
    have isNoneToo : deployment.settle.nodes.get? node = none :=
      (congrArg NodeView.state unseen).trans isNone
    refine ⟨deployment.settle, around.settle, unseen, ?_⟩
    rw [settleNode_of_no_node isNoneToo]

open Scheduling in
theorem onPool_of_node {state : NodeState}
    (isNode : deployment.nodes.get? node = some state)
    (act : Timeline ServiceId Deployment → Timeline ServiceId Deployment) :
    deployment.onPool node act =
      let line := act { state.pool with world := deployment }
      line.world.changeNode node fun state => { state with pool := { line with world := () } } := by
  simp only [onPool, isNode]

theorem viewOf_settleNode_of_idle (idle : (deployment.viewOf node).IsIdle) :
    (deployment.settleNode node).viewOf node = deployment.viewOf node := by
  cases isNode : deployment.nodes.get? node with
  | none => rw [settleNode_of_no_node isNode]
  | some state =>
      have unmoved : Scheduling.Timeline.settle batchBehavior
          (poolAllowance { state.pool with world := deployment })
          { state.pool with world := deployment } = { state.pool with world := deployment } :=
        if_pos (idle state isNode)
      rw [Deployment.settleNode, onPool_of_node isNode, unmoved, viewOf_changeNode, isNode]
      simp only [viewOf, isNode, if_true, Option.map_some]

/-- A node whose pool is idle stays as it is while the other pools settle. -/
theorem IsAround.viewOf_settle_of_idle {before : Deployment}
    (around : IsAround owner before deployment) (idle : (deployment.viewOf node).IsIdle) :
    deployment.settle.viewOf node = deployment.viewOf node := by
  obtain ⟨reached, _, same, settled⟩ := around.viewOf_settle node
  rw [settled, viewOf_settleNode_of_idle (same ▸ idle), same]

/-! ### Operations -/

theorem KeepsApart.onLocalIndex {Outcome : Type} (apart : deployment.KeepsApart owner)
    (id : ServiceId) (service : Service) (act : LocalIndex → LocalIndex × Outcome) :
    (deployment.onLocalIndex id service act).1.KeepsApart owner :=
  apart.setLocalIndex id service _

theorem KeepsApart.answerTask (apart : deployment.KeepsApart owner) (registry : Registry)
    (task : ClusterTask) : (deployment.answerTask registry task).1.KeepsApart owner := by
  unfold Deployment.answerTask
  split
  · exact apart
  · rename_i id service _
    exact apart.onLocalIndex id service (service.index.answer · task)

theorem KeepsApart.startService (apart : deployment.KeepsApart owner)
    (isOwner : owner id = some service.node) :
    (deployment.startService id service).1.KeepsApart owner := by
  have started := apart.onLocalIndex id service (LocalIndex.start service.index.spec)
  unfold Deployment.startService
  generalize deployment.onLocalIndex id service (LocalIndex.start service.index.spec) = result
    at *
  obtain ⟨after, _ | _⟩ := result
  · exact started
  · exact (started.submit isOwner .scan).apart

theorem KeepsApart.deleteEntities (apart : deployment.KeepsApart owner) (id : ServiceId)
    (service : Service) (ids : List EntityId) :
    (deployment.deleteEntities id service ids).1.KeepsApart owner := by
  have deleted := apart.onLocalIndex id service (service.index.deleteEntities · ids)
  unfold Deployment.deleteEntities
  generalize deployment.onLocalIndex id service (service.index.deleteEntities · ids) = result
    at *
  obtain ⟨after, _ | _⟩ := result
  · exact deleted
  · simp only
    apply KeepsApart.measure
    exact deleted

theorem KeepsApart.requestIndex (apart : deployment.KeepsApart owner)
    (isOwner : owner id = some service.node) (ids : List EntityId) :
    (deployment.requestIndex id service ids).KeepsApart owner :=
  List.foldlRecOn ids _ (motive := fun deployment : Deployment => deployment.KeepsApart owner)
    apart fun _ kept entity _ => (kept.submit isOwner (.entity entity)).apart

theorem KeepsApart.count (apart : deployment.KeepsApart owner) (service : Service)
    (query : String) : (deployment.count service query).1.KeepsApart owner := by
  unfold Deployment.count
  split
  · exact apart
  · simp only
    apply KeepsApart.measure
    exact apart.broadcast service _

theorem KeepsApart.rankedPage (apart : deployment.KeepsApart owner) (service : Service)
    (query : String) (offset limit : UInt64) :
    (deployment.rankedPage service query offset limit).1.KeepsApart owner := by
  unfold Deployment.rankedPage
  split
  · exact apart
  · simp only
    apply KeepsApart.measure
    exact apart.broadcast service _

theorem KeepsApart.search (apart : deployment.KeepsApart owner) (service : Service)
    (query : String) (offset limit : UInt64) :
    (deployment.search service query offset limit).1.KeepsApart owner := by
  unfold Deployment.search
  split
  · exact apart
  · exact apart.rankedPage service query offset limit

/-- Whatever a service does, no number changes hands. -/
theorem KeepsApart.work (apart : deployment.KeepsApart owner)
    (isOwner : owner id = some service.node) (operation : ServiceOperation) :
    (deployment.work id service operation).KeepsApart owner := by
  cases operation with
  | start => exact apart.startService isOwner
  | stop => exact apart.onLocalIndex id service _
  | refresh => exact apart.onLocalIndex id service _
  | damage directory unbuilt => exact apart.onLocalIndex id service _
  | readProgressMark => exact apart.onLocalIndex id service _
  | statistics => exact apart.onLocalIndex id service _
  | transact staged => exact apart.onLocalIndex id service _
  | deleteEntities ids => exact apart.deleteEntities id service ids
  | requestIndex ids => exact apart.requestIndex isOwner ids
  | deleteProject project => exact apart.broadcast service _
  | count query => exact apart.count service query
  | search query offset limit => exact apart.search service query offset limit

theorem KeepsApart.unregister (apart : deployment.KeepsApart owner) (node : NodeAddress)
    (indexName : String) : (deployment.unregister node indexName).KeepsApart owner := by
  refine KeepsApart.forgetLost (apart.changeNode fun state own => own.fewer ?_ own.employed)
  intro registry isRegistry
  obtain ⟨earlier, wasRegistry, rfl⟩ := Option.map_eq_some_iff.1 isRegistry
  refine ⟨earlier, wasRegistry, rfl, fun other id listed => ?_⟩
  by_cases same : other = indexName
  · rw [same, Table.get?_erase_self] at listed
    cases listed
  · rwa [Table.get?_erase_of_ne _ same] at listed

theorem KeepsApart.forget (apart : deployment.KeepsApart owner) (node : NodeAddress)
    (typeName : String) : (deployment.forget node typeName).KeepsApart owner := by
  unfold Deployment.forget
  split
  · exact apart
  · have erased : (deployment.changeNode node fun state =>
        { state with services := state.services.erase typeName }).KeepsApart owner :=
      apart.changeNode fun _ own => own.sameRegistry rfl own.employed
    exact erased.unregister node _

theorem KeepsApart.dropRegistry (apart : deployment.KeepsApart owner) (node : NodeAddress) :
    (deployment.dropRegistry node).KeepsApart owner := by
  refine KeepsApart.forgetLost (apart.changeNode fun state own => own.fewer ?_ own.employed)
  intro registry isRegistry
  cases isRegistry

/-- An installed service gets the next number, and the registry of its node lists it. -/
theorem KeepsApart.install (apart : deployment.KeepsApart owner) (service : Service) :
    (deployment.install service).1.IsSeparate := by
  refine ⟨Function.update owner deployment.nextNumber (some service.node),
    KeepsApart.forgetLost ((apart.addService service).changeNode fun state own => ⟨?_, ?_, ?_⟩)⟩
  · intro registry isRegistry
    obtain ⟨earlier, wasRegistry, rfl⟩ := Option.map_eq_some_iff.1 isRegistry
    exact own.registry earlier wasRegistry
  · intro registry indexName id isRegistry listed
    obtain ⟨earlier, wasRegistry, rfl⟩ := Option.map_eq_some_iff.1 isRegistry
    by_cases same : indexName = service.index.name
    · rw [same, Table.get?_set_self] at listed
      cases listed
      refine ⟨Function.update_self .., fun found present => ?_⟩
      rw [Table.get?_set_self] at present
      cases present
      exact same.symm
    · rw [Table.get?_set_of_ne _ same] at listed
      exact own.registered earlier indexName id wasRegistry listed
  · exact own.employed

theorem KeepsApart.restart (apart : deployment.KeepsApart owner) (node : NodeAddress) :
    (deployment.restart node).IsSeparate := by
  unfold Deployment.restart
  split
  · exact ⟨owner, apart⟩
  · exact ⟨_, (apart.setNewNode node _ _).forgetLost⟩

theorem KeepsApart.join (apart : deployment.KeepsApart owner) (node : NodeAddress)
    (poolSize : Nat) : (deployment.join node poolSize).IsSeparate := by
  unfold Deployment.join
  split
  · rename_i state isNode
    refine ⟨owner, ?_⟩
    split
    · rename_i registry isRegistry
      exact apart.attach ((apart.nodes node state isNode).registry registry isRegistry)
    · refine apart.ofCluster fun other number isHandler => apart.handlers other number ?_
      unfold handlerOf Cluster.join Table.alter at isHandler
      by_cases same : other = node
      · subst same
        rw [Table.get?_set_self] at isHandler
        unfold handlerOf
        cases slot : deployment.cluster.nodes.get? other with
        | none =>
            rw [slot] at isHandler
            cases isHandler
        | some found =>
            rw [slot] at isHandler
            exact isHandler
      · rwa [Table.get?_set_of_ne _ same] at isHandler
  · exact ⟨_, apart.setNewNode node poolSize Table.empty⟩

end Deployment

/-- A change of the cluster gives no member another handler than the one that it had, or its own
registry. -/
def DeploymentOperation.KeepsHandlers (operation : DeploymentOperation) (deployment : Deployment) :
    Prop :=
  match operation with
  | .changeCluster cluster => ∀ node number, Deployment.handlerOf cluster node = some number →
      Deployment.handlerOf deployment.cluster node = some number ∨
        ∃ state registry, deployment.nodes.get? node = some state ∧
          state.registry = some registry ∧ registry.number = number
  | _ => True

namespace Deployment

variable {deployment : Deployment}

theorem IsSeparate.step (separate : deployment.IsSeparate) {operation : DeploymentOperation}
    (keeps : operation.KeepsHandlers deployment) : (deployment.step operation).IsSeparate := by
  obtain ⟨owner, apart⟩ := separate
  cases operation with
  | changeStore typeName change => exact ⟨owner, apart.ofStores _⟩
  | changeCluster cluster =>
      refine ⟨owner, apart.ofCluster fun node number isHandler => ?_⟩
      rcases keeps node number isHandler with before | ⟨state, registry, isNode, isRegistry, rfl⟩
      · exact apart.handlers node number before
      · exact (apart.nodes node state isNode).registry registry isRegistry
  | join node poolSize => exact apart.join node poolSize
  | restart node => exact apart.restart node
  | dropRegistry node => exact ⟨owner, apart.dropRegistry node⟩
  | install index typeName node => exact apart.install _
  | unregister node indexName => exact ⟨owner, apart.unregister node indexName⟩
  | forget node typeName => exact ⟨owner, apart.forget node typeName⟩
  | settle => exact ⟨owner, apart.settle⟩
  | shutDown node => exact ⟨owner, apart.shutDown node⟩
  | answerTask registry task => exact ⟨owner, apart.answerTask registry task⟩
  | work id operation =>
      simp only [Deployment.step]
      split
      · exact ⟨owner, apart⟩
      · rename_i service present
        exact ⟨owner, apart.work (apart.services id service present) operation⟩

/-- The deployment is reached from the one without nodes, and at no time did a member have the
handler of another one. -/
inductive IsReached : Deployment → Prop
  | empty : IsReached empty
  | step {deployment : Deployment} {operation : DeploymentOperation}
      (reached : IsReached deployment) (keeps : operation.KeepsHandlers deployment) :
      IsReached (deployment.step operation)

theorem IsReached.isSeparate (reached : deployment.IsReached) : deployment.IsSeparate := by
  induction reached with
  | empty => exact isSeparate_empty
  | step _ keeps ih => exact ih.step keeps

theorem IsReached.isDescribed (reached : deployment.IsReached) : deployment.IsDescribed := by
  induction reached with
  | empty => exact isDescribed_empty
  | step _ _ ih => exact ih.step _

theorem IsReached.run (reached : deployment.IsReached) {operations : List DeploymentOperation}
    (keep : ∀ operation ∈ operations, ∀ deployment, operation.KeepsHandlers deployment) :
    (deployment.run operations).IsReached := by
  induction operations generalizing deployment with
  | nil => exact reached
  | cons operation operations ih =>
      exact ih (reached.step (keep operation List.mem_cons_self deployment))
        fun other inside => keep other (List.mem_cons_of_mem _ inside)

theorem handlerOf_changeSlot {change : NodeSlot Nat → NodeSlot Nat}
    (keeps : ∀ slot, (change slot).handler = slot.handler) (cluster : Cluster Nat)
    (changed node : NodeAddress) :
    handlerOf { cluster with nodes := cluster.nodes.modify changed change } node =
      handlerOf cluster node := by
  unfold handlerOf
  rw [Table.get?_modify]
  split
  · rename_i same
    rw [same]
    cases cluster.nodes.get? changed with
    | none => rfl
    | some slot => exact keeps slot
  · rfl

theorem IsReached.changeCluster (reached : deployment.IsReached) {cluster : Cluster Nat}
    (keeps : DeploymentOperation.KeepsHandlers (.changeCluster cluster) deployment) :
    ({ deployment with cluster := cluster } : Deployment).IsReached :=
  reached.step keeps

theorem IsReached.changeSlot (reached : deployment.IsReached) (node : NodeAddress)
    (change : NodeSlot Nat → NodeSlot Nat) (keeps : ∀ slot, (change slot).handler = slot.handler) :
    ({ deployment with
        cluster := { deployment.cluster with
          nodes := deployment.cluster.nodes.modify node change } } : Deployment).IsReached := by
  refine reached.changeCluster fun other number isHandler => Or.inl (Eq.trans ?_ isHandler)
  exact (handlerOf_changeSlot keeps deployment.cluster node other).symm

theorem IsReached.setReachable (reached : deployment.IsReached) (node : NodeAddress)
    (reachable : Bool) :
    ({ deployment with cluster := deployment.cluster.setReachable node reachable } :
      Deployment).IsReached :=
  reached.changeSlot node ({ · with reachable := reachable }) fun _ => rfl

theorem IsReached.setDelay (reached : deployment.IsReached) (node : NodeAddress)
    (delay : Option Nat) :
    ({ deployment with cluster := deployment.cluster.setDelay node delay } :
      Deployment).IsReached :=
  reached.changeSlot node ({ · with delay := delay }) fun _ => rfl

end Deployment

end EntitySearch
