import EntitySearch.Cluster.Membership
import EntitySearch.Scheduling.Timeline
import EntitySearch.Service.IndexingBatch

/-!
# Deployments

A deployment is a cluster of nodes that share one entity store per entity type.
Each node has its own index directories, a pool for background batches, and a
registry through which the tasks of other nodes reach its services.  A service
is one entity index at work on a node; it lives as long as the node keeps it for
its entity type or in the registry.
-/

namespace EntitySearch

/-- How the shared store of an entity type answers. -/
inductive StoreMode
  | normal
  /-- Reads by identifiers answer in reverse order. -/
  | reversed
  /-- Every read fails. -/
  | failing (failure : GeneralFailure)
deriving Repr, DecidableEq

/-- The store that all nodes share for one entity type. -/
structure SharedStore where
  store : EntityStore
  mode : StoreMode

namespace SharedStore

def empty : SharedStore := ⟨EntityStore.empty, .normal⟩

def read {Answer : Type} (shared : SharedStore) (answer : EntityStore → Answer) :
    Except GeneralFailure Answer :=
  match shared.mode with
  | .failing failure => .error failure
  | _ => .ok (answer shared.store)

def queryIds (shared : SharedStore) (ids : List EntityId) :
    Except GeneralFailure (List Entity) :=
  shared.read fun store =>
    if shared.mode = .reversed then (store.queryIds ids).reverse else store.queryIds ids

end SharedStore

/-- The number by which a deployment knows a service. -/
abbrev ServiceId := Nat

/-- An entity index at work on a node. -/
structure Service where
  index : EntityIndex
  typeName : String
  node : NodeAddress
  snapshot : Option IndexContent
  hasCommitted : Bool

/-- The services of a node by index name, under a number that other nodes deliver to. -/
structure Registry where
  number : Nat
  services : Table String ServiceId

/-- A node: its directories by index name, its registry unless that was dropped, its
services by entity type, and its pool. -/
structure NodeState where
  directories : Table String IndexDirectory
  registry : Option Registry
  services : Table String ServiceId
  poolSize : Nat
  pool : Scheduling.Timeline ServiceId Unit

/-- What has happened under an index name. -/
structure IndexMetrics where
  tally : IndexTally
  unansweredCounts : Nat
  unansweredSearches : Nat
  unansweredDeletions : Nat
  timedCounts : Nat
  timedSearches : Nat
  batchesDone : Nat
  batchesFailed : Nat

def IndexMetrics.zero : IndexMetrics := ⟨IndexTally.zero, 0, 0, 0, 0, 0, 0, 0⟩

/-- Nodes with their services over shared stores. -/
structure Deployment where
  stores : Table String SharedStore
  cluster : Cluster Nat
  nodes : Table NodeAddress NodeState
  services : Table ServiceId Service
  metrics : Table String IndexMetrics
  nextNumber : Nat

namespace Deployment

def empty : Deployment :=
  ⟨Table.empty, Cluster.empty, Table.empty, Table.empty, Table.empty, 0⟩

def storeOf (deployment : Deployment) (typeName : String) : SharedStore :=
  (deployment.stores.get? typeName).getD SharedStore.empty

def changeStore (deployment : Deployment) (typeName : String)
    (change : SharedStore → SharedStore) : Deployment :=
  { deployment with
    stores := deployment.stores.set typeName (change (deployment.storeOf typeName)) }

def metricsOf (deployment : Deployment) (indexName : String) : IndexMetrics :=
  (deployment.metrics.get? indexName).getD IndexMetrics.zero

/-- Changes what has happened under an index name. -/
def measure (deployment : Deployment) (indexName : String)
    (change : IndexMetrics → IndexMetrics) : Deployment :=
  { deployment with
    metrics := deployment.metrics.set indexName (change (deployment.metricsOf indexName)) }

def changeNode (deployment : Deployment) (node : NodeAddress)
    (change : NodeState → NodeState) : Deployment :=
  { deployment with nodes := deployment.nodes.modify node change }

def changeService (deployment : Deployment) (id : ServiceId)
    (change : Service → Service) : Deployment :=
  { deployment with services := deployment.services.modify id change }

def directoryAt (deployment : Deployment) (node : NodeAddress) (indexName : String) :
    IndexDirectory :=
  (((deployment.nodes.get? node).bind fun state =>
    state.directories.get? indexName).getD .missing)

def setDirectory (deployment : Deployment) (node : NodeAddress) (indexName : String)
    (directory : IndexDirectory) : Deployment :=
  deployment.changeNode node fun state =>
    { state with directories := state.directories.set indexName directory }

def localIndexOf (deployment : Deployment) (service : Service) : LocalIndex :=
  ⟨deployment.directoryAt service.node service.index.name, service.snapshot,
    service.hasCommitted⟩

def setLocalIndex (deployment : Deployment) (id : ServiceId) (service : Service)
    (index : LocalIndex) : Deployment :=
  (deployment.setDirectory service.node service.index.name index.directory).changeService id
    fun present =>
      { present with snapshot := index.snapshot, hasCommitted := index.hasCommitted }

def onLocalIndex {Outcome : Type} (deployment : Deployment) (id : ServiceId)
    (service : Service) (act : LocalIndex → LocalIndex × Outcome) : Deployment × Outcome :=
  let (index, outcome) := act (deployment.localIndexOf service)
  (deployment.setLocalIndex id service index, outcome)

def NodeState.keeps (state : NodeState) (id : ServiceId) : Bool :=
  state.services.values.contains id ||
    state.registry.any fun registry => registry.services.values.contains id

/-- The deployment without the services that no node keeps any more. -/
def forgetLost (deployment : Deployment) : Deployment :=
  { deployment with
    services := deployment.services.filter fun id _ =>
      deployment.nodes.values.any fun state => NodeState.keeps state id }

def serviceFor? (deployment : Deployment) (node : NodeAddress) (typeName : String) :
    Option (ServiceId × Service) := do
  let state ← deployment.nodes.get? node
  let id ← state.services.get? typeName
  return (id, ← deployment.services.get? id)

/-- A node without directories and services; its pool has not run yet. -/
def newNode (number poolSize : Nat) : NodeState where
  directories := Table.empty
  registry := some ⟨number, Table.empty⟩
  services := Table.empty
  poolSize := poolSize
  pool := Scheduling.Timeline.start poolSize ()

/-- Adds a node, or brings a known one back, with its registry as the handler of tasks. -/
def join (deployment : Deployment) (node : NodeAddress) (poolSize : Nat) : Deployment :=
  match deployment.nodes.get? node with
  | some state =>
      { deployment with
        cluster := match state.registry with
          | some registry => deployment.cluster.attach node registry.number
          | none => deployment.cluster.join node }
  | none =>
      let number := deployment.nextNumber
      { deployment with
        nodes := deployment.nodes.set node (newNode number poolSize)
        cluster := deployment.cluster.attach node number
        nextNumber := number + 1 }

/-- Installs a new service on its node, in place of an earlier one of the entity type, and
registers it. -/
def install (deployment : Deployment) (service : Service) : Deployment × ServiceId :=
  let id := deployment.nextNumber
  let installed :=
    { deployment with
      services := deployment.services.set id service
      nextNumber := id + 1 }
  let kept := installed.changeNode service.node fun state =>
    { state with
      services := state.services.set service.typeName id
      registry := state.registry.map fun registry =>
        { registry with services := registry.services.set service.index.name id } }
  (kept.forgetLost, id)

def unregister (deployment : Deployment) (node : NodeAddress) (indexName : String) :
    Deployment :=
  (deployment.changeNode node fun state =>
    { state with
      registry := state.registry.map fun registry =>
        { registry with services := registry.services.erase indexName } }).forgetLost

/-- Drops the service of a node for an entity type together with its registration. -/
def forget (deployment : Deployment) (node : NodeAddress) (typeName : String) : Deployment :=
  match deployment.serviceFor? node typeName with
  | none => deployment
  | some (_, service) =>
      (deployment.changeNode node fun state =>
        { state with services := state.services.erase typeName }).unregister node
          service.index.name

def dropRegistry (deployment : Deployment) (node : NodeAddress) : Deployment :=
  (deployment.changeNode node fun state => { state with registry := none }).forgetLost

/-- A new process on the directories of a node: without services, and with a new registry
and a new pool. -/
def restart (deployment : Deployment) (node : NodeAddress) : Deployment :=
  match deployment.nodes.get? node with
  | none => deployment
  | some state =>
      let number := deployment.nextNumber
      let fresh := { newNode number state.poolSize with directories := state.directories }
      { deployment with
        nodes := deployment.nodes.set node fresh
        cluster := deployment.cluster.attach node number
        nextNumber := number + 1 }.forgetLost

end Deployment

end EntitySearch
