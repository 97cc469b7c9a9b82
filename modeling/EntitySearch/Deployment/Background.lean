import EntitySearch.Collection.Total
import EntitySearch.Deployment.State

/-!
# Background batches of a deployment

The pools of a deployment run the batches of its services.  A batch belongs to a
service; when the service is gone its works are dropped without effect.
-/

namespace EntitySearch.Deployment

open Scheduling

/-- What the batches of a service read. -/
def sourceFor (deployment : Deployment) (service : Service) : EntitySource where
  load id := (deployment.storeOf service.typeName).read (·.load id)
  queryAfter mark limit := (deployment.storeOf service.typeName).read (·.queryAfter mark limit)
  owns project := deployment.cluster.ownerOf project = some service.node

def workerOf (id : ServiceId) (service : Service) : Worker ServiceId :=
  ⟨service.index.workerName, service.index.settings.indexing.priority.toNat, id⟩

def countBatch (outcome : BatchOutcome) (metrics : IndexMetrics) : IndexMetrics :=
  match outcome with
  | .success => { metrics with batchesDone := metrics.batchesDone + 1 }
  | _ => { metrics with batchesFailed := metrics.batchesFailed + 1 }

/-- The name of the index whose works are submitted under a worker name. -/
def indexOfWorker (workerName : String) : String :=
  String.ofList (workerName.toList.drop "index:".length)

/-- Runs a batch of works of a service to its end. -/
def runBatch (deployment : Deployment) (id : ServiceId) (service : Service)
    (works : List Work) : Deployment × BatchOutcome :=
  let name := service.index.name
  let start := IndexingBatch.start (deployment.localIndexOf service)
    (deployment.metricsOf name).tally works
  let steps := IndexingBatch.stepBound works.length
    (deployment.storeOf service.typeName).store.size
  let batch := start.run service.index (deployment.sourceFor service) steps
  let after := (deployment.setLocalIndex id service batch.index).measure name
    ({ · with tally := batch.tally })
  match batch.phase with
  | .ended (.ok ()) => (after, .success)
  | _ => (after, .failure)

/-- How the pools of a deployment run batches: at once, when the batch ends. -/
def batchBehavior : BatchBehavior ServiceId Deployment where
  start deployment _ _ := (deployment, none)
  finish deployment _ batch _ :=
    let (after, outcome) : Deployment × BatchOutcome :=
      match deployment.services.get? batch.worker.agent with
      | none => (deployment, .success)
      | some service => deployment.runBatch batch.worker.agent service batch.works
    (after.measure (indexOfWorker batch.name) (countBatch outcome), [], outcome)
  refused deployment _ := deployment

def onPool (deployment : Deployment) (node : NodeAddress)
    (act : Timeline ServiceId Deployment → Timeline ServiceId Deployment) : Deployment :=
  match deployment.nodes.get? node with
  | none => deployment
  | some state =>
      let line := act { state.pool with world := deployment }
      line.world.changeNode node fun state => { state with pool := { line with world := () } }

/-- More rounds than the pending works of a pool can make it take. -/
def poolAllowance (line : Timeline ServiceId Deployment) : Nat :=
  let pending := totalOf (line.pool.slots.values.map (·.pending.length))
  (line.pool.size + 2) * (pending + 2) * 10

/-- Submits a work of a service; nothing happens when the pool is shut down. -/
def submit (deployment : Deployment) (id : ServiceId) (service : Service) (work : Work) :
    Deployment :=
  deployment.onPool service.node fun line =>
    match line.submit (workerOf id service) work with
    | .ok next => next
    | .error _ => line

def pendingCount (deployment : Deployment) (service : Service) : Nat :=
  match deployment.nodes.get? service.node with
  | none => 0
  | some state => state.pool.pool.pendingCount service.index.workerName

def settleNode (deployment : Deployment) (node : NodeAddress) : Deployment :=
  deployment.onPool node fun line => line.settle batchBehavior (poolAllowance line)

def settle (deployment : Deployment) : Deployment :=
  deployment.nodes.keys.foldl settleNode deployment

/-- Runs the pools of the other nodes until they are idle. -/
def settleOthers (deployment : Deployment) (node : NodeAddress) : Deployment :=
  (deployment.nodes.keys.filter (· != node)).foldl settleNode deployment

/-- Shuts the pool of a node down and waits for its tasks, while the other pools go on.  A
pool that is down already needs no waiting. -/
def shutDown (deployment : Deployment) (node : NodeAddress) : Deployment :=
  if (deployment.nodes.get? node).all (·.pool.pool.closed) then deployment
  else
    (deployment.settleOthers node).onPool node fun line =>
      line.shutDown batchBehavior (poolAllowance line)

/-- Starts the local index of a service and submits a scan. -/
def startService (deployment : Deployment) (id : ServiceId) (service : Service) :
    Deployment × Except SearchFailure Unit :=
  match deployment.onLocalIndex id service (LocalIndex.start service.index.spec) with
  | (after, .error failure) => (after, .error failure)
  | (after, .ok ()) => (after.submit id service .scan, .ok ())

def requestIndex (deployment : Deployment) (id : ServiceId) (service : Service)
    (ids : List EntityId) : Deployment :=
  ids.foldl (fun deployment entity => deployment.submit id service (.entity entity)) deployment

def deleteEntities (deployment : Deployment) (id : ServiceId) (service : Service)
    (ids : List EntityId) : Deployment × Except SearchFailure Unit :=
  match deployment.onLocalIndex id service (service.index.deleteEntities · ids) with
  | (after, .error failure) => (after, .error failure)
  | (after, .ok ()) =>
      (after.measure service.index.name fun metrics =>
        { metrics with
          tally := { metrics.tally with deleted := metrics.tally.deleted + ids.length } },
        .ok ())

end EntitySearch.Deployment
