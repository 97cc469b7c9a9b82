import EntitySearch.Deployment.Questions

/-!
# Rehearsing a deployment

A session takes steps on a deployment: it changes the stores and the cluster,
starts and stops services, lets background batches run, damages directories, and
asks questions.  A step is about one entity type on one node; without a node it
is about the first one.
-/

namespace EntitySearch.Rehearsal

/-- What a transaction stages. -/
inductive StagedStep
  | change (change : IndexChange)
  | upsert (entity : Entity)
  | fail

inductive SessionStep
  | save (entities : List Entity)
  | remove (id : EntityId)
  | removeProject (project : ProjectId)
  | setStoreMode (mode : StoreMode)
  | join (poolSize : Nat)
  | leave
  | setReachable (reachable : Bool)
  | setDelay (delay : Option Nat)
  | assign (project : ProjectId)
  | setDefaultOwner (owner : Option NodeAddress)
  | dropRegistry
  | unregister (indexName : String)
  | indexNames
  | handle (task : ClusterTask)
  | create (declaration : IndexDeclaration) (settings : Settings) (starts : Bool)
  | start
  | stop
  | settle
  | shutDown
  | restart
  | forget
  | refresh
  | lifecycle
  | progress
  | statistics
  | damage (file text : Option String)
  | block
  | indexEntities (ids : List EntityId)
  | deleteEntities (ids : List EntityId)
  | deleteProject (project : ProjectId)
  | localDeleteProject (project : ProjectId)
  | transact (steps : List StagedStep)
  | count (query : String)
  | search (query : String) (offset limit : UInt64)
  | localCount (query : String)
  | localSearch (query : String) (limit : UInt64)
  | counters

/-- A step with the entity type and the node that it is about. -/
structure PlacedStep where
  typeName : String
  node : Option NodeAddress
  step : SessionStep

/-- What a step shows. -/
inductive SessionReport
  | nothing
  | number (value : Nat)
  | flag (value : Bool)
  | ids (ids : List EntityId)
  | names (names : Option (List String))
  | outcome (outcome : Except SearchFailure Unit)
  | answer (answer : Except NodeFailure ClusterResponse)
  | counted (number : Except SearchFailure UInt64)
  | found (entities : Except SearchFailure (List Entity))
  | scored (scores : Except SearchFailure ScoredEntities)
  | service (service : Service)
  | statistics (indexName : String) (hasCommitted : Bool)
      (figures : Except SearchFailure IndexStatistics)
  | counters (metrics : List (String × IndexMetrics))
  | noService

/-- The declared entity types, and the deployment. -/
structure Session where
  indexNames : List String
  deployment : Deployment

namespace Session

def start (indexNames : List String) : Session := ⟨indexNames, Deployment.empty⟩

/-- The session after a change of the deployment that shows nothing. -/
def quietly (session : Session) (deployment : Deployment) : Session × SessionReport :=
  ({ session with deployment := deployment }, .nothing)

def changeCluster (session : Session) (change : Cluster Nat → Cluster Nat) :
    Session × SessionReport :=
  session.quietly
    { session.deployment with cluster := change session.deployment.cluster }

/-- The session after a change of the deployment, with what it shows. -/
def showing {Outcome : Type} (session : Session) (report : Outcome → SessionReport)
    (result : Deployment × Outcome) : Session × SessionReport :=
  ({ session with deployment := result.1 }, report result.2)

/-- A directory after damage to a file in it or to the whole, and whether that could be
done.  Only the file that makes the index readable matters. -/
def damaged (directory : IndexDirectory) (file text : Option String) :
    IndexDirectory × Bool :=
  match file, text with
  | some "meta.json", some _ =>
      if directory.isDirectory then (.unreadable, true) else (directory, false)
  | some "meta.json", none =>
      match directory with
      | .unreadable => (.vacant, true)
      | .readable _ => (.vacant, true)
      | other => (other, false)
  | some _, some _ => (directory, directory.isDirectory)
  | some _, none => (directory, false)
  | none, _ => if directory.isDirectory then (.missing, true) else (directory, false)

/-- What a transaction stages for a service. -/
def staged (index : EntityIndex) (steps : List StagedStep) :
    Except SearchFailure (List IndexChange) :=
  steps.mapM fun
    | .change change => .ok change
    | .upsert entity => .ok (.upsert (index.documentFor entity))
    | .fail => .error (.deletion "injected")

/-- Builds a service and installs it, and starts it where that is asked for. -/
def create (session : Session) (typeName : String) (node : NodeAddress)
    (declaration : IndexDeclaration) (settings : Settings) (starts : Bool) :
    Session × SessionReport :=
  match EntityIndex.ofDeclaration declaration settings with
  | .error failure => (session, .outcome (.error failure))
  | .ok index =>
      let service : Service := ⟨index, typeName, node, none, false⟩
      let (installed, id) := session.deployment.install service
      if starts then session.showing .outcome (installed.startService id service)
      else ({ session with deployment := installed }, .outcome (.ok ()))

/-- Takes a step that is about a service. -/
def takeWith (session : Session) (id : ServiceId) (service : Service) :
    SessionStep → Session × SessionReport
  | .start => session.showing .outcome (session.deployment.startService id service)
  | .stop =>
      session.quietly (session.deployment.onLocalIndex id service fun index =>
        (index.stop, ())).1
  | .refresh =>
      session.quietly (session.deployment.onLocalIndex id service fun index =>
        (index.refresh, ())).1
  | .lifecycle => (session, .service service)
  | .progress =>
      session.showing .counted (session.deployment.onLocalIndex id service
        (LocalIndex.readProgressMark service.index.layout))
  | .statistics =>
      session.showing (.statistics service.index.name service.hasCommitted)
        (session.deployment.onLocalIndex id service
          (LocalIndex.statistics service.index.layout))
  | .damage file text =>
      session.showing .flag (session.deployment.onLocalIndex id service fun index =>
        let (directory, could) := damaged index.directory file text
        ({ index with directory := directory }, could))
  | .block =>
      session.showing .flag (session.deployment.onLocalIndex id service fun index =>
        ({ index with directory := .blocked }, true))
  | .indexEntities ids =>
      let deployment := session.deployment.requestIndex id service ids
      ({ session with deployment := deployment }, .number (deployment.pendingCount service))
  | .deleteEntities ids =>
      session.showing .outcome (session.deployment.deleteEntities id service ids)
  | .deleteProject project =>
      session.showing .outcome (session.deployment.deleteProject service project)
  | .localDeleteProject project =>
      session.showing .outcome (session.deployment.onLocalIndex id service
        (service.index.localDeleteProject · project))
  | .transact steps =>
      session.showing .outcome (session.deployment.onLocalIndex id service fun index =>
        index.transact service.index.layout (staged service.index steps))
  | .count query => session.showing .counted (session.deployment.count service query)
  | .search query offset limit =>
      session.showing .found (session.deployment.search service query offset limit)
  | .localCount query =>
      (session, .counted (service.index.localCount service.snapshot query))
  | .localSearch query limit =>
      (session, .scored (service.index.localSearch service.snapshot query limit))
  | _ => (session, .noService)

def take (session : Session) (placed : PlacedStep) : Session × SessionReport :=
  let deployment := session.deployment
  let typeName := placed.typeName
  let shared := deployment.storeOf typeName
  let node := (placed.node.or deployment.nodes.keys.head?).getD ""
  match placed.step with
  | .save entities =>
      let stored := deployment.changeStore typeName fun shared =>
        { shared with store := entities.foldl EntityStore.save shared.store }
      ({ session with deployment := stored },
        .number (stored.storeOf typeName).store.size)
  | .remove id =>
      session.showing .flag
        (deployment.changeStore typeName fun shared =>
          { shared with store := shared.store.remove id }, (shared.store.load id).isSome)
  | .removeProject project =>
      session.showing .ids
        (deployment.changeStore typeName fun shared =>
          { shared with store := shared.store.removeProject project },
          shared.store.projectIds project)
  | .setStoreMode mode =>
      session.quietly (deployment.changeStore typeName ({ · with mode := mode }))
  | .join poolSize => session.quietly (deployment.join node poolSize)
  | .leave => session.changeCluster (·.leave node)
  | .setReachable reachable => session.changeCluster (·.setReachable node reachable)
  | .setDelay delay => session.changeCluster (·.setDelay node delay)
  | .assign project => session.changeCluster (·.assign project node)
  | .setDefaultOwner owner => session.changeCluster (·.setDefaultOwner owner)
  | .dropRegistry => session.quietly (deployment.dropRegistry node)
  | .unregister indexName => session.quietly (deployment.unregister node indexName)
  | .indexNames =>
      (session, .names ((deployment.nodes.get? node).bind fun state =>
        state.registry.map (·.services.keys)))
  | .handle task =>
      match (deployment.nodes.get? node).bind (·.registry) with
      | none => (session, .noService)
      | some registry => session.showing .answer (deployment.answerTask registry task)
  | .create declaration settings starts =>
      session.create typeName node declaration settings starts
  | .settle => session.quietly deployment.settle
  | .shutDown => session.quietly (deployment.shutDown node)
  | .restart => session.quietly ((deployment.shutDown node).restart node)
  | .forget => session.quietly (deployment.forget node typeName)
  | .counters =>
      (session, .counters (session.indexNames.map fun name =>
        (name, deployment.metricsOf name)))
  | step =>
      match deployment.serviceFor? node typeName with
      | none => (session, .noService)
      | some (id, service) => session.takeWith id service step

def takeAll (session : Session) : List PlacedStep → List SessionReport
  | [] => []
  | step :: rest =>
      let (next, report) := session.take step
      report :: next.takeAll rest

end Session

end EntitySearch.Rehearsal
