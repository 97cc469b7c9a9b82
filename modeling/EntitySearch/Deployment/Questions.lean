import EntitySearch.Cluster.Coordination
import EntitySearch.Deployment.Background

/-!
# Questions to a deployment

A service puts a question to all members of the cluster and merges the answers.
The registry of a node passes a task on to the service of the index that the
task names.  A page of found entities is loaded from the store and shown in the
order of the ranking.
-/

namespace EntitySearch.Deployment

def answerTask (deployment : Deployment) (registry : Registry) (task : ClusterTask) :
    Deployment × Except NodeFailure ClusterResponse :=
  match (registry.services.get? task.index).bind fun id =>
      (deployment.services.get? id).map (id, ·) with
  | none => (deployment, .error (.unknownIndex task.index))
  | some (id, service) =>
      let (after, outcome) :=
        deployment.onLocalIndex id service (service.index.answer · task)
      (after, outcome.mapError SearchFailure.toNode)

/-- Tasks are answered by the registry with the number that they are delivered to. -/
def taskRunner : TaskRunner Nat Deployment where
  run deployment number task :=
    (deployment.nodes.values.findSome? fun state =>
      state.registry.filter (·.number == number)).map
        fun registry => deployment.answerTask registry task

/-- Counts the members that did not answer. -/
def countUnanswered (task : ClusterTask) (unanswered : Nat) (metrics : IndexMetrics) :
    IndexMetrics :=
  match task with
  | .count _ _ =>
      { metrics with unansweredCounts := metrics.unansweredCounts + unanswered }
  | .search _ _ _ =>
      { metrics with unansweredSearches := metrics.unansweredSearches + unanswered }
  | .deleteProject _ _ =>
      { metrics with unansweredDeletions := metrics.unansweredDeletions + unanswered }

/-- Sends a task of a service to all members.  Where deliveries are delayed, background
batches go on. -/
def broadcast (deployment : Deployment) (service : Service) (task : ClusterTask) :
    Deployment × Gathered :=
  let (after, gathered) := deployment.cluster.broadcast taskRunner settle deployment task
    service.index.settings.cluster.answerTimeout.toNat
  (after.measure service.index.name (countUnanswered task gathered.failures.size), gathered)

def count (deployment : Deployment) (service : Service) (query : String) :
    Deployment × Except SearchFailure UInt64 :=
  match service.index.plan query with
  | .error failure => (deployment, .error failure)
  | .ok _ =>
      let (after, gathered) := deployment.broadcast service (.count service.index.name query)
      (after.measure service.index.name fun metrics =>
        { metrics with timedCounts := metrics.timedCounts + 1 }, .ok gathered.total)

/-- A page of the ranking over all nodes. -/
def rankedPage (deployment : Deployment) (service : Service) (query : String)
    (offset limit : UInt64) : Deployment × List EntityId :=
  if limit = 0 then (deployment, [])
  else
    let (after, gathered) := deployment.broadcast service
      (.search service.index.name query (windowEnd offset limit))
    (after.measure service.index.name fun metrics =>
      { metrics with timedSearches := metrics.timedSearches + 1 },
      gathered.page offset limit)

def loadPage (shared : SharedStore) (ranked : List EntityId) :
    Except SearchFailure (List Entity) :=
  if ranked.isEmpty then .ok []
  else
    match shared.queryIds ranked with
    | .error failure => .error failure.toSearch
    | .ok entities =>
        .ok (orderByRank (Table.ofList (entities.map fun entity => (entity.id, entity))) ranked)

/-- The entities that a query finds, the best first. -/
def search (deployment : Deployment) (service : Service) (query : String)
    (offset limit : UInt64) : Deployment × Except SearchFailure (List Entity) :=
  match service.index.plan query with
  | .error failure => (deployment, .error failure)
  | .ok _ =>
      let (after, ranked) := deployment.rankedPage service query offset limit
      (after, loadPage (after.storeOf service.typeName) ranked)

/-- Removes the documents of a project on all nodes; nodes that do not answer are left
out. -/
def deleteProject (deployment : Deployment) (service : Service) (project : ProjectId) :
    Deployment × Except SearchFailure Unit :=
  let (after, _) := deployment.broadcast service (.deleteProject service.index.name project)
  (after, .ok ())

end EntitySearch.Deployment
