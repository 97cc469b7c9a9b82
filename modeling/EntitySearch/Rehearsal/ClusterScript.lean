import EntitySearch.Cluster.Coordination

/-!
# Rehearsing a cluster

Handlers that give a scripted answer and remember the tasks that they are given
show how a cluster routes tasks.
-/

namespace EntitySearch.Rehearsal

/-- A handler with a scripted answer and the tasks received since they were last asked
for, the latest first. -/
structure ScriptedHandler where
  number : Nat
  answer : Except NodeFailure ClusterResponse
  received : List ClusterTask

/-- A cluster with scripted handlers; each node has at most one that exists. -/
structure ClusterStage where
  cluster : Cluster Nat
  handlers : Table NodeAddress ScriptedHandler
  nextNumber : Nat

/-- A task or question about an index, as a step gives it. -/
inductive ClusterStep
  | join (node : NodeAddress)
  | leave (node : NodeAddress)
  | assign (project : ProjectId) (node : NodeAddress)
  | unassign (project : ProjectId)
  | setDefaultOwner (node : Option NodeAddress)
  | setReachable (node : NodeAddress) (reachable : Bool)
  | setDelay (node : NodeAddress) (delay : Option Nat)
  | attach (node : NodeAddress) (answer : Except NodeFailure ClusterResponse)
  | detach (node : NodeAddress)
  | received (node : NodeAddress)
  | members
  | owner (project : ProjectId)
  | standalone (node : NodeAddress) (project : ProjectId)
  | submit (node : NodeAddress) (task : ClusterTask)
  | broadcast (task : ClusterTask) (timeout : Nat)
  | coordinate (index : String) (inquiry : Inquiry) (timeout : Nat)

/-- What a step shows. -/
inductive ClusterReport
  | nothing
  | flag (value : Bool)
  | tasks (received : Option (List ClusterTask))
  | addresses (nodes : List NodeAddress)
  | owner (node : Option NodeAddress)
  | standalone (members : List NodeAddress) (self : NodeAddress) (owner : Option NodeAddress)
  | answer (outcome : Except NodeFailure ClusterResponse)
  | gathered (outcomes : Gathered)
  | count (total : UInt64)
  | page (ids : List EntityId)

namespace ClusterStage

def empty : ClusterStage := ⟨Cluster.empty, Table.empty, 0⟩

/-- Handlers answer as scripted and remember the task. -/
def runner : TaskRunner Nat (Table NodeAddress ScriptedHandler) where
  run handlers number task :=
    match handlers.entries.find? (·.2.number == number) with
    | none => none
    | some (node, handler) =>
        some (handlers.set node { handler with received := task :: handler.received },
          handler.answer)

def change (stage : ClusterStage) (next : Cluster Nat → Cluster Nat) :
    ClusterStage × ClusterReport :=
  ({ stage with cluster := next stage.cluster }, .nothing)

def broadcast (stage : ClusterStage) (task : ClusterTask) (timeout : Nat) :
    ClusterStage × Gathered :=
  let (handlers, gathered) :=
    stage.cluster.broadcast runner id stage.handlers task timeout
  ({ stage with handlers := handlers }, gathered)

/-- What a question shows about the gathered answers. -/
def reportInquiry (gathered : Gathered) : Inquiry → ClusterReport
  | .count _ => .count gathered.total
  | .search _ offset limit => .page (gathered.page offset limit)
  | .deleteProject _ => .gathered gathered

def take (stage : ClusterStage) : ClusterStep → ClusterStage × ClusterReport
  | .join node => stage.change (·.join node)
  | .leave node => stage.change (·.leave node)
  | .assign project node => stage.change (·.assign project node)
  | .unassign project => stage.change (·.unassign project)
  | .setDefaultOwner node => stage.change (·.setDefaultOwner node)
  | .setReachable node reachable => stage.change (·.setReachable node reachable)
  | .setDelay node delay => stage.change (·.setDelay node delay)
  | .attach node answer =>
      let handler := ⟨stage.nextNumber, answer, []⟩
      ({ cluster := stage.cluster.attach node stage.nextNumber
         handlers := stage.handlers.set node handler
         nextNumber := stage.nextNumber + 1 }, .nothing)
  | .detach node =>
      ({ stage with handlers := stage.handlers.erase node },
        .flag (stage.handlers.contains node))
  | .received node =>
      match stage.handlers.get? node with
      | none => (stage, .tasks none)
      | some handler =>
          ({ stage with handlers := stage.handlers.set node { handler with received := [] } },
            .tasks (some handler.received.reverse))
  | .members => (stage, .addresses stage.cluster.members)
  | .owner project => (stage, .owner (stage.cluster.ownerOf project))
  | .standalone node project =>
      let alone : Cluster Nat := Cluster.standalone node
      (stage, .standalone alone.members node (alone.ownerOf project))
  | .submit node task =>
      let (handlers, outcome) :=
        stage.cluster.submitTo runner id stage.handlers node task
      ({ stage with handlers := handlers }, .answer outcome)
  | .broadcast task timeout =>
      let (next, gathered) := stage.broadcast task timeout
      (next, .gathered gathered)
  | .coordinate index inquiry timeout =>
      match inquiry.task? index with
      | none => (stage, reportInquiry Gathered.empty inquiry)
      | some task =>
          let (next, gathered) := stage.broadcast task timeout
          (next, reportInquiry gathered inquiry)

def takeAll (stage : ClusterStage) : List ClusterStep → List ClusterReport
  | [] => []
  | step :: rest =>
      let (next, report) := stage.take step
      report :: next.takeAll rest

end ClusterStage

end EntitySearch.Rehearsal
