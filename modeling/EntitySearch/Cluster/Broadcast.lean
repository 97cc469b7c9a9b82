import EntitySearch.Cluster.Membership
import EntitySearch.Cluster.Wire
import EntitySearch.Failure
import EntitySearch.Text.Duration

/-!
# Delivering and broadcasting tasks

A task for a node is refused at once if the node is no member or cannot be
reached; otherwise it is delivered after the node's delay, provided that the
handler that the node had when the task was sent still exists.  The task and the
answer travel in encoded form.

A broadcast sends one task to every member at the same time.  A member that does
not answer in time is recorded as timed out, and its task is never delivered.
-/

namespace EntitySearch

/-- How handlers act on the world: the world after a task and the answer to it, or nothing
if the handler no longer exists.  A handler takes no time: it never yields while it runs. -/
structure TaskRunner (Handler World : Type) where
  run : World → Handler → ClusterTask →
    Option (World × Except NodeFailure ClusterResponse)

/-- The fate of a task sent to a node. -/
inductive Sending (Handler : Type)
  | refused (failure : NodeFailure)
  | underway (handler : Option Handler) (delay : Option Nat)

/-- The answers and the failures of a broadcast by node. -/
structure Gathered where
  responses : Table NodeAddress ClusterResponse
  failures : Table NodeAddress NodeFailure

namespace Gathered

def empty : Gathered := ⟨Table.empty, Table.empty⟩

def record (gathered : Gathered) (node : NodeAddress)
    (outcome : Except NodeFailure ClusterResponse) : Gathered :=
  match outcome with
  | .ok response => { gathered with responses := gathered.responses.set node response }
  | .error failure => { gathered with failures := gathered.failures.set node failure }

def nodeCount (gathered : Gathered) : Nat :=
  gathered.responses.size + gathered.failures.size

end Gathered

namespace Cluster

variable {Handler World : Type}

/-- What happens to a task for a node when it is sent.  A delay of nothing is no delay. -/
def send (cluster : Cluster Handler) (node : NodeAddress) : Sending Handler :=
  match cluster.nodes.get? node with
  | none => .refused (.unreachable node)
  | some slot =>
      if slot.reachable then .underway slot.handler (slot.delay.filter (0 < ·))
      else .refused (.unreachable node)

/-- The answer as it arrives at the sender. -/
def receive (response : ClusterResponse) : Except NodeFailure ClusterResponse :=
  match Wire.decodeResponse? (Wire.encodeResponse response) with
  | some received => .ok received
  | none => .error (.serialization "malformed response")

def deliver (runner : TaskRunner Handler World) (world : World) (node : NodeAddress)
    (handler : Option Handler) (task : ClusterTask) :
    World × Except NodeFailure ClusterResponse :=
  match Wire.decodeTask? (Wire.encodeTask task) with
  | none => (world, .error (.serialization "malformed task"))
  | some received =>
      match handler.bind fun handler => runner.run world handler received with
      | none => (world, .error (.unreachable (node ++ " has no handler")))
      | some (after, answer) => (after, answer >>= receive)

/-- What is recorded for a node that takes longer than the timeout. -/
def timedOut (node : NodeAddress) (timeout : Nat) : NodeFailure :=
  .timedOut (node ++ " did not answer within " ++ Text.durationText timeout)

/-- Sends a task to one node and waits for the answer.  `meanwhile` is what else happens
while the sender waits. -/
def submitTo (runner : TaskRunner Handler World) (meanwhile : World → World)
    (cluster : Cluster Handler) (world : World) (node : NodeAddress) (task : ClusterTask) :
    World × Except NodeFailure ClusterResponse :=
  match cluster.send node with
  | .refused failure => (world, .error failure)
  | .underway handler none => deliver runner world node handler task
  | .underway handler (some _) => deliver runner (meanwhile world) node handler task

/-- A delivery that is still to come. -/
structure Delayed (Handler : Type) where
  node : NodeAddress
  handler : Option Handler
  delay : Nat

/-- The members of a broadcast that are answered without delay, and the deliveries that
are to come, the earliest first. -/
def delayedDeliveries (cluster : Cluster Handler) : List (Delayed Handler) :=
  let delayed := cluster.members.filterMap fun node =>
    match cluster.send node with
    | .underway handler (some delay) => some ⟨node, handler, delay⟩
    | _ => none
  delayed.mergeSort fun first second => first.delay ≤ second.delay

/-- The part of a broadcast that happens at once. -/
def broadcastAtOnce (runner : TaskRunner Handler World) (cluster : Cluster Handler)
    (task : ClusterTask) (progress : World × Gathered) (node : NodeAddress) :
    World × Gathered :=
  match cluster.send node with
  | .refused failure => (progress.1, progress.2.record node (.error failure))
  | .underway handler none =>
      let (world, outcome) := deliver runner progress.1 node handler task
      (world, progress.2.record node outcome)
  | .underway _ (some _) => progress

/-- A delivery of a broadcast that comes later, or never.  Only the delay is held against the
timeout, since handlers take no time; a delivery that comes too late is not executed. -/
def broadcastLater (runner : TaskRunner Handler World) (timeout : Nat) (task : ClusterTask)
    (progress : World × Gathered) (delivery : Delayed Handler) : World × Gathered :=
  if delivery.delay ≤ timeout then
    let (world, outcome) :=
      deliver runner progress.1 delivery.node delivery.handler task
    (world, progress.2.record delivery.node outcome)
  else
    (progress.1, progress.2.record delivery.node (.error (timedOut delivery.node timeout)))

/-- Sends a task to every member and gathers the outcomes.  `meanwhile` is what else
happens while deliveries are delayed. -/
def broadcast (runner : TaskRunner Handler World) (meanwhile : World → World)
    (cluster : Cluster Handler) (world : World) (task : ClusterTask) (timeout : Nat) :
    World × Gathered :=
  let (atOnce, gathered) :=
    cluster.members.foldl (broadcastAtOnce runner cluster task) (world, Gathered.empty)
  match cluster.delayedDeliveries with
  | [] => (atOnce, gathered)
  | delivery :: later =>
      (delivery :: later).foldl (broadcastLater runner timeout task)
        (meanwhile atOnce, gathered)

end Cluster

end EntitySearch
