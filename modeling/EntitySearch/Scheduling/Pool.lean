import EntitySearch.Collection.Table
import EntitySearch.Failure
import EntitySearch.Scheduling.Work

/-!
# The worker pool

A fixed number of pool tasks drain the pending works of the workers.  A worker
with pending works waits in a ready queue, ordered by priority and then by the
order of becoming ready, unless one of its batches is running; then it becomes
ready again when the batch ends.

The pool is a state with small steps, each of which is atomic.  A pool task goes
round a loop: it registers for a wake-up, looks at the queue, and either parks
until it is woken or runs a batch, completes it and gives its registration up.
Since a task stays registered while its batch runs, it can receive a wake-up then;
the wake-up is passed on only when the registration is given up.  A wake-up for
which no task is registered is kept as a permit for the next registration.
-/

namespace EntitySearch.Scheduling

/-- What the pool keeps for one worker name. -/
structure Slot (Agent : Type) where
  worker : Worker Agent
  pending : List Work
  queued : Bool
  running : Bool

structure ReadyEntry where
  priority : Nat
  sequence : Nat
  name : String
deriving Repr, DecidableEq

/-- Whether the first entry is served no later than the second. -/
def ReadyEntry.precedes (first second : ReadyEntry) : Bool :=
  first.priority < second.priority ||
    (first.priority == second.priority &&
      (first.sequence < second.sequence ||
        (first.sequence == second.sequence && first.name ≤ second.name)))

/-- How a pool task stands with the wake-ups: it has no registration, waits for one, has
been woken alone or together with all others, or has used a permit up. -/
inductive Registration
  | none
  | waiting
  | wokenAlone
  | wokenWithAll
  | granted
deriving Repr, DecidableEq

/-- Whether a registration has received what the task waits for. -/
def Registration.isReady : Registration → Bool
  | .wokenAlone => true
  | .wokenWithAll => true
  | .granted => true
  | .none => false
  | .waiting => false

/-- Works drained from a slot and handed to its worker. -/
structure Batch (Agent : Type) where
  name : String
  worker : Worker Agent
  works : List Work

/-- Where a pool task is in its loop. -/
inductive Phase (Agent : Type)
  | arriving
  | looking
  | parked
  | working (batch : Batch Agent)
  | releasing
  | exiting
  | exited

structure PoolTask (Agent : Type) where
  phase : Phase Agent
  registration : Registration

/-- Where a caller that waits for the pool to be idle stands. -/
inductive IdlePhase
  | arriving
  | looking
  | parked
  | returned
deriving Repr, DecidableEq

/-- A caller that waits for the pool to be idle. -/
structure IdleCaller where
  phase : IdlePhase
  woken : Bool
deriving Repr, DecidableEq

/-- Where a call for shutdown stands: it has closed the pool and owes the wake-up of all
tasks, waits for the tasks to exit, or has returned. -/
inductive ShutdownCall
  | announcing
  | joining
  | returned
deriving Repr, DecidableEq

/-- The state of a pool. -/
structure Pool (Agent : Type) where
  slots : Table String (Slot Agent)
  ready : List ReadyEntry
  nextSequence : Nat
  active : Nat
  closed : Bool
  tasks : List (PoolTask Agent)
  permit : Bool
  waiting : List Nat
  owedWakeups : Nat
  idleCallers : List IdleCaller
  shutdownCalls : List ShutdownCall

/-- One atomic step of the pool or of somebody who uses it. -/
inductive PoolEvent (Agent : Type)
  | submit (worker : Worker Agent) (work : Work)
  | announce
  | register (task : Nat)
  | look (task : Nat)
  | resume (task : Nat)
  | complete (task : Nat)
  | release (task : Nat)
  | awaitIdle
  | registerIdle (caller : Nat)
  | lookIdle (caller : Nat)
  | resumeIdle (caller : Nat)
  | beginShutdown
  | announceShutdown (call : Nat)
  | finishShutdown (call : Nat)

namespace Pool

variable {Agent : Type}

/-- The number of pool tasks for a requested size: at least one. -/
def effectiveSize (size : Nat) : Nat := max size 1

def start (size : Nat) : Pool Agent where
  slots := Table.empty
  ready := []
  nextSequence := 0
  active := 0
  closed := false
  tasks := List.replicate (effectiveSize size) ⟨.arriving, .none⟩
  permit := false
  waiting := []
  owedWakeups := 0
  idleCallers := []
  shutdownCalls := []

def size (pool : Pool Agent) : Nat := pool.tasks.length

def pendingCount (pool : Pool Agent) (name : String) : Nat :=
  match pool.slots.get? name with
  | some slot => slot.pending.length
  | none => 0

/-- Whether no batch is queued or running. -/
def isIdle (pool : Pool Agent) : Bool :=
  pool.active == 0 && pool.ready.isEmpty

def updateTask (pool : Pool Agent) (task : Nat) (change : PoolTask Agent → PoolTask Agent) :
    Pool Agent :=
  { pool with tasks := pool.tasks.modify task change }

def setPhase (pool : Pool Agent) (task : Nat) (phase : Phase Agent) : Pool Agent :=
  pool.updateTask task fun present => { present with phase := phase }

def setRegistration (pool : Pool Agent) (task : Nat) (registration : Registration) :
    Pool Agent :=
  pool.updateTask task fun present => { present with registration := registration }

/-- Wakes the task that has been registered longest, or keeps the wake-up as a permit. -/
def wakeOne (pool : Pool Agent) : Pool Agent :=
  match pool.waiting with
  | task :: rest => { pool with waiting := rest }.setRegistration task .wokenAlone
  | [] => { pool with permit := true }

/-- Wakes every registered task. -/
def wakeAll (pool : Pool Agent) : Pool Agent :=
  pool.waiting.foldl (fun present task => present.setRegistration task .wokenWithAll)
    { pool with waiting := [] }

/-- Registers a task for a wake-up; a kept permit is used up at once. -/
def registerTask (pool : Pool Agent) (task : Nat) : Pool Agent :=
  if pool.permit then { pool with permit := false }.setRegistration task .granted
  else { pool with waiting := pool.waiting ++ [task] }.setRegistration task .waiting

/-- Gives a registration up; a wake-up received alone and not acted on is passed on. -/
def dropRegistration (pool : Pool Agent) (task : Nat) : Pool Agent :=
  match pool.tasks[task]?.map PoolTask.registration with
  | some .waiting =>
      { pool with waiting := pool.waiting.erase task }.setRegistration task .none
  | some .wokenAlone => (pool.setRegistration task .none).wakeOne
  | some _ => pool.setRegistration task .none
  | none => pool

/-- Wakes every registered caller that waits for the pool to be idle. -/
def wakeIdleCallers (pool : Pool Agent) : Pool Agent :=
  { pool with idleCallers := pool.idleCallers.map fun caller =>
      match caller.phase with
      | .looking | .parked => { caller with woken := true }
      | .arriving | .returned => caller }

def enqueue (pool : Pool Agent) (name : String) (priority : Nat) : Pool Agent :=
  { pool with
    ready := pool.ready ++ [⟨priority, pool.nextSequence, name⟩]
    nextSequence := pool.nextSequence + 1 }

/-- Adds a work to the pending set of a worker, which becomes ready unless one of its
batches is queued or running.  The later worker of a name replaces the earlier one. -/
def submit (pool : Pool Agent) (worker : Worker Agent) (work : Work) :
    Except BatchFailure (Pool Agent) :=
  if pool.closed then .error .shutDown
  else
    let slot := (pool.slots.get? worker.name).getD ⟨worker, [], false, false⟩
    let slot := { slot with worker := worker, pending := addWork slot.pending work }
    if slot.queued || slot.running then
      .ok { pool with slots := pool.slots.set worker.name slot }
    else
      let stored :=
        { pool with slots := pool.slots.set worker.name { slot with queued := true } }
      .ok { stored.enqueue worker.name worker.priority with
        owedWakeups := pool.owedWakeups + 1 }

/-- The entry that is served first. -/
def leastReady? : List ReadyEntry → Option ReadyEntry
  | [] => none
  | entry :: rest =>
      match leastReady? rest with
      | some least => if entry.precedes least then some entry else some least
      | none => some entry

/-- Takes the first worker off the ready queue and hands its pending works to a task, or
parks the task.  Another task is woken while more workers are ready. -/
def takeBatch (pool : Pool Agent) (task : Nat) : Pool Agent :=
  match leastReady? pool.ready with
  | none => pool.setPhase task .parked
  | some entry =>
      let rest := pool.ready.erase entry
      match pool.slots.get? entry.name with
      | none =>
          let left := { pool with ready := rest }
          let announced := if rest.isEmpty then left else left.wakeOne
          announced.setPhase task .parked
      | some slot =>
          let drained := { slot with pending := [], queued := false, running := true }
          let taken :=
            { pool with
              ready := rest
              slots := pool.slots.set entry.name drained
              active := pool.active + 1 }
          let announced := if rest.isEmpty then taken else taken.wakeOne
          announced.setPhase task (.working ⟨entry.name, slot.worker, slot.pending⟩)

/-- Ends the batch of a task; its worker becomes ready again if it has pending works. -/
def completeBatch (pool : Pool Agent) (task : Nat) (batch : Batch Agent) : Pool Agent :=
  let ended := { pool with active := pool.active - 1 }.setPhase task .releasing
  let requeued :=
    match ended.slots.get? batch.name with
    | none => ended
    | some slot =>
        if slot.pending.isEmpty || ended.closed then
          { ended with slots := ended.slots.set batch.name { slot with running := false } }
        else
          ({ ended with
              slots := ended.slots.set batch.name
                { slot with running := false, queued := true } }.enqueue
            batch.name slot.worker.priority).wakeOne
  if requeued.isIdle then requeued.wakeIdleCallers else requeued

/-- Closes the pool: the ready queue is emptied and no worker stays queued. -/
def close (pool : Pool Agent) : Pool Agent :=
  { pool with
    closed := true
    ready := []
    slots := pool.slots.map fun _ slot => { slot with queued := false } }

def allExited (pool : Pool Agent) : Bool :=
  pool.tasks.all fun task => match task.phase with
    | .exited => true
    | _ => false

/-- The state after an event, or nothing where the event cannot happen. -/
def step (pool : Pool Agent) : PoolEvent Agent → Option (Pool Agent)
  | .submit worker work =>
      match pool.submit worker work with
      | .ok next => some next
      | .error _ => some pool
  | .announce =>
      if pool.owedWakeups = 0 then none
      else some { pool with owedWakeups := pool.owedWakeups - 1 }.wakeOne
  | .register task =>
      match pool.tasks[task]? with
      | some ⟨.arriving, _⟩ => some ((pool.registerTask task).setPhase task .looking)
      | _ => none
  | .look task =>
      match pool.tasks[task]? with
      | some ⟨.looking, _⟩ =>
          some (if pool.closed then pool.setPhase task .exiting else pool.takeBatch task)
      | _ => none
  | .resume task =>
      match pool.tasks[task]? with
      | some ⟨.parked, registration⟩ =>
          if Registration.isReady registration then
            some ((pool.setRegistration task .none).setPhase task .arriving)
          else none
      | _ => none
  | .complete task =>
      match pool.tasks[task]? with
      | some ⟨.working batch, _⟩ => some (pool.completeBatch task batch)
      | _ => none
  | .release task =>
      match pool.tasks[task]? with
      | some ⟨.releasing, _⟩ => some ((pool.dropRegistration task).setPhase task .arriving)
      | some ⟨.exiting, _⟩ => some ((pool.dropRegistration task).setPhase task .exited)
      | _ => none
  | .awaitIdle =>
      some { pool with idleCallers := pool.idleCallers ++ [⟨.arriving, false⟩] }
  | .registerIdle caller =>
      match pool.idleCallers[caller]? with
      | some ⟨.arriving, _⟩ =>
          some { pool with idleCallers := pool.idleCallers.set caller ⟨.looking, false⟩ }
      | _ => none
  | .lookIdle caller =>
      match pool.idleCallers[caller]? with
      | some ⟨.looking, woken⟩ =>
          let next := if pool.isIdle then IdlePhase.returned else .parked
          some { pool with idleCallers := pool.idleCallers.set caller ⟨next, woken⟩ }
      | _ => none
  | .resumeIdle caller =>
      match pool.idleCallers[caller]? with
      | some ⟨.parked, true⟩ =>
          some { pool with idleCallers := pool.idleCallers.set caller ⟨.arriving, false⟩ }
      | _ => none
  | .beginShutdown =>
      if pool.closed then
        some { pool with shutdownCalls := pool.shutdownCalls ++ [.returned] }
      else
        some { pool.close with shutdownCalls := pool.shutdownCalls ++ [.announcing] }
  | .announceShutdown call =>
      match pool.shutdownCalls[call]? with
      | some .announcing =>
          some { pool.wakeAll with shutdownCalls := pool.shutdownCalls.set call .joining }
      | _ => none
  | .finishShutdown call =>
      match pool.shutdownCalls[call]? with
      | some .joining =>
          if pool.allExited then
            some { pool.wakeIdleCallers with
              shutdownCalls := pool.shutdownCalls.set call .returned }
          else none
      | _ => none

end Pool

end EntitySearch.Scheduling
