import EntitySearch.Scheduling.Pool

/-!
# Running a pool in virtual time

A pool whose tasks share one thread is run by a clock that jumps to the next
timer when nothing else can happen.  A batch does its work at the moment at
which it starts and may then sleep; what it does afterwards happens when it
wakes.  Tasks that can go on wait in line in the order in which they were woken.
-/

namespace EntitySearch.Scheduling

/-- How a batch ended. -/
inductive BatchOutcome
  | success
  | failure
  | panic
deriving Repr, DecidableEq

/-- What a pool does with a world around it: `start` does the work of a batch and may ask
for a sleep, and `finish` does what follows the sleep, which may be to submit works. -/
structure BatchBehavior (Agent World : Type) where
  start : World → Nat → Batch Agent → World × Option Nat
  finish : World → Nat → Batch Agent → Bool → World × List (Worker Agent × Work) × BatchOutcome
  refused : World → BatchFailure → World

/-- The batches of one worker name, counted by outcome, with the works drained for them and
the batches that are running. -/
structure BatchTally where
  success : Nat
  failure : Nat
  panic : Nat
  works : Nat
  running : Nat
deriving Repr, DecidableEq, Inhabited

namespace BatchTally

def zero : BatchTally := ⟨0, 0, 0, 0, 0⟩

def countStart (tally : BatchTally) (works : Nat) : BatchTally :=
  { tally with works := tally.works + works, running := tally.running + 1 }

def countEnd (tally : BatchTally) (outcome : BatchOutcome) : BatchTally :=
  let ended := { tally with running := tally.running - 1 }
  match outcome with
  | .success => { ended with success := ended.success + 1 }
  | .failure => { ended with failure := ended.failure + 1 }
  | .panic => { ended with panic := ended.panic + 1 }

def ended (tally : BatchTally) : Nat :=
  tally.success + tally.failure + tally.panic

end BatchTally

structure Sleeper where
  task : Nat
  deadline : Nat
deriving Repr, DecidableEq

/-- A pool in virtual time. -/
structure Timeline (Agent World : Type) where
  pool : Pool Agent
  world : World
  now : Nat
  runnable : List Nat
  sleepers : List Sleeper
  tallies : Table String BatchTally

namespace Timeline

variable {Agent World : Type}

/-- A new pool at time zero; its tasks have not run yet. -/
def start (size : Nat) (world : World) : Timeline Agent World where
  pool := Pool.start size
  world := world
  now := 0
  runnable := List.range (Pool.effectiveSize size)
  sleepers := []
  tallies := Table.empty

def tally (line : Timeline Agent World) (name : String) : BatchTally :=
  (line.tallies.get? name).getD BatchTally.zero

def count (line : Timeline Agent World) (name : String)
    (change : BatchTally → BatchTally) : Timeline Agent World :=
  { line with tallies := line.tallies.set name (change (line.tally name)) }

/-- Whether a parked task has been woken. -/
def isWoken (pool : Pool Agent) (task : Nat) : Bool :=
  match pool.tasks[task]? with
  | some ⟨.parked, registration⟩ => Registration.isReady registration
  | _ => false

/-- Puts the parked tasks that a step of the pool has woken in line. -/
def afterStep (line : Timeline Agent World) (pool : Pool Agent) : Timeline Agent World :=
  let woken := (List.range pool.tasks.length).filter fun task =>
    isWoken pool task && !line.runnable.contains task
  { line with pool := pool, runnable := line.runnable ++ woken }

/-- Lets an event happen; nothing changes where it cannot. -/
def happen (line : Timeline Agent World) (event : PoolEvent Agent) : Timeline Agent World :=
  match line.pool.step event with
  | some pool => line.afterStep pool
  | none => line

/-- Submits a work and delivers the wake-up that it owes. -/
def submit (line : Timeline Agent World) (worker : Worker Agent) (work : Work) :
    Except BatchFailure (Timeline Agent World) :=
  match line.pool.submit worker work with
  | .error failure => .error failure
  | .ok pool => .ok ((line.afterStep pool).happen .announce)

variable (behavior : BatchBehavior Agent World)

/-- Submits the works that a batch leaves behind. -/
def submitAll (line : Timeline Agent World) :
    List (Worker Agent × Work) → Timeline Agent World
  | [] => line
  | (worker, work) :: rest =>
      match line.submit worker work with
      | .ok next => submitAll next rest
      | .error failure =>
          submitAll { line with world := behavior.refused line.world failure } rest

/-- Ends a batch: what follows its sleep, the tally, and the completion. -/
def finishBatch (line : Timeline Agent World) (task : Nat) (batch : Batch Agent)
    (slept : Bool) : Timeline Agent World :=
  let (world, works, outcome) := behavior.finish line.world line.now batch slept
  let submitted := submitAll behavior { line with world := world } works
  let counted := submitted.count batch.name (·.countEnd outcome)
  (counted.happen (.complete task)).happen (.release task)

/-- Starts a batch: its work, the tally, and its sleep or its end. -/
def startBatch (line : Timeline Agent World) (task : Nat) (batch : Batch Agent) :
    Timeline Agent World :=
  let counted := line.count batch.name (·.countStart batch.works.length)
  let (world, sleep) := behavior.start counted.world counted.now batch
  match sleep with
  | some duration =>
      { counted with
        world := world
        sleepers := counted.sleepers ++ [⟨task, counted.now + duration⟩] }
  | none => finishBatch behavior { counted with world := world } task batch false

/-- Runs a task until it parks, sleeps or exits; the allowance bounds its batches. -/
def runTask : Nat → Timeline Agent World → Nat → Timeline Agent World
  | 0, line, _ => line
  | allowance + 1, line, task =>
      match line.pool.tasks[task]? with
      | some ⟨.arriving, _⟩ =>
          let looked := (line.happen (.register task)).happen (.look task)
          match looked.pool.tasks[task]? with
          | some ⟨.working batch, _⟩ =>
              runTask allowance (startBatch behavior looked task batch) task
          | _ => runTask allowance looked task
      | some ⟨.parked, registration⟩ =>
          if Registration.isReady registration then
            runTask allowance (line.happen (.resume task)) task
          else line
      | some ⟨.exiting, _⟩ => line.happen (.release task)
      | _ => line

/-- Runs the tasks in line until none can go on. -/
def runReady : Nat → Timeline Agent World → Timeline Agent World
  | 0, line => line
  | allowance + 1, line =>
      match line.runnable with
      | [] => line
      | task :: rest =>
          runReady allowance (runTask behavior (allowance + 1) { line with runnable := rest } task)

/-- The sleeper that wakes first, the one that fell asleep first among equals. -/
def nextSleeper? : List Sleeper → Option Sleeper
  | [] => none
  | sleeper :: rest =>
      match nextSleeper? rest with
      | some next => if next.deadline < sleeper.deadline then some next else some sleeper
      | none => some sleeper

/-- Wakes a sleeper: its batch ends, and its task goes on. -/
def wake (allowance : Nat) (line : Timeline Agent World) (sleeper : Sleeper) :
    Timeline Agent World :=
  let awake : Timeline Agent World :=
    { line with
      now := max line.now sleeper.deadline
      sleepers := line.sleepers.erase sleeper }
  match awake.pool.tasks[sleeper.task]? with
  | some ⟨.working batch, _⟩ =>
      runTask behavior allowance (finishBatch behavior awake sleeper.task batch true)
        sleeper.task
  | _ => awake

/-- Runs the pool until the test holds, until nothing more can happen, or until the next
timer lies beyond the horizon. -/
def runUntil (done : Pool Agent → Bool) (horizon : Option Nat) :
    Nat → Timeline Agent World → Timeline Agent World
  | 0, line => line
  | allowance + 1, line =>
      let settled := runReady behavior (allowance + 1) line
      if done settled.pool then settled
      else
        match nextSleeper? settled.sleepers with
        | none => settled
        | some sleeper =>
            if horizon.any (· < sleeper.deadline) then settled
            else runUntil done horizon allowance (wake behavior (allowance + 1) settled sleeper)

def advance (allowance : Nat) (line : Timeline Agent World) (duration : Nat) :
    Timeline Agent World :=
  let target := line.now + duration
  let moved := runUntil behavior (fun _ => false) (some target) allowance line
  { moved with now := target }

/-- Runs the pool until it is idle; nothing happens in a pool that is idle already. -/
def settle (allowance : Nat) (line : Timeline Agent World) : Timeline Agent World :=
  if line.pool.isIdle then line
  else runUntil behavior Pool.isIdle none allowance line

/-- Closes the pool and runs it until every task has exited. -/
def shutDown (allowance : Nat) (line : Timeline Agent World) : Timeline Agent World :=
  let call := line.pool.shutdownCalls.length
  let closing := (line.happen .beginShutdown).happen (.announceShutdown call)
  let drained := runUntil behavior Pool.allExited none allowance closing
  drained.happen (.finishShutdown call)

end Timeline

end EntitySearch.Scheduling
