import EntitySearch.Collection.Total
import EntitySearch.Scheduling.Timeline

/-!
# Rehearsing a pool

Workers that follow a script show how a pool schedules batches: each batch logs
its start, sleeps for the scripted time, logs its end, submits the scripted
works, and ends in the scripted way.  Several workers may share one name, so a
script refers to a worker by a key.
-/

namespace EntitySearch.Rehearsal

open Scheduling

/-- What one batch of a scripted worker does. -/
structure ScriptedBatch where
  duration : Option Nat
  submissions : List (String × Work)
  outcome : BatchOutcome

/-- The batch that a script leaves open. -/
def ScriptedBatch.silent : ScriptedBatch := ⟨none, [], .success⟩

structure ScriptedWorker where
  key : String
  name : String
  priority : Nat
  script : List ScriptedBatch

/-- The worker as the pool knows it. -/
def ScriptedWorker.worker (scripted : ScriptedWorker) : Worker String :=
  ⟨scripted.name, scripted.priority, scripted.key⟩

/-- What the batches of a rehearsal report. -/
inductive LogEntry
  | started (time : Nat) (name : String) (works : List Work)
  | ended (time : Nat) (name : String)
  | refused (failure : BatchFailure)

/-- The scripted workers, how many batches each has begun, and the log, latest entry
first. -/
structure PoolStage where
  workers : List ScriptedWorker
  begun : Table String Nat
  log : List LogEntry

namespace PoolStage

def worker? (stage : PoolStage) (key : String) : Option ScriptedWorker :=
  stage.workers.find? (·.key == key)

/-- How many batches a worker has begun. -/
def begunBy (stage : PoolStage) (key : String) : Nat :=
  (stage.begun.get? key).getD 0

/-- The batch of a worker's script at a place. -/
def batchAt (stage : PoolStage) (key : String) (place : Nat) : ScriptedBatch :=
  (((stage.worker? key).map (·.script)).getD [])[place]?.getD ScriptedBatch.silent

/-- The works in the order in which the log shows them: identifiers ascending, then the
scan. -/
def sortedWorks (works : List Work) : List Work :=
  (entityIds works).map Work.entity ++ works.filter (· == .scan)

def note (stage : PoolStage) (entry : LogEntry) : PoolStage :=
  { stage with log := entry :: stage.log }

def behavior : BatchBehavior String PoolStage where
  start stage time batch :=
    let key := batch.worker.agent
    let scripted := stage.batchAt key (stage.begunBy key)
    let noted := stage.note (.started time batch.name (sortedWorks batch.works))
    ({ noted with begun := noted.begun.set key (stage.begunBy key + 1) }, scripted.duration)
  finish stage time batch slept :=
    let key := batch.worker.agent
    let scripted := stage.batchAt key (stage.begunBy key - 1)
    let noted := if slept then stage.note (.ended time batch.name) else stage
    let works := scripted.submissions.filterMap fun (receiver, work) =>
      (stage.worker? receiver).map fun receiver => (receiver.worker, work)
    (noted, works, scripted.outcome)
  refused stage failure := stage.note (.refused failure)

end PoolStage

inductive PoolStep
  | submit (key : String) (works : List Work)
  | pending (name : String)
  | advance (duration : Nat)
  | idle
  | shutdown
  | counters (name : String)

/-- What a step shows. -/
inductive PoolReport
  | submitted (failure : Option BatchFailure) (pending : Nat)
  | pending (count : Nat)
  | logged (entries : List LogEntry)
  | counted (tally : BatchTally)
  | unknownWorker

/-- A pool with scripted workers in virtual time. -/
abbrev PoolRehearsal := Timeline String PoolStage

namespace PoolRehearsal

def start (size : Nat) (workers : List ScriptedWorker) : PoolRehearsal :=
  Timeline.start size ⟨workers, Table.empty, []⟩

/-- Takes the log since the last time it was taken, oldest entry first. -/
def takeLog (rehearsal : PoolRehearsal) : PoolRehearsal × PoolReport :=
  ({ rehearsal with world := { rehearsal.world with log := [] } },
    .logged rehearsal.world.log.reverse)

/-- Submits works one by one; the last refusal is reported. -/
def submitEach (worker : Worker String) :
    PoolRehearsal → Option BatchFailure → List Work → PoolRehearsal × Option BatchFailure
  | rehearsal, failure, [] => (rehearsal, failure)
  | rehearsal, failure, work :: rest =>
      match Timeline.submit rehearsal worker work with
      | .ok next => submitEach worker next failure rest
      | .error refusal => submitEach worker rehearsal (some refusal) rest

def take (allowance : Nat) (rehearsal : PoolRehearsal) :
    PoolStep → PoolRehearsal × PoolReport
  | .submit key works =>
      match rehearsal.world.worker? key with
      | none => (rehearsal, .unknownWorker)
      | some scripted =>
          let (next, failure) := submitEach scripted.worker rehearsal none works
          (next, .submitted failure (next.pool.pendingCount scripted.name))
  | .pending name => (rehearsal, .pending (rehearsal.pool.pendingCount name))
  | .advance duration =>
      takeLog (Timeline.advance PoolStage.behavior allowance rehearsal duration)
  | .idle => takeLog (Timeline.settle PoolStage.behavior allowance rehearsal)
  | .shutdown => takeLog (Timeline.shutDown PoolStage.behavior allowance rehearsal)
  | .counters name => (rehearsal, .counted (rehearsal.tally name))

def takeAll (allowance : Nat) (rehearsal : PoolRehearsal) : List PoolStep → List PoolReport
  | [] => []
  | step :: rest =>
      let (next, report) := take allowance rehearsal step
      report :: takeAll allowance next rest

/-- More steps than the scripted batches and the submitted works can make a pool take. -/
def allowanceFor (size : Nat) (workers : List ScriptedWorker) (steps : List PoolStep) : Nat :=
  let scripted := totalOf (workers.map fun worker =>
    totalOf (worker.script.map fun batch => batch.submissions.length + 1))
  let submitted := totalOf (steps.map fun
    | .submit _ works => works.length
    | _ => 0)
  (size + 2) * (scripted + submitted + workers.length + 2) * 10

def run (size : Nat) (workers : List ScriptedWorker) (steps : List PoolStep) :
    List PoolReport :=
  takeAll (allowanceFor size workers steps) (start size workers) steps

end PoolRehearsal

end EntitySearch.Rehearsal
