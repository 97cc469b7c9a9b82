import EntitySearch.Proofs.PoolCoherence
import EntitySearch.Proofs.PoolWorlds
import EntitySearch.Proofs.TableEntries

/-!
# Pools side by side

Two pools in the same state over different worlds go the same way, as long as the
batches that they run do to the one world what they do to the other, up to a
relation between the worlds.  With the relation in which both worlds are the same
one this tells what these batches keep.  Which batches a pool runs is told by a
scope: it holds the agents and the works that are submitted to the pool.
-/

namespace EntitySearch.Scheduling

variable {Agent World : Type}

/-- For which agents works are done, and which works. -/
structure Scope (Agent : Type) where
  agents : Agent → Prop
  works : Work → Prop

def Scope.Covers (scope : Scope Agent) (worker : Worker Agent) (works : List Work) : Prop :=
  scope.agents worker.agent ∧ ∀ work ∈ works, scope.works work

def Scope.both (first second : Scope Agent) : Scope Agent where
  agents agent := first.agents agent ∧ second.agents agent
  works work := first.works work ∧ second.works work

/-- What the event submits, if it submits anything, is within the scope. -/
def Scope.Permits (scope : Scope Agent) : PoolEvent Agent → Prop
  | .submit worker work => scope.Covers worker [work]
  | _ => True

theorem Scope.Covers.nil {scope : Scope Agent} {worker : Worker Agent} {works : List Work}
    (covers : scope.Covers worker works) : scope.Covers worker [] :=
  ⟨covers.1, fun _ inside => by cases inside⟩

theorem Scope.Covers.both {first second : Scope Agent} {worker : Worker Agent}
    {works : List Work} (covered : first.Covers worker works)
    (coveredToo : second.Covers worker works) : (first.both second).Covers worker works :=
  ⟨⟨covered.1, coveredToo.1⟩,
    fun work inside => ⟨covered.2 work inside, coveredToo.2 work inside⟩⟩

namespace Pool

variable {scope : Scope Agent} {pool next : Pool Agent}

/-- All that the pool works on is within the scope: what waits in its slots and the batches that
run. -/
structure Employs (scope : Scope Agent) (pool : Pool Agent) : Prop where
  slots : ∀ name slot, pool.slots.get? name = some slot → scope.Covers slot.worker slot.pending
  batches : ∀ batch ∈ pool.running, scope.Covers batch.worker batch.works

theorem employs_start (scope : Scope Agent) (size : Nat) : (start size).Employs scope where
  slots := by
    intro name slot present
    cases present
  batches := by
    intro batch inside
    obtain ⟨phase, isPhase, working⟩ := List.mem_filterMap.1 inside
    obtain ⟨task, isTask, rfl⟩ := List.mem_map.1 isPhase
    rw [List.eq_of_mem_replicate isTask] at working
    cases working

theorem Employs.mono {other : Scope Agent} (employs : pool.Employs scope)
    (weaker : ∀ worker works, scope.Covers worker works → other.Covers worker works) :
    pool.Employs other where
  slots := fun name slot present => weaker _ _ (employs.slots name slot present)
  batches := fun batch inside => weaker _ _ (employs.batches batch inside)

theorem Employs.both {other : Scope Agent} (first : pool.Employs scope)
    (second : pool.Employs other) : pool.Employs (scope.both other) where
  slots := fun name slot present =>
    (first.slots name slot present).both (second.slots name slot present)
  batches := fun batch inside =>
    (first.batches batch inside).both (second.batches batch inside)

theorem Employs.of_same (employs : pool.Employs scope) (next : Pool Agent)
    (slots : next.slots = pool.slots) (phases : next.phases = pool.phases) :
    next.Employs scope where
  slots := by rw [slots]; exact employs.slots
  batches := by rw [running, phases]; exact employs.batches

theorem Employs.of_sameWork (employs : pool.Employs scope) (same : SameWork pool next) :
    next.Employs scope :=
  employs.of_same next same.slots same.phases

theorem Employs.setSlot (employs : pool.Employs scope) {name : String} (slot : Slot Agent)
    (may : scope.Covers slot.worker slot.pending) (slots : next.slots = pool.slots.set name slot)
    (phases : next.phases = pool.phases) : next.Employs scope where
  slots := by
    intro other found present
    rw [slots] at present
    by_cases same : other = name
    · rw [same, Table.get?_set_self] at present
      cases present
      exact may
    · rw [Table.get?_set_of_ne _ same] at present
      exact employs.slots other found present
  batches := by rw [running, phases]; exact employs.batches

theorem Employs.setPhase (employs : pool.Employs scope) (task : Nat) {phase : Phase Agent}
    (may : ∀ batch, phase.batch? = some batch → scope.Covers batch.worker batch.works) :
    (pool.setPhase task phase).Employs scope where
  slots := employs.slots
  batches := by
    intro batch inside
    rw [running, phases_setPhase, List.mem_filterMap] at inside
    obtain ⟨found, isPhase, working⟩ := inside
    rcases List.mem_or_eq_of_mem_set isPhase with earlier | same
    · exact employs.batches batch (List.mem_filterMap.2 ⟨found, earlier, working⟩)
    · rw [same] at working
      exact may batch working

theorem Employs.wakeIfIdle (employs : pool.Employs scope) : pool.wakeIfIdle.Employs scope := by
  unfold Pool.wakeIfIdle
  split
  · exact employs.of_same _ rfl rfl
  · exact employs

/-- A slot keeps its pending works when one more is submitted, now for the new worker. -/
theorem Employs.submittedSlot (employs : pool.Employs scope) {worker : Worker Agent} {work : Work}
    (may : scope.Covers worker [work]) :
    scope.Covers (pool.submittedSlot worker work).worker
      (pool.submittedSlot worker work).pending := by
  refine ⟨may.1, fun member inside => ?_⟩
  rcases mem_addWork.1 inside with waited | rfl
  · cases present : pool.slots.get? worker.name with
    | none =>
        rw [present] at waited
        cases waited
    | some slot =>
        rw [present] at waited
        exact (employs.slots worker.name slot present).2 member waited
  · exact may.2 member List.mem_cons_self

theorem Employs.moves {event : PoolEvent Agent} (employs : pool.Employs scope)
    (may : scope.Permits event) (moved : Moves pool event next) : next.Employs scope := by
  have idle : ∀ phase : Phase Agent, phase.batch? = none →
      ∀ batch, phase.batch? = some batch → scope.Covers batch.worker batch.works := by
    intro phase none batch some
    rw [none] at some
    cases some
  cases moved with
  | submitRefused => exact employs
  | @submitWaits worker work =>
      exact employs.setSlot (pool.submittedSlot worker work)
        (employs.submittedSlot may) rfl rfl
  | @submitReady worker work =>
      exact employs.setSlot { pool.submittedSlot worker work with queued := true }
        (employs.submittedSlot may) rfl rfl
  | announce =>
      exact (employs.of_same { pool with owedWakeups := pool.owedWakeups - 1 }
        rfl rfl).of_sameWork (sameWork_wakeOne _)
  | @register task =>
      exact (employs.of_sameWork (sameWork_registerTask pool task)).setPhase task (idle _ rfl)
  | lookClosed => exact employs.setPhase _ (idle _ rfl)
  | lookParks => exact employs.setPhase _ (idle _ rfl)
  | @lookSkips task entry _ _ _ _ _ wakes =>
      exact ((employs.of_same (pool.withSkipped entry) rfl rfl).of_sameWork
        (sameWork_woken wakes)).setPhase task (idle _ rfl)
  | @lookTakes task entry slot _ _ _ known taken wakes =>
      have hired := employs.slots entry.name slot known
      have drained : (pool.withDrained entry slot).Employs scope :=
        employs.setSlot { slot with pending := [], queued := false, running := true }
          hired.nil rfl rfl
      refine (drained.of_sameWork (sameWork_woken wakes)).setPhase task fun batch same => ?_
      cases same
      exact hired
  | @resume task =>
      exact (employs.of_sameWork (sameWork_setRegistration pool task _)).setPhase task
        (idle _ rfl)
  | @completeRests task batch slot _ known =>
      have hired := employs.slots batch.name slot known
      refine Employs.wakeIfIdle ?_
      exact ((employs.of_same { pool with active := pool.active - 1 }
        rfl rfl).setPhase task (idle .releasing rfl)).setSlot
          { slot with running := false } hired rfl rfl
  | @completeRequeues task batch slot _ known =>
      have hired := employs.slots batch.name slot known
      refine Employs.wakeIfIdle (Employs.of_sameWork ?_ (sameWork_wakeOne _))
      exact ((employs.of_same { pool with active := pool.active - 1 }
        rfl rfl).setPhase task (idle .releasing rfl)).setSlot
          { slot with running := false, queued := true } hired rfl rfl
  | @completeForgets task =>
      exact ((employs.of_same { pool with active := pool.active - 1 }
        rfl rfl).setPhase task (idle _ rfl)).wakeIfIdle
  | @release task =>
      exact (employs.of_sameWork (sameWork_dropRegistration pool task)).setPhase task (idle _ rfl)
  | @exit task =>
      exact (employs.of_sameWork (sameWork_dropRegistration pool task)).setPhase task (idle _ rfl)
  | shutdown =>
      refine ⟨fun name slot present => ?_, employs.batches⟩
      have closed : (pool.slots.map fun _ slot => { slot with queued := false }).get? name =
          some slot := present
      rw [Table.get?_map] at closed
      obtain ⟨earlier, known, rfl⟩ := Option.map_eq_some_iff.1 closed
      exact employs.slots name earlier known
  | announceShutdown =>
      exact (employs.of_sameWork (sameWork_wakeAll pool)).of_same _ rfl rfl
  | _ => exact employs.of_same _ rfl rfl

end Pool

/-- Batches within the scope do related things to related worlds, and take the same course in
both. -/
structure BatchBehavior.Relates (behavior : BatchBehavior Agent World) (scope : Scope Agent)
    (related : World → World → Prop) : Prop where
  start : ∀ world other now batch, scope.Covers batch.worker batch.works → related world other →
    related (behavior.start world now batch).1 (behavior.start other now batch).1 ∧
      (behavior.start other now batch).2 = (behavior.start world now batch).2
  finish : ∀ world other now batch slept, scope.Covers batch.worker batch.works →
    related world other →
    related (behavior.finish world now batch slept).1 (behavior.finish other now batch slept).1 ∧
      (behavior.finish other now batch slept).2 = (behavior.finish world now batch slept).2
  hires : ∀ world now batch slept, scope.Covers batch.worker batch.works →
    ∀ submission ∈ (behavior.finish world now batch slept).2.1,
      scope.Covers submission.1 [submission.2]
  refused : ∀ world other failure, related world other →
    related (behavior.refused world failure) (behavior.refused other failure)

namespace Timeline

variable {behavior : BatchBehavior Agent World} {scope : Scope Agent}
  {related : World → World → Prop} {line other : Timeline Agent World}

/-- The second pool is in the state of the first, over a related world, and what both work on is
within the scope. -/
inductive Beside (scope : Scope Agent) (related : World → World → Prop)
    (line : Timeline Agent World) : Timeline Agent World → Prop
  | onWorld (world : World) (employs : line.pool.Employs scope)
      (isRelated : related line.world world) :
      Beside scope related line { line with world := world }

theorem beside_onWorld (line : Timeline Agent World) (world : World)
    (employs : line.pool.Employs scope) (isRelated : related line.world world) :
    Beside scope related line { line with world := world } :=
  .onWorld world employs isRelated

theorem Beside.pool (beside : Beside scope related line other) : other.pool = line.pool := by
  cases beside
  rfl

theorem Beside.employs (beside : Beside scope related line other) :
    line.pool.Employs scope := by
  cases beside
  assumption

theorem Beside.isRelated (beside : Beside scope related line other) :
    related line.world other.world := by
  cases beside
  assumption

theorem Beside.happen (beside : Beside scope related line other) (event : PoolEvent Agent)
    (may : scope.Permits event) :
    Beside scope related (line.happen event) (other.happen event) := by
  cases beside with
  | onWorld world employs isRelated =>
      unfold Timeline.happen
      simp only
      split
      · rename_i pool stepped
        exact beside_onWorld (line.afterStep pool) world
          (employs.moves may (Pool.moves_of_step stepped)) isRelated
      · exact .onWorld world employs isRelated

theorem Beside.count (beside : Beside scope related line other) (name : String)
    (change : BatchTally → BatchTally) :
    Beside scope related (line.count name change) (other.count name change) := by
  cases beside with
  | onWorld world employs isRelated =>
      exact beside_onWorld (line.count name change) world employs isRelated

theorem Beside.submit (beside : Beside scope related line other) {worker : Worker Agent}
    {work : Work} (may : scope.Covers worker [work]) :
    (∃ failure, line.submit worker work = .error failure ∧
        other.submit worker work = .error failure) ∨
      ∃ next otherNext, line.submit worker work = .ok next ∧
        other.submit worker work = .ok otherNext ∧ Beside scope related next otherNext := by
  cases beside with
  | onWorld world employs isRelated =>
      unfold Timeline.submit
      simp only
      cases submitted : line.pool.submit worker work with
      | error failure => exact Or.inl ⟨failure, rfl, rfl⟩
      | ok pool =>
          have stepped : line.pool.step (.submit worker work) = some pool := by
            simp only [Pool.step, submitted]
          have employsNext : pool.Employs scope :=
            employs.moves (show scope.Permits (.submit worker work) from may)
              (Pool.moves_of_step stepped)
          have taken := beside_onWorld (line.afterStep pool) world employsNext isRelated
          exact Or.inr ⟨_, _, rfl, rfl, taken.happen .announce trivial⟩

section

variable (relates : behavior.Relates scope related)

include relates

theorem Beside.submitAll (beside : Beside scope related line other)
    {works : List (Worker Agent × Work)}
    (may : ∀ submission ∈ works, scope.Covers submission.1 [submission.2]) :
    Beside scope related (submitAll behavior line works) (submitAll behavior other works) := by
  induction works generalizing line other with
  | nil => exact beside
  | cons first works ih =>
      obtain ⟨worker, work⟩ := first
      have mayRest := fun submission inside => may submission (List.mem_cons_of_mem _ inside)
      unfold Timeline.submitAll
      rcases beside.submit (may _ List.mem_cons_self) with
        ⟨failure, refused, otherRefused⟩ | ⟨next, otherNext, taken, otherTaken, besideNext⟩
      · simp only [refused, otherRefused]
        cases beside with
        | onWorld world employs isRelated =>
            exact ih (beside_onWorld { line with
              world := behavior.refused line.world failure } _ employs
                (relates.refused _ _ failure isRelated)) mayRest
      · simp only [taken, otherTaken]
        exact ih besideNext mayRest

theorem Beside.finishBatch (beside : Beside scope related line other) (task : Nat)
    {batch : Batch Agent} (may : scope.Covers batch.worker batch.works) (slept : Bool) :
    Beside scope related (finishBatch behavior line task batch slept)
      (finishBatch behavior other task batch slept) := by
  cases beside with
  | onWorld world employs isRelated =>
      obtain ⟨isRelatedNext, sameCourse⟩ :=
        relates.finish line.world world line.now batch slept may isRelated
      unfold Timeline.finishBatch
      simp only [sameCourse]
      have submitted := Beside.submitAll relates (beside_onWorld { line with
        world := (behavior.finish line.world line.now batch slept).1 } _ employs
          isRelatedNext) (relates.hires line.world line.now batch slept may)
      exact ((submitted.count batch.name _).happen (.complete task) trivial).happen
        (.release task) trivial

theorem Beside.startBatch (beside : Beside scope related line other) (task : Nat)
    {batch : Batch Agent} (may : scope.Covers batch.worker batch.works) :
    Beside scope related (startBatch behavior line task batch)
      (startBatch behavior other task batch) := by
  have counted := beside.count batch.name (·.countStart batch.works.length)
  unfold Timeline.startBatch
  generalize line.count batch.name (·.countStart batch.works.length) = line at *
  generalize other.count batch.name (·.countStart batch.works.length) = other at *
  cases counted with
  | onWorld world employs isRelated =>
      obtain ⟨isRelatedNext, sameSleep⟩ :=
        relates.start line.world world line.now batch may isRelated
      cases started : behavior.start line.world line.now batch with
      | mk next sleep =>
          cases otherStarted : behavior.start world line.now batch with
          | mk otherNext otherSleep =>
              rw [started, otherStarted] at isRelatedNext sameSleep
              cases sameSleep
              simp only [started, otherStarted]
              cases sleep with
              | some duration =>
                  exact beside_onWorld { line with
                    world := next
                    sleepers := line.sleepers ++ [⟨task, line.now + duration⟩] } otherNext
                      employs isRelatedNext
              | none =>
                  exact Beside.finishBatch relates (beside_onWorld { line with
                    world := next } otherNext employs isRelatedNext) task may false

theorem Beside.runTask (beside : Beside scope related line other) (allowance task : Nat) :
    Beside scope related (runTask behavior allowance line task)
      (runTask behavior allowance other task) := by
  induction allowance generalizing line other with
  | zero => exact beside
  | succ allowance ih =>
      unfold Timeline.runTask
      rw [beside.pool]
      split
      · have looked := (beside.happen (.register task) trivial).happen (.look task) trivial
        simp only
        rw [looked.pool]
        split
        · rename_i batch _ working
          have isRunning := Pool.Coherent.mem_running (Pool.phases_of_task working).1
          exact ih (looked.startBatch relates task (looked.employs.batches batch isRunning))
        · exact ih looked
      · split
        · exact ih (beside.happen _ trivial)
        · exact beside
      · exact beside.happen _ trivial
      · exact beside

theorem Beside.runReady (beside : Beside scope related line other) (allowance : Nat) :
    Beside scope related (runReady behavior allowance line)
      (runReady behavior allowance other) := by
  induction allowance generalizing line other with
  | zero => exact beside
  | succ allowance ih =>
      cases beside with
      | onWorld world employs isRelated =>
          unfold Timeline.runReady
          simp only
          split
          · exact .onWorld world employs isRelated
          · rename_i task rest _
            exact ih (Beside.runTask relates (beside_onWorld { line with
              runnable := rest } world employs isRelated) (allowance + 1) task)

theorem Beside.wake (beside : Beside scope related line other) (allowance : Nat)
    (sleeper : Sleeper) :
    Beside scope related (wake behavior allowance line sleeper)
      (wake behavior allowance other sleeper) := by
  cases beside with
  | onWorld world employs isRelated =>
      have awake := beside_onWorld { line with
        now := max line.now sleeper.deadline
        sleepers := line.sleepers.erase sleeper } world employs isRelated
      unfold Timeline.wake
      simp only
      split
      · rename_i batch _ working
        have isRunning := Pool.Coherent.mem_running (Pool.phases_of_task working).1
        exact (awake.finishBatch relates sleeper.task (employs.batches batch isRunning)
          true).runTask relates allowance sleeper.task
      · exact awake

theorem Beside.runUntil (beside : Beside scope related line other) (done : Pool Agent → Bool)
    (horizon : Option Nat) (allowance : Nat) :
    Beside scope related (runUntil behavior done horizon allowance line)
      (runUntil behavior done horizon allowance other) := by
  induction allowance generalizing line other with
  | zero => exact beside
  | succ allowance ih =>
      have settled := beside.runReady relates (allowance + 1)
      unfold Timeline.runUntil
      generalize Timeline.runReady behavior (allowance + 1) line = line at *
      generalize Timeline.runReady behavior (allowance + 1) other = other at *
      have woken := fun sleeper => ih (settled.wake relates (allowance + 1) sleeper)
      cases settled with
      | onWorld world employs isRelated =>
          simp only
          split
          · exact .onWorld world employs isRelated
          · split
            · exact .onWorld world employs isRelated
            · split
              · exact .onWorld world employs isRelated
              · exact woken _

theorem Beside.settle (beside : Beside scope related line other) (allowance : Nat) :
    Beside scope related (settle behavior allowance line)
      (settle behavior allowance other) := by
  unfold Timeline.settle
  rw [beside.pool]
  split
  · exact beside
  · exact beside.runUntil relates _ _ _

theorem Beside.shutDown (beside : Beside scope related line other) (allowance : Nat) :
    Beside scope related (shutDown behavior allowance line)
      (shutDown behavior allowance other) := by
  unfold Timeline.shutDown
  rw [beside.pool]
  have closing := (beside.happen .beginShutdown trivial).happen
    (.announceShutdown line.pool.shutdownCalls.length) trivial
  exact (closing.runUntil relates _ _ _).happen (.finishShutdown _) trivial

end

end Timeline

/-- Whatever the batches within the scope do with the world keeps the property, and they leave no
works behind. -/
structure BatchBehavior.KeepsFor (behavior : BatchBehavior Agent World) (scope : Scope Agent)
    (property : World → Prop) : Prop where
  start : ∀ world now batch, scope.Covers batch.worker batch.works → property world →
    property (behavior.start world now batch).1
  finish : ∀ world now batch slept, scope.Covers batch.worker batch.works → property world →
    property (behavior.finish world now batch slept).1
  hires : ∀ world now batch slept, (behavior.finish world now batch slept).2.1 = []
  refused : ∀ world failure, property world → property (behavior.refused world failure)

section

variable {behavior : BatchBehavior Agent World} {scope : Scope Agent}
  {property : World → Prop} {line : Timeline Agent World}

theorem BatchBehavior.KeepsFor.relates (keeps : behavior.KeepsFor scope property) :
    behavior.Relates scope fun world other => other = world ∧ property world where
  start := by
    rintro world _ now batch may ⟨rfl, holds⟩
    exact ⟨⟨rfl, keeps.start _ now batch may holds⟩, rfl⟩
  finish := by
    rintro world _ now batch slept may ⟨rfl, holds⟩
    exact ⟨⟨rfl, keeps.finish _ now batch slept may holds⟩, rfl⟩
  hires := by
    intro world now batch slept _ submission inside
    rw [keeps.hires] at inside
    cases inside
  refused := by
    rintro world _ failure ⟨rfl, holds⟩
    exact ⟨rfl, keeps.refused _ failure holds⟩

theorem Timeline.Beside.refl (employs : line.pool.Employs scope) (holds : property line.world) :
    Beside scope (fun world other => other = world ∧ property world) line line :=
  .onWorld line.world employs ⟨rfl, holds⟩

theorem Timeline.employs_submit (employs : line.pool.Employs scope) {worker : Worker Agent}
    {work : Work} (may : scope.Covers worker [work]) {next : Timeline Agent World}
    (taken : line.submit worker work = .ok next) : next.pool.Employs scope := by
  have unmoved : Timeline.Beside scope (fun world other => other = world ∧ True) line line :=
    .onWorld line.world employs ⟨rfl, trivial⟩
  rcases unmoved.submit may with ⟨failure, refused, _⟩ | ⟨found, _, isFound, _, beside⟩
  · rw [refused] at taken
    cases taken
  · cases isFound.symm.trans taken
    exact beside.employs

/-- A pool that settles keeps what the batches within its scope keep. -/
theorem BatchBehavior.KeepsFor.settle (keeps : behavior.KeepsFor scope property)
    (employs : line.pool.Employs scope) (holds : property line.world) (allowance : Nat) :
    property (line.settle behavior allowance).world ∧
      (line.settle behavior allowance).pool.Employs scope := by
  have settled := (Timeline.Beside.refl employs holds).settle keeps.relates allowance
  exact ⟨settled.isRelated.2, settled.employs⟩

theorem BatchBehavior.KeepsFor.shutDown (keeps : behavior.KeepsFor scope property)
    (employs : line.pool.Employs scope) (holds : property line.world) (allowance : Nat) :
    property (line.shutDown behavior allowance).world ∧
      (line.shutDown behavior allowance).pool.Employs scope := by
  have down := (Timeline.Beside.refl employs holds).shutDown keeps.relates allowance
  exact ⟨down.isRelated.2, down.employs⟩

end

end EntitySearch.Scheduling
