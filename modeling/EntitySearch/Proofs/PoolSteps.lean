import EntitySearch.Scheduling.Pool

/-!
# Steps of the pool

What one step of the pool can do, case by case with what it requires.  Waking
tasks and giving registrations up change nothing but registrations; moving a task
to another phase changes nothing but its phase.
-/

namespace EntitySearch.Scheduling

/-- The batch that a task in this phase executes. -/
def Phase.batch? {Agent : Type} : Phase Agent → Option (Batch Agent)
  | .working batch => some batch
  | _ => none

theorem map_modify_of_eq {Source Image : Type} {image : Source → Image}
    {change : Source → Source} (same : ∀ member, image (change member) = image member)
    (members : List Source) (place : Nat) :
    (members.modify place change).map image = members.map image := by
  apply List.ext_getElem?
  intro other
  simp only [List.getElem?_map, List.getElem?_modify]
  split
  · cases members[other]? <;> simp [same]
  · simp

theorem map_modify_eq_set {Source Image : Type} {image : Source → Image}
    {change : Source → Source} {value : Image} (becomes : ∀ member, image (change member) = value)
    (members : List Source) (place : Nat) :
    (members.modify place change).map image = (members.map image).set place value := by
  apply List.ext_getElem?
  intro other
  simp only [List.getElem?_map, List.getElem?_modify, List.getElem?_set, List.length_map]
  split
  case isTrue same =>
    subst same
    by_cases inside : place < members.length
    · simp [inside, becomes]
    · simp [inside]
  case isFalse => simp

namespace Pool

variable {Agent : Type}

def phases (pool : Pool Agent) : List (Phase Agent) :=
  pool.tasks.map PoolTask.phase

def registrations (pool : Pool Agent) : List Registration :=
  pool.tasks.map PoolTask.registration

def running (pool : Pool Agent) : List (Batch Agent) :=
  pool.phases.filterMap Phase.batch?

@[simp]
theorem phases_setPhase (pool : Pool Agent) (task : Nat) (phase : Phase Agent) :
    (pool.setPhase task phase).phases = pool.phases.set task phase :=
  map_modify_eq_set (by intro present; rfl) pool.tasks task

@[simp]
theorem registrations_setPhase (pool : Pool Agent) (task : Nat) (phase : Phase Agent) :
    (pool.setPhase task phase).registrations = pool.registrations :=
  map_modify_of_eq (by intro present; rfl) pool.tasks task

@[simp]
theorem phases_setRegistration (pool : Pool Agent) (task : Nat)
    (registration : Registration) :
    (pool.setRegistration task registration).phases = pool.phases :=
  map_modify_of_eq (by intro present; rfl) pool.tasks task

@[simp]
theorem registrations_setRegistration (pool : Pool Agent) (task : Nat)
    (registration : Registration) :
    (pool.setRegistration task registration).registrations =
      pool.registrations.set task registration :=
  map_modify_eq_set (by intro present; rfl) pool.tasks task

/-- Two states that differ in the wake-ups of the tasks at most. -/
structure SameWork (pool next : Pool Agent) : Prop where
  slots : next.slots = pool.slots
  ready : next.ready = pool.ready
  nextSequence : next.nextSequence = pool.nextSequence
  active : next.active = pool.active
  closed : next.closed = pool.closed
  phases : next.phases = pool.phases
  owedWakeups : next.owedWakeups = pool.owedWakeups
  idleCallers : next.idleCallers = pool.idleCallers
  shutdownCalls : next.shutdownCalls = pool.shutdownCalls

theorem SameWork.refl (pool : Pool Agent) : SameWork pool pool :=
  ⟨rfl, rfl, rfl, rfl, rfl, rfl, rfl, rfl, rfl⟩

theorem SameWork.trans {first second third : Pool Agent} (before : SameWork first second)
    (behind : SameWork second third) : SameWork first third where
  slots := behind.slots.trans before.slots
  ready := behind.ready.trans before.ready
  nextSequence := behind.nextSequence.trans before.nextSequence
  active := behind.active.trans before.active
  closed := behind.closed.trans before.closed
  phases := behind.phases.trans before.phases
  owedWakeups := behind.owedWakeups.trans before.owedWakeups
  idleCallers := behind.idleCallers.trans before.idleCallers
  shutdownCalls := behind.shutdownCalls.trans before.shutdownCalls

theorem SameWork.phases_setPhase {pool next : Pool Agent} (same : SameWork pool next)
    (task : Nat) (phase : Phase Agent) :
    (next.setPhase task phase).phases = pool.phases.set task phase :=
  (Pool.phases_setPhase ..).trans (congrArg (List.set · task phase) same.phases)

theorem sameWork_setRegistration (pool : Pool Agent) (task : Nat)
    (registration : Registration) :
    SameWork pool (pool.setRegistration task registration) :=
  ⟨rfl, rfl, rfl, rfl, rfl, by simp, rfl, rfl, rfl⟩

theorem sameWork_wakeOne (pool : Pool Agent) : SameWork pool pool.wakeOne := by
  unfold wakeOne
  split
  case h_1 task rest _ =>
    have shortened : SameWork pool { pool with waiting := rest } :=
      ⟨rfl, rfl, rfl, rfl, rfl, rfl, rfl, rfl, rfl⟩
    exact shortened.trans (sameWork_setRegistration _ task _)
  case h_2 => exact ⟨rfl, rfl, rfl, rfl, rfl, rfl, rfl, rfl, rfl⟩

theorem sameWork_wakeAll (pool : Pool Agent) : SameWork pool pool.wakeAll := by
  have folded (tasks : List Nat) : ∀ present : Pool Agent, SameWork present
      (tasks.foldl (fun present task => present.setRegistration task .wokenWithAll)
        present) := by
    induction tasks with
    | nil => exact SameWork.refl
    | cons task tasks ih =>
        exact fun present => (sameWork_setRegistration present task _).trans (ih _)
  have emptied : SameWork pool { pool with waiting := [] } :=
    ⟨rfl, rfl, rfl, rfl, rfl, rfl, rfl, rfl, rfl⟩
  exact emptied.trans (folded pool.waiting _)

theorem sameWork_registerTask (pool : Pool Agent) (task : Nat) :
    SameWork pool (pool.registerTask task) := by
  unfold registerTask
  split
  · have spent : SameWork pool { pool with permit := false } :=
      ⟨rfl, rfl, rfl, rfl, rfl, rfl, rfl, rfl, rfl⟩
    exact spent.trans (sameWork_setRegistration _ task _)
  · have queued : SameWork pool { pool with waiting := pool.waiting ++ [task] } :=
      ⟨rfl, rfl, rfl, rfl, rfl, rfl, rfl, rfl, rfl⟩
    exact queued.trans (sameWork_setRegistration _ task _)

theorem sameWork_dropRegistration (pool : Pool Agent) (task : Nat) :
    SameWork pool (pool.dropRegistration task) := by
  unfold dropRegistration
  split
  · have erased : SameWork pool { pool with waiting := pool.waiting.erase task } :=
      ⟨rfl, rfl, rfl, rfl, rfl, rfl, rfl, rfl, rfl⟩
    exact erased.trans (sameWork_setRegistration _ task _)
  · exact (sameWork_setRegistration pool task _).trans (sameWork_wakeOne _)
  · exact sameWork_setRegistration pool task _
  · exact SameWork.refl pool

/-! ### What a step can do -/

def submittedSlot (pool : Pool Agent) (worker : Worker Agent) (work : Work) : Slot Agent :=
  let slot := (pool.slots.get? worker.name).getD ⟨worker, [], false, false⟩
  { slot with worker := worker, pending := addWork slot.pending work }

/-- The state in which a submitted work waits for the batch that is queued or running. -/
def withSubmitted (pool : Pool Agent) (worker : Worker Agent) (work : Work) : Pool Agent :=
  { pool with slots := pool.slots.set worker.name (pool.submittedSlot worker work) }

/-- The state in which a submitted work makes its worker ready. -/
def withReady (pool : Pool Agent) (worker : Worker Agent) (work : Work) : Pool Agent :=
  let slot := { pool.submittedSlot worker work with queued := true }
  { { pool with slots := pool.slots.set worker.name slot }.enqueue
      worker.name worker.priority with owedWakeups := pool.owedWakeups + 1 }

/-- The state in which a ready entry without a slot is gone. -/
def withSkipped (pool : Pool Agent) (entry : ReadyEntry) : Pool Agent :=
  { pool with ready := pool.ready.erase entry }

/-- The state behind the draining of a slot, before anybody is woken and the task runs. -/
def withDrained (pool : Pool Agent) (entry : ReadyEntry) (slot : Slot Agent) : Pool Agent :=
  { pool with
    ready := pool.ready.erase entry
    slots := pool.slots.set entry.name
      { slot with pending := [], queued := false, running := true }
    active := pool.active + 1 }

/-- The state behind a batch whose worker rests. -/
def withRested (pool : Pool Agent) (task : Nat) (name : String) (slot : Slot Agent) :
    Pool Agent :=
  { { pool with active := pool.active - 1 }.setPhase task .releasing with
    slots := pool.slots.set name { slot with running := false } }

/-- The state behind a batch whose worker is ready again, before anybody is woken. -/
def withRequeued (pool : Pool Agent) (task : Nat) (name : String) (slot : Slot Agent) :
    Pool Agent :=
  { { pool with active := pool.active - 1 }.setPhase task .releasing with
    slots := pool.slots.set name { slot with running := false, queued := true } }.enqueue
    name slot.worker.priority

/-- The state with the idle callers woken if the pool is idle. -/
def wakeIfIdle (pool : Pool Agent) : Pool Agent :=
  if pool.isIdle then pool.wakeIdleCallers else pool

/-- What the events do, with what each of them requires. -/
inductive Moves (pool : Pool Agent) : PoolEvent Agent → Pool Agent → Prop
  | submitRefused {worker work} (closed : pool.closed = true) :
      Moves pool (.submit worker work) pool
  | submitWaits {worker work} (opened : pool.closed = false)
      (busy : (pool.submittedSlot worker work).queued = true ∨
        (pool.submittedSlot worker work).running = true) :
      Moves pool (.submit worker work) (pool.withSubmitted worker work)
  | submitReady {worker work} (opened : pool.closed = false)
      (unqueued : (pool.submittedSlot worker work).queued = false)
      (resting : (pool.submittedSlot worker work).running = false) :
      Moves pool (.submit worker work) (pool.withReady worker work)
  | announce (owed : pool.owedWakeups ≠ 0) :
      Moves pool .announce { pool with owedWakeups := pool.owedWakeups - 1 }.wakeOne
  | register {task} (arriving : pool.phases[task]? = some .arriving) :
      Moves pool (.register task) ((pool.registerTask task).setPhase task .looking)
  | lookClosed {task} (looking : pool.phases[task]? = some .looking)
      (closed : pool.closed = true) :
      Moves pool (.look task) (pool.setPhase task .exiting)
  | lookParks {task} (looking : pool.phases[task]? = some .looking)
      (opened : pool.closed = false) (empty : pool.ready = []) :
      Moves pool (.look task) (pool.setPhase task .parked)
  | lookSkips {task entry} (looking : pool.phases[task]? = some .looking)
      (opened : pool.closed = false) (least : leastReady? pool.ready = some entry)
      (unknown : pool.slots.get? entry.name = none) (next : Pool Agent)
      (wakes : next = pool.withSkipped entry ∨ next = (pool.withSkipped entry).wakeOne) :
      Moves pool (.look task) (next.setPhase task .parked)
  | lookTakes {task entry slot} (looking : pool.phases[task]? = some .looking)
      (opened : pool.closed = false) (least : leastReady? pool.ready = some entry)
      (known : pool.slots.get? entry.name = some slot) (next : Pool Agent)
      (wakes : next = pool.withDrained entry slot ∨
        next = (pool.withDrained entry slot).wakeOne) :
      Moves pool (.look task)
        (next.setPhase task (.working ⟨entry.name, slot.worker, slot.pending⟩))
  | resume {task registration} (parked : pool.phases[task]? = some .parked)
      (registered : pool.registrations[task]? = some registration)
      (woken : registration.isReady = true) :
      Moves pool (.resume task) ((pool.setRegistration task .none).setPhase task .arriving)
  | completeRests {task batch slot} (working : pool.phases[task]? = some (.working batch))
      (known : pool.slots.get? batch.name = some slot)
      (done : slot.pending = [] ∨ pool.closed = true) :
      Moves pool (.complete task) (pool.withRested task batch.name slot).wakeIfIdle
  | completeRequeues {task batch slot}
      (working : pool.phases[task]? = some (.working batch))
      (known : pool.slots.get? batch.name = some slot)
      (remaining : slot.pending ≠ []) (opened : pool.closed = false) :
      Moves pool (.complete task)
        (pool.withRequeued task batch.name slot).wakeOne.wakeIfIdle
  | completeForgets {task batch} (working : pool.phases[task]? = some (.working batch))
      (unknown : pool.slots.get? batch.name = none) :
      Moves pool (.complete task)
        ({ pool with active := pool.active - 1 }.setPhase task .releasing).wakeIfIdle
  | release {task} (releasing : pool.phases[task]? = some .releasing) :
      Moves pool (.release task) ((pool.dropRegistration task).setPhase task .arriving)
  | exit {task} (exiting : pool.phases[task]? = some .exiting) :
      Moves pool (.release task) ((pool.dropRegistration task).setPhase task .exited)
  | awaitIdle :
      Moves pool .awaitIdle
        { pool with idleCallers := pool.idleCallers ++ [⟨.arriving, false⟩] }
  | registerIdle {caller woken} (arriving : pool.idleCallers[caller]? = some ⟨.arriving, woken⟩) :
      Moves pool (.registerIdle caller)
        { pool with idleCallers := pool.idleCallers.set caller ⟨.looking, false⟩ }
  | lookIdle {caller woken} (looking : pool.idleCallers[caller]? = some ⟨.looking, woken⟩) :
      Moves pool (.lookIdle caller)
        { pool with
          idleCallers := pool.idleCallers.set caller
            ⟨if pool.isIdle then .returned else .parked, woken⟩ }
  | resumeIdle {caller} (woken : pool.idleCallers[caller]? = some ⟨.parked, true⟩) :
      Moves pool (.resumeIdle caller)
        { pool with idleCallers := pool.idleCallers.set caller ⟨.arriving, false⟩ }
  | shutdownAgain (closed : pool.closed = true) :
      Moves pool .beginShutdown { pool with shutdownCalls := pool.shutdownCalls ++ [.returned] }
  | shutdown (opened : pool.closed = false) :
      Moves pool .beginShutdown
        { pool.close with shutdownCalls := pool.shutdownCalls ++ [.announcing] }
  | announceShutdown {call} (announcing : pool.shutdownCalls[call]? = some .announcing) :
      Moves pool (.announceShutdown call)
        { pool.wakeAll with shutdownCalls := pool.shutdownCalls.set call .joining }
  | finishShutdown {call} (joining : pool.shutdownCalls[call]? = some .joining)
      (exited : pool.allExited = true) :
      Moves pool (.finishShutdown call)
        { pool.wakeIdleCallers with shutdownCalls := pool.shutdownCalls.set call .returned }

theorem phases_of_task {pool : Pool Agent} {task : Nat} {phase : Phase Agent}
    {registration : Registration} (found : pool.tasks[task]? = some ⟨phase, registration⟩) :
    pool.phases[task]? = some phase ∧ pool.registrations[task]? = some registration := by
  simp [phases, registrations, found]

theorem leastReady?_eq_none_iff {ready : List ReadyEntry} :
    leastReady? ready = none ↔ ready = [] := by
  cases ready with
  | nil => simp [leastReady?]
  | cons entry rest =>
      simp only [leastReady?, reduceCtorEq, iff_false]
      split
      · split <;> simp
      · simp

theorem moves_of_takeBatch {pool : Pool Agent} {task : Nat}
    (looking : pool.phases[task]? = some .looking) (opened : pool.closed = false) :
    Moves pool (.look task) (pool.takeBatch task) := by
  unfold takeBatch
  split
  case h_1 least => exact .lookParks looking opened (leastReady?_eq_none_iff.1 least)
  case h_2 entry least =>
    dsimp only
    split
    case h_1 unknown =>
      split
      · exact .lookSkips looking opened least unknown _ (Or.inl rfl)
      · exact .lookSkips looking opened least unknown _ (Or.inr rfl)
    case h_2 slot known =>
      split
      · exact .lookTakes looking opened least known _ (Or.inl rfl)
      · exact .lookTakes looking opened least known _ (Or.inr rfl)

theorem moves_of_completeBatch {pool : Pool Agent} {task : Nat} {batch : Batch Agent}
    (working : pool.phases[task]? = some (.working batch)) :
    Moves pool (.complete task) (pool.completeBatch task batch) := by
  unfold completeBatch
  dsimp only
  split
  case h_1 unknown => exact .completeForgets working unknown
  case h_2 slot known =>
    split
    case isTrue done =>
      rw [Bool.or_eq_true_iff, List.isEmpty_iff] at done
      exact .completeRests working known done
    case isFalse remaining =>
      rw [Bool.or_eq_true_iff, not_or, List.isEmpty_iff, Bool.not_eq_true] at remaining
      exact .completeRequeues working known remaining.1 remaining.2

section Events

variable {pool next : Pool Agent}

theorem moves_of_submit {worker : Worker Agent} {work : Work}
    (stepped : pool.step (.submit worker work) = some next) :
    Moves pool (.submit worker work) next := by
  unfold step submit at stepped
  dsimp only at stepped
  split at stepped
  case h_1 submitted =>
    cases stepped
    split at submitted
    case isTrue => cases submitted
    case isFalse opened =>
      rw [Bool.not_eq_true] at opened
      split at submitted
      case isTrue busy =>
        cases submitted
        exact .submitWaits opened (Bool.or_eq_true_iff.1 busy)
      case isFalse free =>
        cases submitted
        rw [Bool.or_eq_true_iff, not_or, Bool.not_eq_true, Bool.not_eq_true] at free
        exact .submitReady opened free.1 free.2
  case h_2 refused =>
    cases stepped
    split at refused
    case isTrue closed => exact .submitRefused closed
    case isFalse => split at refused <;> cases refused

theorem moves_of_announce (stepped : pool.step .announce = some next) :
    Moves pool .announce next := by
  unfold step at stepped
  dsimp only at stepped
  split at stepped
  case isTrue => cases stepped
  case isFalse owed =>
    cases stepped
    exact .announce owed

theorem moves_of_register {task : Nat} (stepped : pool.step (.register task) = some next) :
    Moves pool (.register task) next := by
  unfold step at stepped
  dsimp only at stepped
  split at stepped
  case h_1 registration found =>
    cases stepped
    exact .register (phases_of_task found).1
  case h_2 => cases stepped

theorem moves_of_look {task : Nat} (stepped : pool.step (.look task) = some next) :
    Moves pool (.look task) next := by
  unfold step at stepped
  dsimp only at stepped
  split at stepped
  case h_1 registration found =>
    have looking := (phases_of_task found).1
    cases stepped
    by_cases closed : pool.closed = true
    · rw [if_pos closed]
      exact .lookClosed looking closed
    · rw [if_neg closed]
      rw [Bool.not_eq_true] at closed
      exact moves_of_takeBatch looking closed
  case h_2 => cases stepped

theorem moves_of_resume {task : Nat} (stepped : pool.step (.resume task) = some next) :
    Moves pool (.resume task) next := by
  unfold step at stepped
  dsimp only at stepped
  split at stepped
  case h_1 registration found =>
    split at stepped
    case isTrue woken =>
      cases stepped
      exact .resume (phases_of_task found).1 (phases_of_task found).2 woken
    case isFalse => cases stepped
  case h_2 => cases stepped

theorem moves_of_complete {task : Nat} (stepped : pool.step (.complete task) = some next) :
    Moves pool (.complete task) next := by
  unfold step at stepped
  dsimp only at stepped
  split at stepped
  case h_1 batch registration found =>
    cases stepped
    exact moves_of_completeBatch (phases_of_task found).1
  case h_2 => cases stepped

theorem moves_of_release {task : Nat} (stepped : pool.step (.release task) = some next) :
    Moves pool (.release task) next := by
  unfold step at stepped
  dsimp only at stepped
  split at stepped
  case h_1 registration found =>
    cases stepped
    exact .release (phases_of_task found).1
  case h_2 registration found =>
    cases stepped
    exact .exit (phases_of_task found).1
  case h_3 => cases stepped

theorem moves_of_registerIdle {caller : Nat}
    (stepped : pool.step (.registerIdle caller) = some next) :
    Moves pool (.registerIdle caller) next := by
  unfold step at stepped
  dsimp only at stepped
  split at stepped
  case h_1 woken found =>
    cases stepped
    exact .registerIdle found
  case h_2 => cases stepped

theorem moves_of_lookIdle {caller : Nat} (stepped : pool.step (.lookIdle caller) = some next) :
    Moves pool (.lookIdle caller) next := by
  unfold step at stepped
  dsimp only at stepped
  split at stepped
  case h_1 woken found =>
    cases stepped
    exact .lookIdle found
  case h_2 => cases stepped

theorem moves_of_resumeIdle {caller : Nat}
    (stepped : pool.step (.resumeIdle caller) = some next) :
    Moves pool (.resumeIdle caller) next := by
  unfold step at stepped
  dsimp only at stepped
  split at stepped
  case h_1 found =>
    cases stepped
    exact .resumeIdle found
  case h_2 => cases stepped

theorem moves_of_beginShutdown (stepped : pool.step .beginShutdown = some next) :
    Moves pool .beginShutdown next := by
  unfold step at stepped
  dsimp only at stepped
  split at stepped
  case isTrue closed =>
    cases stepped
    exact .shutdownAgain closed
  case isFalse opened =>
    cases stepped
    exact .shutdown (by simpa using opened)

theorem moves_of_announceShutdown {call : Nat}
    (stepped : pool.step (.announceShutdown call) = some next) :
    Moves pool (.announceShutdown call) next := by
  unfold step at stepped
  dsimp only at stepped
  split at stepped
  case h_1 found =>
    cases stepped
    exact .announceShutdown found
  case h_2 => cases stepped

theorem moves_of_finishShutdown {call : Nat}
    (stepped : pool.step (.finishShutdown call) = some next) :
    Moves pool (.finishShutdown call) next := by
  unfold step at stepped
  dsimp only at stepped
  split at stepped
  case h_1 found =>
    split at stepped
    case isTrue exited =>
      cases stepped
      exact .finishShutdown found exited
    case isFalse => cases stepped
  case h_2 => cases stepped

/-- Every step is one of these moves. -/
theorem moves_of_step {event : PoolEvent Agent} (stepped : pool.step event = some next) :
    Moves pool event next := by
  cases event with
  | submit worker work => exact moves_of_submit stepped
  | announce => exact moves_of_announce stepped
  | register task => exact moves_of_register stepped
  | look task => exact moves_of_look stepped
  | resume task => exact moves_of_resume stepped
  | complete task => exact moves_of_complete stepped
  | release task => exact moves_of_release stepped
  | awaitIdle => cases stepped; exact .awaitIdle
  | registerIdle caller => exact moves_of_registerIdle stepped
  | lookIdle caller => exact moves_of_lookIdle stepped
  | resumeIdle caller => exact moves_of_resumeIdle stepped
  | beginShutdown => exact moves_of_beginShutdown stepped
  | announceShutdown call => exact moves_of_announceShutdown stepped
  | finishShutdown call => exact moves_of_finishShutdown stepped

end Events

end Pool

end EntitySearch.Scheduling
