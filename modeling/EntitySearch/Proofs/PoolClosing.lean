import EntitySearch.Proofs.PoolHistory

/-!
# Closing the pool

The first call for shutdown closes the pool for good.  From then on no work is
taken, no batch begins, and what is pending stays as it is; the batches that are
being executed go on to their own ends.  That call returns when all tasks have left
their loops, so no batch is executed behind it.  A later call finds the pool
closed and returns at once, and batches may then still be executed.
-/

namespace EntitySearch.Scheduling

/-- Whether the event is a call for shutdown or moves one on. -/
def PoolEvent.isOfShutdown {Agent : Type} : PoolEvent Agent → Bool
  | .beginShutdown => true
  | .announceShutdown _ => true
  | .finishShutdown _ => true
  | _ => false

namespace Pool

open LogEntry

variable {Agent : Type} {pool next : Pool Agent} {event : PoolEvent Agent}

/-! ### Steps of a closed pool -/

/-- What a step of a closed pool does to the phases: nothing, or one task that has not left
goes on, but neither to a batch nor to sleep. -/
inductive GoesOn (pool next : Pool Agent) : Prop
  | rests (phases : next.phases = pool.phases)
  | moves {task before after} (found : pool.phases[task]? = some before)
      (phases : next.phases = pool.phases.set task after) (present : before ≠ .exited)
      (free : after.batch? = none) (awake : after ≠ .parked)

theorem goesOn_of_closed (closed : pool.closed = true) (moved : Moves pool event next) :
    GoesOn pool next := by
  cases moved with
  | submitWaits opened => simp [opened] at closed
  | submitReady opened => simp [opened] at closed
  | lookParks _ opened => simp [opened] at closed
  | lookSkips _ opened => simp [opened] at closed
  | lookTakes _ opened => simp [opened] at closed
  | completeRequeues _ _ _ opened => simp [opened] at closed
  | shutdown opened => simp [opened] at closed
  | announce => exact .rests (sameWork_wakeOne _).phases
  | @register task arriving =>
      have same := sameWork_registerTask pool task
      exact .moves arriving (same.phases_setPhase task _) nofun rfl nofun
  | lookClosed looking => exact .moves looking (phases_setPhase ..) nofun rfl nofun
  | @resume task _ parked =>
      have same := sameWork_setRegistration pool task .none
      exact .moves parked (same.phases_setPhase task _) nofun rfl nofun
  | completeRests working =>
      exact .moves working ((phases_wakeIfIdle _).trans (phases_setPhase ..)) nofun rfl nofun
  | completeForgets working =>
      exact .moves working ((phases_wakeIfIdle _).trans (phases_setPhase ..)) nofun rfl nofun
  | @release task releasing =>
      have same := sameWork_dropRegistration pool task
      exact .moves releasing (same.phases_setPhase task _) nofun rfl nofun
  | @exit task exiting =>
      have same := sameWork_dropRegistration pool task
      exact .moves exiting (same.phases_setPhase task _) nofun rfl nofun
  | announceShutdown => exact .rests (sameWork_wakeAll pool).phases
  | _ => exact .rests rfl

/-- A task that executes a batch or sleeps behind such a step did so before. -/
theorem GoesOn.found_before (goes : GoesOn pool next) {task : Nat} {phase : Phase Agent}
    (found : next.phases[task]? = some phase)
    (idle : (∃ batch, phase = .working batch) ∨ phase = .parked) :
    pool.phases[task]? = some phase := by
  cases goes with
  | rests phases => exact phases ▸ found
  | @moves moving before after _ phases _ free awake =>
      rw [phases, List.getElem?_set] at found
      split at found
      -- the task that went on neither executes nor sleeps now, so it is another one
      case isTrue same =>
        split at found
        · cases found
          rcases idle with ⟨batch, rfl⟩ | rfl
          · cases free
          · exact (awake rfl).elim
        · cases found
      case isFalse => exact found

theorem recorded_of_closed (closed : pool.closed = true) (moved : Moves pool event next) :
    pool.recorded event next = [] ∨
      ∃ task batch, pool.recorded event next = [.ended task batch] ∧
        pool.phases[task]? = some (.working batch) := by
  cases moved with
  | submitRefused => exact .inl (by simp [recorded, submit, closed])
  | submitWaits opened => simp [opened] at closed
  | submitReady opened => simp [opened] at closed
  | lookClosed looking =>
      exact .inl (recorded_look (phase_of_set looking (phases_setPhase ..)))
  | lookParks _ opened => simp [opened] at closed
  | lookSkips _ opened => simp [opened] at closed
  | lookTakes _ opened => simp [opened] at closed
  | completeRests working => exact .inr ⟨_, _, recorded_complete working _, working⟩
  | completeRequeues working => exact .inr ⟨_, _, recorded_complete working _, working⟩
  | completeForgets working => exact .inr ⟨_, _, recorded_complete working _, working⟩
  | _ => exact .inl rfl

/-- What becomes of a closed pool in some steps, with what they leave in the log. -/
structure WindsDown (pool next : Pool Agent) (newer : List (LogEntry Agent)) : Prop where
  closed : next.closed = true
  pending : ∀ name, next.pendingOf name = pool.pendingOf name
  /-- Nothing happens but that batches end. -/
  ends : ∀ entry ∈ newer, ∃ task batch, entry = .ended task batch
  /-- Whoever executes a batch has executed it from the first. -/
  running : ∀ (task : Nat) batch, next.phases[task]? = some (.working batch) →
    pool.phases[task]? = some (.working batch)
  /-- A batch is executed until it ends. -/
  completes : ∀ (task : Nat) batch, pool.phases[task]? = some (.working batch) →
    next.phases[task]? = some (.working batch) ∨ .ended task batch ∈ newer

namespace WindsDown

variable {third : Pool Agent} {newer newest : List (LogEntry Agent)}

theorem refl (closed : pool.closed = true) : WindsDown pool pool [] where
  closed := closed
  pending _ := rfl
  ends := List.forall_mem_nil _
  running _ _ working := working
  completes _ _ working := .inl working

theorem trans (first : WindsDown pool next newer) (second : WindsDown next third newest) :
    WindsDown pool third (newer ++ newest) where
  closed := second.closed
  pending name := (second.pending name).trans (first.pending name)
  ends entry inside := (List.mem_append.1 inside).elim (first.ends entry) (second.ends entry)
  running task batch working := first.running task batch (second.running task batch working)
  completes task batch working := by
    rcases first.completes task batch working with still | done
    · exact (second.completes task batch still).imp_right (List.mem_append_right _)
    · exact .inr (List.mem_append_left _ done)

theorem of_step (coherent : Coherent pool) (closed : pool.closed = true)
    (stepped : pool.step event = some next) :
    WindsDown pool next (pool.recorded event next) := by
  have moved := moves_of_step stepped
  have traced := traced_of_moves coherent moved
  have running (task : Nat) (batch : Batch Agent)
      (working : next.phases[task]? = some (.working batch)) :
      pool.phases[task]? = some (.working batch) :=
    (goesOn_of_closed closed moved).found_before working (.inl ⟨batch, rfl⟩)
  have staysClosed := closed_of_closed closed moved
  rcases recorded_of_closed closed moved with silent | ⟨task, batch, ended, -⟩
  · rw [silent] at traced ⊢
    cases traced with
    | silent pending working =>
        exact ⟨staysClosed, pending, List.forall_mem_nil _, running,
          fun task batch isWorking => .inl (working task batch isWorking)⟩
  · rw [ended] at traced ⊢
    cases traced with
    | ended wasWorking pending phases =>
        refine ⟨staysClosed, pending, fun entry inside =>
          ⟨task, batch, List.mem_singleton.1 inside⟩, running, ?_⟩
        intro other otherBatch working
        by_cases same : task = other
        · subst same
          cases Option.some.inj (working.symm.trans wasWorking)
          exact .inr List.mem_cons_self
        · refine .inl ?_
          rw [phases, List.getElem?_set_ne same]
          exact working

theorem of_follow {size : Nat} {log final : List (LogEntry Agent)} (run : Run size pool log)
    (closed : pool.closed = true) {events : List (PoolEvent Agent)}
    (followed : pool.follow log events = some (next, final)) :
    ∃ newer, final = log ++ newer ∧ WindsDown pool next newer := by
  let Winding (present : Pool Agent) (whole : List (LogEntry Agent)) : Prop :=
    Run size present whole ∧ ∃ newer, whole = log ++ newer ∧ WindsDown pool present newer
  have steps : ∀ present whole event later, Winding present whole →
      present.step event = some later → Winding later (whole ++ present.recorded event later) := by
    rintro present _ event later ⟨reached, newer, rfl, soFar⟩ stepped
    have now := of_step reached.invariant.coherent soFar.closed stepped
    exact ⟨reached.step stepped, _, List.append_assoc .., soFar.trans now⟩
  have begins : Winding pool log := ⟨run, [], (List.append_nil _).symm, refl closed⟩
  exact (holds_of_follow steps begins followed).2

end WindsDown

/-! ### Sleepers of a closed pool -/

theorem mem_waiting_of_wakeOne (pool : Pool Agent) {task : Nat}
    (waits : task ∈ pool.wakeOne.waiting) : task ∈ pool.waiting := by
  unfold wakeOne at waits
  split at waits
  case h_1 first rest waiting =>
    rw [waiting]
    exact List.mem_cons_of_mem _ waits
  case h_2 => exact waits

theorem mem_waiting_of_dropRegistration {task other : Nat}
    (waits : task ∈ (pool.dropRegistration other).waiting) : task ∈ pool.waiting := by
  unfold dropRegistration at waits
  split at waits
  · exact List.mem_of_mem_erase waits
  · exact mem_waiting_of_wakeOne (pool.setRegistration other .none) waits
  · exact waits
  · exact waits

theorem mem_waiting_of_registerTask {task other : Nat}
    (waits : task ∈ (pool.registerTask other).waiting) :
    task ∈ pool.waiting ∨ task = other := by
  unfold registerTask at waits
  split at waits
  · exact .inl waits
  · exact (List.mem_append.1 waits).imp_right List.mem_singleton.1

theorem waiting_wakeIfIdle (pool : Pool Agent) : pool.wakeIfIdle.waiting = pool.waiting := by
  unfold wakeIfIdle
  split <;> rfl

/-- Who waits for a wake-up behind a step of a closed pool waited before, or comes to look at
the queue. -/
theorem mem_waiting_of_closed (closed : pool.closed = true) (moved : Moves pool event next)
    {task : Nat} (waits : task ∈ next.waiting) :
    task ∈ pool.waiting ∨ next.phases[task]? = some .looking := by
  cases moved with
  | announce =>
      exact .inl (mem_waiting_of_wakeOne { pool with owedWakeups := pool.owedWakeups - 1 } waits)
  | @register other arriving =>
      refine (mem_waiting_of_registerTask waits).imp_right ?_
      rintro rfl
      rw [phases_setPhase, (sameWork_registerTask pool task).phases,
        List.getElem?_set_self (lt_length_of_phase arriving)]
  | lookSkips _ opened => simp [opened] at closed
  | lookTakes _ opened => simp [opened] at closed
  | completeRests =>
      rw [waiting_wakeIfIdle] at waits
      exact .inl waits
  | completeRequeues _ _ _ opened => simp [opened] at closed
  | completeForgets =>
      rw [waiting_wakeIfIdle] at waits
      exact .inl waits
  | release => exact .inl (mem_waiting_of_dropRegistration waits)
  | exit => exact .inl (mem_waiting_of_dropRegistration waits)
  | announceShutdown =>
      rw [show ({ pool.wakeAll with shutdownCalls := _ } : Pool Agent).waiting = [] from
        waiting_wakeAll pool] at waits
      cases waits
  | _ => exact .inl waits

def Awake (pool : Pool Agent) : Prop :=
  ∀ task, ¬ pool.Sleeps task

/-- Nobody falls asleep in a closed pool. -/
theorem Awake.moves (awake : Awake pool) (enrolled : Enrolled pool)
    (closed : pool.closed = true) (moved : Moves pool event next) : Awake next := by
  rintro task ⟨parked, waits⟩
  have wasParked := (goesOn_of_closed closed moved).found_before parked (.inr rfl)
  have listed := ((enrolled.moves moved).waiting_iff task).2 waits
  rcases mem_waiting_of_closed closed moved listed with waited | looking
  · exact awake task ⟨wasParked, (enrolled.waiting_iff task).1 waited⟩
  · cases looking.symm.trans parked

theorem awake_of_waiting_nil (enrolled : Enrolled pool) (nobody : pool.waiting = []) :
    Awake pool := by
  rintro task ⟨-, waits⟩
  have listed := (enrolled.waiting_iff task).2 waits
  rw [nobody] at listed
  cases listed

/-! ### Calls for shutdown -/

theorem shutdownCalls_wakeIfIdle (pool : Pool Agent) :
    pool.wakeIfIdle.shutdownCalls = pool.shutdownCalls := by
  unfold wakeIfIdle
  split <;> rfl

theorem shutdownCalls_of_moves (moved : Moves pool event next)
    (other : event.isOfShutdown = false) : next.shutdownCalls = pool.shutdownCalls := by
  cases moved with
  | announce =>
      exact (sameWork_wakeOne { pool with owedWakeups := pool.owedWakeups - 1 }).shutdownCalls
  | register => exact (sameWork_registerTask pool _).shutdownCalls
  | lookSkips _ _ _ _ _ wakes => exact (sameWork_woken wakes).shutdownCalls
  | lookTakes _ _ _ _ _ wakes => exact (sameWork_woken wakes).shutdownCalls
  | completeRests => exact shutdownCalls_wakeIfIdle _
  | completeRequeues =>
      exact (shutdownCalls_wakeIfIdle _).trans (sameWork_wakeOne _).shutdownCalls
  | completeForgets => exact shutdownCalls_wakeIfIdle _
  | release => exact (sameWork_dropRegistration pool _).shutdownCalls
  | exit => exact (sameWork_dropRegistration pool _).shutdownCalls
  | shutdownAgain => cases other
  | shutdown => cases other
  | announceShutdown => cases other
  | finishShutdown => cases other
  | _ => rfl

/-- All tasks have left their loops. -/
def Deserted (pool : Pool Agent) : Prop :=
  ∀ phase ∈ pool.phases, phase = .exited

theorem allExited_iff : pool.allExited = true ↔ Deserted pool := by
  unfold allExited Deserted phases
  rw [List.all_eq_true, List.forall_mem_map]
  refine forall₂_congr fun task _ => ?_
  cases task.phase <;> simp

/-- Who has left does not come back. -/
theorem Deserted.moves (deserted : Deserted pool) (closed : pool.closed = true)
    (moved : Moves pool event next) : Deserted next := by
  cases goesOn_of_closed closed moved with
  | rests phases =>
      unfold Deserted
      rw [phases]
      exact deserted
  | moves found _ present =>
      exact (present (deserted _ (List.mem_of_getElem? found))).elim

/-- How the calls for shutdown stand: nobody has called while the pool is open; behind that
the first call wakes the tasks and waits for them, and all later ones have returned. -/
inductive Calls (pool : Pool Agent) : Prop
  | none (opened : pool.closed = false) (calls : pool.shutdownCalls = [])
  | begun {first later} (closed : pool.closed = true)
      (calls : pool.shutdownCalls = first :: List.replicate later .returned)
      (awake : first ≠ .announcing → Awake pool)
      (deserted : first = .returned → Deserted pool)

theorem place_of_calls {first found : ShutdownCall} {later place : Nat}
    (here : (first :: List.replicate later .returned)[place]? = some found)
    (waits : found ≠ .returned) : place = 0 ∧ found = first := by
  cases place with
  | zero => exact ⟨rfl, (Option.some.inj here).symm⟩
  | succ place =>
      have inside := List.mem_of_getElem? ((List.getElem?_cons_succ ..).symm.trans here)
      exact (waits (List.eq_of_mem_replicate inside)).elim

theorem Calls.moves (calls : Calls pool) (enrolled : Enrolled pool)
    (moved : Moves pool event next) : Calls next := by
  cases calls with
  | none opened none =>
      cases shutting : event.isOfShutdown with
      | false =>
          have notBegin : event ≠ .beginShutdown := by
            rintro rfl
            cases shutting
          exact .none ((closed_of_moves moved notBegin).trans opened)
            ((shutdownCalls_of_moves moved shutting).trans none)
      | true =>
          cases moved with
          | shutdownAgain closed => simp [opened] at closed
          | shutdown =>
              have first : pool.shutdownCalls ++ [.announcing] =
                  .announcing :: List.replicate 0 .returned := by
                rw [none]
                rfl
              exact .begun rfl first (by simp) (by simp)
          | announceShutdown announcing => simp [none] at announcing
          | finishShutdown joining => simp [none] at joining
          | _ => cases shutting
  | @begun first later closed calls awake deserted =>
      have staysClosed := closed_of_closed closed moved
      have staysEnrolled := enrolled.moves moved
      have staysAwake (waits : first ≠ .announcing) : Awake next :=
        (awake waits).moves enrolled closed moved
      have staysDeserted (returned : first = .returned) : Deserted next :=
        (deserted returned).moves closed moved
      cases shutting : event.isOfShutdown with
      | false =>
          exact .begun staysClosed ((shutdownCalls_of_moves moved shutting).trans calls)
            staysAwake staysDeserted
      | true =>
          cases moved with
          | shutdownAgain =>
              have longer : pool.shutdownCalls ++ [.returned] =
                  first :: List.replicate (later + 1) .returned := by
                rw [calls, List.replicate_succ', List.cons_append]
              exact .begun staysClosed longer staysAwake staysDeserted
          | shutdown opened => simp [opened] at closed
          | announceShutdown announcing =>
              rw [calls] at announcing
              obtain ⟨rfl, -⟩ := place_of_calls announcing (by simp)
              refine .begun staysClosed (by rw [calls]; rfl) (fun _ => ?_) (by simp)
              exact awake_of_waiting_nil staysEnrolled (waiting_wakeAll pool)
          | finishShutdown joining exited =>
              rw [calls] at joining
              obtain ⟨rfl, rfl⟩ := place_of_calls joining (by simp)
              have left : Deserted pool := allExited_iff.1 exited
              exact .begun staysClosed (by rw [calls]; rfl) (fun _ => staysAwake (by simp))
                fun _ => left
          | _ => cases shutting

theorem Run.calls {size : Nat} {log : List (LogEntry Agent)} (run : Run size pool log) :
    Calls pool := by
  induction run with
  | start => exact .none rfl rfl
  | step run stepped ih => exact ih.moves run.invariant.enrolled (moves_of_step stepped)

/-! ### Shutdown -/

theorem Deserted.running_eq_nil (deserted : Deserted pool) : pool.running = [] := by
  refine List.filterMap_eq_nil_iff.2 fun phase inside => ?_
  rw [deserted phase inside]
  rfl

/-- Behind the return of the call that closed the pool no batch is executed. -/
theorem running_eq_nil_of_returned {size : Nat} {log : List (LogEntry Agent)}
    (run : Run size pool log) (returned : pool.shutdownCalls.head? = some .returned) :
    pool.running = [] := by
  cases run.calls with
  | none opened calls => simp [calls] at returned
  | begun closed calls awake deserted =>
      rw [calls, List.head?_cons, Option.some.injEq] at returned
      exact (deserted returned).running_eq_nil

/-- Where a closed pool comes to rest, all tasks have left and all calls have returned. -/
theorem returned_of_quiet {size : Nat} {log : List (LogEntry Agent)} (run : Run size pool log)
    (closed : pool.closed = true) (quiet : Quiet pool) :
    pool.running = [] ∧ ∀ call ∈ pool.shutdownCalls, call = .returned := by
  cases run.calls with
  | none opened => simp [opened] at closed
  | @begun first later _ calls awake _ =>
      -- a first call that has not woken the tasks or not seen them leave could still move on
      have announced : first ≠ .announcing := by
        rintro rfl
        have waits : pool.shutdownCalls[0]? = some .announcing := by rw [calls]; rfl
        simpa [step, waits] using quiet (.announceShutdown 0) rfl
      have stalled : Stalled pool := fun event uncalled _ => quiet event uncalled
      have deserted : Deserted pool := by
        intro phase inside
        obtain ⟨task, found⟩ := List.mem_iff_getElem?.1 inside
        have standing := run.invariant.sleeps_works_or_left stalled found
        rcases standing with sleeps | ⟨batch, rfl⟩ | left
        · exact (awake announced task sleeps).elim
        · exact (quiet.not_working found).elim
        · exact left
      have returned : first = .returned := by
        cases first with
        | announcing => exact (announced rfl).elim
        | returned => rfl
        | joining =>
            have waits : pool.shutdownCalls[0]? = some .joining := by rw [calls]; rfl
            simpa [step, waits, allExited_iff.2 deserted] using quiet (.finishShutdown 0) rfl
      refine ⟨deserted.running_eq_nil, ?_⟩
      rw [calls, returned, ← List.replicate_succ]
      exact fun call inside => List.eq_of_mem_replicate inside

theorem submit_of_closed (closed : pool.closed = true) (worker : Worker Agent) (work : Work) :
    pool.submit worker work = .error .shutDown := by
  rw [submit, if_pos closed]

/-- A call for shutdown closes the pool and leaves its works and batches as they are. -/
theorem WindsDown.of_beginShutdown (coherent : Coherent pool)
    (begun : pool.step .beginShutdown = some next) : WindsDown pool next [] := by
  have moved := moves_of_step begun
  have closed : next.closed = true := by
    cases moved with
    | shutdownAgain closed => exact closed
    | shutdown => rfl
  have phases : next.phases = pool.phases := by
    cases moved <;> rfl
  cases traced_of_moves coherent moved with
  | silent pending working =>
      exact ⟨closed, pending, List.forall_mem_nil _, fun _ _ isWorking => phases ▸ isWorking,
        fun task batch isWorking => .inl (working task batch isWorking)⟩

/-- From the first call for shutdown on every work is refused and no batch begins, whatever
happens.  What was pending stays pending, and the batches that were being executed go on to
their own ends. -/
theorem shutdown_is_final {size : Nat} {log final : List (LogEntry Agent)} {closing : Pool Agent}
    (run : Run size pool log) (begun : pool.step .beginShutdown = some closing)
    {events : List (PoolEvent Agent)} (followed : closing.follow log events = some (next, final)) :
    (∀ worker work, next.submit worker work = .error .shutDown) ∧
      ∃ newer, final = log ++ newer ∧ WindsDown pool next newer := by
  have closes := WindsDown.of_beginShutdown run.invariant.coherent begun
  have closingRun : Run size closing (log ++ []) := run.step begun
  rw [List.append_nil] at closingRun
  obtain ⟨newer, rfl, later⟩ := WindsDown.of_follow closingRun closes.closed followed
  exact ⟨submit_of_closed later.closed, newer, rfl, closes.trans later⟩

/-- A task executes a batch of issues. -/
def occupying : List (PoolEvent Unit) :=
  [.submit issueWorker .scan, .announce, .register 0, .look 0]

def occupied : Pool Unit × List (LogEntry Unit) :=
  ((Pool.start 1).follow [] occupying).getD (Pool.start 1, [])

/-- Behind the shutdown of the pool, a further issue is refused and the batch comes to its
end. -/
theorem occupied_winds_down :
    ∃ closing next final, occupied.1.step .beginShutdown = some closing ∧
      closing.follow occupied.2 [.submit issueWorker (.entity 2), .complete 0] = some (next, final) ∧
      (∀ worker work, next.submit worker work = .error .shutDown) ∧
      ∃ newer, final = occupied.2 ++ newer ∧ WindsDown occupied.1 next newer := by
  have followed : (Pool.start 1).follow [] occupying = some occupied := rfl
  have final := shutdown_is_final (Run.start.follow followed) (rfl : occupied.1.step _ = some _)
    (rfl : Pool.follow _ _ [.submit issueWorker (.entity 2), .complete 0] = some (_, _))
  exact ⟨_, _, _, rfl, rfl, final⟩

/-- A task executes a batch of issues while the pool is shut down twice. -/
def hurried : List (PoolEvent Unit) :=
  [.submit issueWorker .scan, .announce, .register 0, .look 0, .beginShutdown, .beginShutdown]

def hurrying : Pool Unit × List (LogEntry Unit) :=
  ((Pool.start 1).follow [] hurried).getD (Pool.start 1, [])

/-- A later call can return while a batch is executed. -/
theorem returns_beside_batch :
    ∃ log, Run 1 hurrying.1 log ∧ hurrying.1.shutdownCalls = [.announcing, .returned] ∧
      hurrying.1.runningNames = ["index:issue"] := by
  have followed : (Pool.start 1).follow [] hurried = some hurrying := rfl
  exact ⟨hurrying.2, Run.start.follow followed, rfl, rfl⟩

end Pool

end EntitySearch.Scheduling
