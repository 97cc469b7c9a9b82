import EntitySearch.Proofs.PoolInventory

/-!
# Stalls of the pool

A pool stalls when only the end of a batch can move it on.  A worker may be ready
then although a task sleeps: the wake-up for it has gone to a task that executes a
batch, since that task registered before the one that sleeps.  This is the only way.
The wake-up for a ready worker is owed, kept, held by a task, or made unnecessary by
a task that comes to the queue anyway, so a worker that is ready in a stalled pool
waits for a free task or for the one that holds its wake-up.
-/

namespace EntitySearch.Scheduling

/-- Whether a task in this phase looks at the queue before it sleeps or executes a batch. -/
def Phase.nearsQueue {Agent : Type} : Phase Agent → Bool
  | .arriving => true
  | .looking => true
  | .releasing => true
  | _ => false

namespace Pool

variable {Agent : Type} {pool next : Pool Agent}

/-! ### Kept wake-ups -/

/-- A wake-up is kept only while nobody waits for one. -/
def Spare (pool : Pool Agent) : Prop :=
  pool.permit = true → pool.waiting = []

theorem Spare.congr (spare : Spare pool) (permit : next.permit = pool.permit)
    (waiting : next.waiting = pool.waiting) : Spare next := by
  unfold Spare
  rw [permit, waiting]
  exact spare

theorem Spare.wakeOne (spare : Spare pool) : Spare pool.wakeOne := by
  unfold Pool.wakeOne
  split
  case h_1 task rest waiting =>
    intro permit
    have nobody := spare permit
    rw [waiting] at nobody
    cases nobody
  case h_2 nobody => exact fun _ => nobody

theorem Spare.woken (spare : Spare pool) (wakes : next = pool ∨ next = pool.wakeOne) :
    Spare next := by
  rcases wakes with rfl | rfl
  · exact spare
  · exact spare.wakeOne

theorem spare_registerTask (pool : Pool Agent) (task : Nat) : Spare (pool.registerTask task) := by
  unfold registerTask
  split
  case isTrue => exact fun permit => nomatch permit
  case isFalse unkept => exact fun permit => (unkept permit).elim

theorem Spare.dropRegistration (spare : Spare pool) (task : Nat) :
    Spare (pool.dropRegistration task) := by
  unfold Pool.dropRegistration
  split
  · intro permit
    have nobody := spare permit
    simp [setRegistration, updateTask, nobody]
  · have silent : Spare (pool.setRegistration task .none) := spare.congr rfl rfl
    exact silent.wakeOne
  · exact spare.congr rfl rfl
  · exact spare

theorem Spare.wakeIfIdle (spare : Spare pool) : Spare pool.wakeIfIdle := by
  unfold Pool.wakeIfIdle
  split
  · exact spare.congr rfl rfl
  · exact spare

theorem Spare.moves {event : PoolEvent Agent} (spare : Spare pool)
    (moved : Moves pool event next) : Spare next := by
  cases moved with
  | announce =>
      have lessOwed : Spare { pool with owedWakeups := pool.owedWakeups - 1 } :=
        spare.congr rfl rfl
      exact lessOwed.wakeOne
  | register => exact (spare_registerTask pool _).congr rfl rfl
  | @lookSkips task entry _ _ _ _ _ wakes =>
      have skipped : Spare (pool.withSkipped entry) := spare.congr rfl rfl
      exact (skipped.woken wakes).congr rfl rfl
  | @lookTakes task entry slot _ _ _ _ _ wakes =>
      have drained : Spare (pool.withDrained entry slot) := spare.congr rfl rfl
      exact (drained.woken wakes).congr rfl rfl
  | @completeRests task batch slot =>
      have rested : Spare (pool.withRested task batch.name slot) := spare.congr rfl rfl
      exact rested.wakeIfIdle
  | @completeRequeues task batch slot =>
      have requeued : Spare (pool.withRequeued task batch.name slot) := spare.congr rfl rfl
      exact requeued.wakeOne.wakeIfIdle
  | completeForgets => exact Spare.wakeIfIdle (spare.congr rfl rfl)
  | release => exact (spare.dropRegistration _).congr rfl rfl
  | exit => exact (spare.dropRegistration _).congr rfl rfl
  | announceShutdown => exact fun _ => waiting_wakeAll pool
  | _ => exact spare.congr rfl rfl

/-! ### Announced workers -/

/-- A wake-up is kept, or held by a task that has not acted on it. -/
def Signalled (pool : Pool Agent) : Prop :=
  pool.permit = true ∨ ∃ task : Nat, pool.registrations[task]? = some .wokenAlone

/-- A wake-up is owed or has been given, or some task comes to the queue anyway. -/
inductive Announced (pool : Pool Agent) : Prop
  | owed (owed : pool.owedWakeups ≠ 0)
  | signalled (signalled : Signalled pool)
  | near (task : Nat) {phase : Phase Agent} (found : pool.phases[task]? = some phase)
      (nears : phase.nearsQueue = true)

theorem Signalled.congr (signalled : Signalled pool) (permit : next.permit = pool.permit)
    (registrations : next.registrations = pool.registrations) : Signalled next := by
  unfold Signalled
  rw [permit, registrations]
  exact signalled

theorem Announced.congr (announced : Announced pool)
    (owedWakeups : next.owedWakeups = pool.owedWakeups) (permit : next.permit = pool.permit)
    (phases : next.phases = pool.phases)
    (registrations : next.registrations = pool.registrations) : Announced next := by
  cases announced with
  | owed owed => exact .owed (owedWakeups ▸ owed)
  | signalled signalled => exact .signalled (signalled.congr permit registrations)
  | near task found nears => exact .near task (phases ▸ found) nears

theorem announced_setPhase {task : Nat} {before phase : Phase Agent}
    (found : pool.phases[task]? = some before) (nears : phase.nearsQueue = true) :
    Announced (pool.setPhase task phase) :=
  .near task (phase_of_set found (phases_setPhase ..)) nears

theorem signalled_wakeOne (enrolled : Enrolled pool) : Signalled pool.wakeOne := by
  unfold wakeOne
  split
  case h_1 task rest waiting =>
    have registered := (enrolled.waiting_iff task).1 (waiting ▸ List.mem_cons_self)
    obtain ⟨phase, found⟩ := exists_phase registered
    exact Or.inr ⟨task, Enrolled.getElem?_registrations_setRegistration found .wokenAlone⟩
  case h_2 => exact Or.inl rfl

theorem announced_complete {task : Nat} {batch : Batch Agent}
    (working : pool.phases[task]? = some (.working batch))
    (phases : next.phases = pool.phases.set task .releasing) : Announced next :=
  .near task (phase_of_set working phases) rfl

theorem getElem?_registrations_foldl {task : Nat} {tasks : List Nat} (absent : task ∉ tasks)
    (present : Pool Agent) (registration : Registration) :
    (tasks.foldl (fun present task => present.setRegistration task registration)
      present).registrations[task]? = present.registrations[task]? := by
  induction tasks generalizing present with
  | nil => rfl
  | cons first tasks ih =>
      have different := List.ne_of_not_mem_cons absent
      rw [List.foldl_cons, ih (List.not_mem_of_not_mem_cons absent),
        registrations_setRegistration, List.getElem?_set_ne (Ne.symm different)]

theorem Signalled.wakeAll (signalled : Signalled pool) (enrolled : Enrolled pool) :
    Signalled pool.wakeAll := by
  rcases signalled with kept | ⟨task, woken⟩
  · exact Or.inl ((Enrolled.foldl_setRegistration Pool.permit (fun _ _ => rfl) ..).trans kept)
  · have unlisted : task ∉ pool.waiting := by
      rw [enrolled.waiting_iff, woken]
      exact nofun
    exact Or.inr ⟨task, (getElem?_registrations_foldl unlisted _ _).trans woken⟩

theorem step_look {task : Nat} (looking : pool.phases[task]? = some .looking)
    (opened : pool.closed = false) :
    pool.step (.look task) = some (pool.takeBatch task) := by
  obtain ⟨registration, registered⟩ := exists_registration looking
  simp [step, exists_task looking registered, opened]

/-- A task that takes a batch and leaves other workers ready wakes somebody for them. -/
theorem takeBatch_of_remaining {task : Nat} {entry : ReadyEntry} {slot : Slot Agent}
    (least : leastReady? pool.ready = some entry)
    (known : pool.slots.get? entry.name = some slot)
    (remaining : pool.ready.erase entry ≠ []) :
    pool.takeBatch task = (pool.withDrained entry slot).wakeOne.setPhase task
      (.working ⟨entry.name, slot.worker, slot.pending⟩) := by
  have some_left : (pool.ready.erase entry).isEmpty = false := by
    simpa using remaining
  simp only [takeBatch, least, known, some_left]
  rfl

theorem announced_step {event : PoolEvent Agent} (invariant : Invariant pool)
    (announced : pool.ready ≠ [] → Announced pool) (stepped : pool.step event = some next) :
    next.ready ≠ [] → Announced next := by
  have enrolled := invariant.enrolled
  intro ready
  -- Closing the pool drains the queue, so behind it nothing is ready; all other moves either
  -- keep what announces the ready workers or announce them anew.
  cases moves_of_step stepped with
  | submitReady => exact .owed (Nat.succ_ne_zero _)
  | announce =>
      have lessOwed : Enrolled { pool with owedWakeups := pool.owedWakeups - 1 } :=
        enrolled.congr rfl rfl rfl
      exact .signalled (signalled_wakeOne lessOwed)
  | @register task arriving =>
      exact announced_setPhase ((sameWork_registerTask pool task).phases ▸ arriving) rfl
  | lookClosed looking closed => exact (ready (invariant.coherent.drainedReady closed)).elim
  | lookParks looking opened empty => exact (ready empty).elim
  | lookSkips _ _ least unknown => exact (invariant.coherent.known_of_least least unknown).elim
  | @lookTakes task entry slot looking opened least known taken wakes =>
      have remaining : pool.ready.erase entry ≠ [] := by
        have same : taken.ready = pool.ready.erase entry := (sameWork_woken wakes).ready
        exact same ▸ ready
      have drained : Enrolled (pool.withDrained entry slot) := enrolled.congr rfl rfl rfl
      -- The move does not say whether somebody is woken, so the step itself is opened here.
      rw [step_look looking opened, takeBatch_of_remaining least known remaining] at stepped
      rw [← Option.some.inj stepped]
      have signalled := signalled_wakeOne drained
      exact .signalled (signalled.congr rfl (registrations_setPhase ..))
  | @resume task _ parked =>
      exact announced_setPhase ((phases_setRegistration pool task .none).symm ▸ parked) rfl
  | completeRests working =>
      exact announced_complete working ((phases_wakeIfIdle _).trans (phases_setPhase ..))
  | completeRequeues working =>
      exact announced_complete working ((phases_wakeIfIdle _).trans
        ((sameWork_wakeOne _).phases.trans (phases_setPhase ..)))
  | completeForgets working =>
      exact announced_complete working ((phases_wakeIfIdle _).trans (phases_setPhase ..))
  | @release task releasing =>
      exact announced_setPhase ((sameWork_dropRegistration pool task).phases ▸ releasing) rfl
  | @exit task exiting =>
      have closed := invariant.leaving task (Or.inl exiting)
      have drained := invariant.coherent.drainedReady closed
      exact (ready ((sameWork_dropRegistration pool task).ready.trans drained)).elim
  | shutdown => exact (ready rfl).elim
  | announceShutdown =>
      have same := sameWork_wakeAll pool
      cases announced (same.ready ▸ ready) with
      | owed owed => exact .owed (same.owedWakeups ▸ owed)
      | signalled signalled =>
          exact .signalled ((signalled.wakeAll enrolled).congr rfl rfl)
      | near task found nears => exact .near task (same.phases ▸ found) nears
  | _ => exact (announced ready).congr rfl rfl rfl rfl

theorem Run.spare {size : Nat} {log : List (LogEntry Agent)} (run : Run size pool log) :
    Spare pool := by
  induction run with
  | start => exact fun permit => nomatch permit
  | step _ stepped ih => exact ih.moves (moves_of_step stepped)

theorem Run.announced {size : Nat} {log : List (LogEntry Agent)} (run : Run size pool log) :
    pool.ready ≠ [] → Announced pool := by
  induction run with
  | start => exact fun ready => (ready rfl).elim
  | step run stepped ih => exact announced_step run.invariant ih stepped

/-! ### Stalled pools -/

theorem Coherent.active_of_all_working (coherent : Coherent pool)
    (working : ∀ (task : Nat) (phase : Phase Agent), pool.phases[task]? = some phase →
      ∃ batch, phase = .working batch) : pool.active = pool.phases.length := by
  rw [coherent.active, running, List.filterMap_length_eq_length]
  intro phase member
  obtain ⟨task, found⟩ := List.mem_iff_getElem?.1 member
  obtain ⟨batch, rfl⟩ := working task phase found
  rfl

section Stalled

variable {size : Nat} {log : List (LogEntry Agent)}

/-- Nothing but a wake-up announces a worker that is ready in a stalled pool. -/
theorem signalled_of_stalled (run : Run size pool log) (opened : pool.closed = false)
    (stalled : Stalled pool) (ready : pool.ready ≠ []) : Signalled pool := by
  cases run.announced ready with
  | owed owed =>
      have settled := stalled .announce rfl rfl
      simp [step, owed] at settled
  | near task found nears =>
      rcases run.invariant.sleeps_or_works opened stalled found with sleeps | ⟨batch, rfl⟩
      · cases found.symm.trans sleeps.1
        cases nears
      · cases nears
  | signalled signalled => exact signalled

/-- Nobody waits where a wake-up is kept, so nobody sleeps. -/
theorem active_of_permit (run : Run size pool log) (opened : pool.closed = false)
    (stalled : Stalled pool) (kept : pool.permit = true) : pool.active = effectiveSize size := by
  have invariant := run.invariant
  rw [← run.length_phases]
  refine invariant.coherent.active_of_all_working fun task phase found => ?_
  refine (invariant.sleeps_or_works opened stalled found).resolve_left fun sleeps => ?_
  have listed := (invariant.enrolled.waiting_iff task).2 sleeps.2
  rw [run.spare kept] at listed
  cases listed

/-- A task that has been woken does not sleep, but it may hold the wake-up while it works. -/
theorem working_of_wokenAlone (run : Run size pool log) (opened : pool.closed = false)
    (stalled : Stalled pool) {task : Nat}
    (woken : pool.registrations[task]? = some .wokenAlone) :
    ∃ batch, pool.phases[task]? = some (.working batch) := by
  obtain ⟨phase, found⟩ := exists_phase woken
  rcases run.invariant.sleeps_or_works opened stalled found with sleeps | ⟨batch, rfl⟩
  · cases woken.symm.trans sleeps.2
  · exact ⟨batch, found⟩

/-- A worker is ready in a stalled pool only if every task executes a batch or one that does
holds the wake-up. -/
theorem full_or_held_of_stalled (run : Run size pool log) (opened : pool.closed = false)
    (stalled : Stalled pool) (ready : pool.ready ≠ []) :
    pool.active = effectiveSize size ∨
      ∃ (task : Nat) (batch : Batch Agent), pool.phases[task]? = some (.working batch) ∧
        pool.registrations[task]? = some .wokenAlone := by
  rcases signalled_of_stalled run opened stalled ready with kept | ⟨task, woken⟩
  · exact Or.inl (active_of_permit run opened stalled kept)
  · obtain ⟨batch, working⟩ := working_of_wokenAlone run opened stalled woken
    exact Or.inr ⟨task, batch, working, woken⟩

/-- No worker is ready in a stalled pool that executes nothing. -/
theorem active_pos_of_stalled (run : Run size pool log) (opened : pool.closed = false)
    (stalled : Stalled pool) (ready : pool.ready ≠ []) : 0 < pool.active := by
  rcases signalled_of_stalled run opened stalled ready with kept | ⟨task, woken⟩
  · rw [active_of_permit run opened stalled kept, effectiveSize]
    omega
  · obtain ⟨batch, working⟩ := working_of_wokenAlone run opened stalled woken
    rw [run.invariant.coherent.active]
    exact List.length_pos_of_mem (Coherent.mem_running working)

/-- With one task a worker waits only while that task executes a batch. -/
theorem full_of_stalled_single (run : Run size pool log) (opened : pool.closed = false)
    (stalled : Stalled pool) (ready : pool.ready ≠ []) (single : size ≤ 1) :
    pool.active = effectiveSize size := by
  have bounded := run.active_le
  have positive := active_pos_of_stalled run opened stalled ready
  unfold effectiveSize at *
  omega

end Stalled

/-- The first task takes a batch of issues, registered before the second, which sleeps; then
comments become ready. -/
def overlooked : List (PoolEvent Unit) :=
  [.submit issueWorker .scan, .announce, .register 1, .register 0, .look 0, .look 1,
    .resume 1, .register 1, .look 1, .submit commentWorker .scan, .announce]

def overlooking : Pool Unit × List (LogEntry Unit) :=
  ((Pool.start 2).follow [] overlooked).getD (Pool.start 2, [])

theorem stalled_overlooking : Stalled overlooking.1 := by
  intro event uncalled unending
  cases event with
  | submit => cases uncalled
  | awaitIdle => cases uncalled
  | beginShutdown => cases uncalled
  | complete => cases unending
  | announce => rfl
  | register task => rcases task with _ | _ | task <;> rfl
  | look task => rcases task with _ | _ | task <;> rfl
  | resume task => rcases task with _ | _ | task <;> rfl
  | release task => rcases task with _ | _ | task <;> rfl
  | registerIdle => rfl
  | lookIdle => rfl
  | resumeIdle => rfl
  | announceShutdown => rfl
  | finishShutdown => rfl

theorem run_overlooking : Run 2 overlooking.1 overlooking.2 :=
  Run.start.follow (rfl : (Pool.start 2).follow [] overlooked = some overlooking)

/-- The wake-up for the comments is held by the task that executes the issues. -/
theorem held_in_overlooking :
    overlooking.1.active = effectiveSize 2 ∨
      ∃ (task : Nat) (batch : Batch Unit), overlooking.1.phases[task]? = some (.working batch) ∧
        overlooking.1.registrations[task]? = some .wokenAlone :=
  full_or_held_of_stalled run_overlooking rfl stalled_overlooking (List.cons_ne_nil _ _)

/-- With two tasks a worker can wait beside one that sleeps. -/
theorem waits_beside_sleeper :
    ∃ log, Run 2 overlooking.1 log ∧ Stalled overlooking.1 ∧ overlooking.1.closed = false ∧
      overlooking.1.readyNames = ["index:comment"] ∧ overlooking.1.active = 1 ∧
      overlooking.1.Sleeps 1 :=
  ⟨overlooking.2, run_overlooking, stalled_overlooking, rfl, rfl, rfl, rfl, rfl⟩

end Pool

end EntitySearch.Scheduling
