import EntitySearch.Proofs.PoolCoherence

/-!
# Wake-ups of the pool

No wake-up is lost: while a worker is ready, some task is on its way to the queue
or a wake-up is still owed to one.  The callers that wait for the pool to be idle
are woken by the batch that makes it idle.
-/

namespace EntitySearch.Scheduling.Pool

variable {Agent : Type}

/-- What the registration of a task must be in its phase. -/
def Fits (phase : Phase Agent) (registration : Registration) : Prop :=
  (phase = .arriving → registration = .none) ∧
    (phase = .looking ∨ phase = .parked → registration ≠ .none)

theorem fits_looking {registration : Registration} (registered : registration ≠ .none) :
    Fits (.looking : Phase Agent) registration :=
  ⟨by simp, fun _ => registered⟩

theorem fits_arriving : Fits (.arriving : Phase Agent) .none :=
  ⟨fun _ => rfl, by simp⟩

/-- In the other phases a task may stand as it likes with the wake-ups. -/
theorem fits_of_free {phase : Phase Agent}
    (free : phase ≠ .arriving ∧ phase ≠ .looking ∧ phase ≠ .parked)
    (registration : Registration) : Fits phase registration :=
  ⟨fun arriving => (free.1 arriving).elim, fun attentive =>
    (attentive.elim free.2.1 free.2.2).elim⟩

/-- The registrations fit the list of those who wait and the phases of the tasks. -/
structure Enrolled (pool : Pool Agent) : Prop where
  waiting_iff : ∀ task : Nat, task ∈ pool.waiting ↔ pool.registrations[task]? = some .waiting
  distinct : pool.waiting.Nodup
  fits : ∀ (task : Nat) (phase : Phase Agent) (registration : Registration),
    pool.phases[task]? = some phase → pool.registrations[task]? = some registration →
      Fits phase registration

theorem length_registrations (pool : Pool Agent) :
    pool.registrations.length = pool.phases.length := by
  simp [registrations, phases]

theorem lt_length_of_phase {pool : Pool Agent} {task : Nat} {phase : Phase Agent}
    (found : pool.phases[task]? = some phase) : task < pool.phases.length :=
  (List.getElem?_eq_some_iff.1 found).1

theorem phase_of_set {pool next : Pool Agent} {task : Nat} {before after : Phase Agent}
    (found : pool.phases[task]? = some before)
    (phases : next.phases = pool.phases.set task after) : next.phases[task]? = some after := by
  rw [phases, List.getElem?_set_self (lt_length_of_phase found)]

theorem exists_registration {pool : Pool Agent} {task : Nat} {phase : Phase Agent}
    (found : pool.phases[task]? = some phase) :
    ∃ registration, pool.registrations[task]? = some registration := by
  have inside := lt_length_of_phase found
  rw [← length_registrations] at inside
  exact ⟨_, List.getElem?_eq_getElem inside⟩

theorem exists_phase {pool : Pool Agent} {task : Nat} {registration : Registration}
    (found : pool.registrations[task]? = some registration) :
    ∃ phase, pool.phases[task]? = some phase := by
  have inside := (List.getElem?_eq_some_iff.1 found).1
  rw [length_registrations] at inside
  exact ⟨_, List.getElem?_eq_getElem inside⟩

theorem set_of_getElem? {Member : Type} {members : List Member} {place : Nat}
    {member : Member} (found : members[place]? = some member) :
    members.set place member = members := by
  obtain ⟨inside, rfl⟩ := List.getElem?_eq_some_iff.1 found
  exact List.set_getElem_self inside

namespace Enrolled

variable {pool next : Pool Agent}

theorem start (size : Nat) : Enrolled (Pool.start size : Pool Agent) := by
  have registrations : (Pool.start size : Pool Agent).registrations =
      List.replicate (effectiveSize size) .none := by
    simp [Pool.start, Pool.registrations]
  have phases : (Pool.start size : Pool Agent).phases =
      List.replicate (effectiveSize size) .arriving := by
    simp [Pool.start, Pool.phases]
  refine ⟨fun task => ?_, List.nodup_nil, fun task phase registration found registered => ?_⟩
  · rw [registrations]
    simp [Pool.start, List.getElem?_replicate]
  · rw [phases, List.getElem?_replicate] at found
    rw [registrations, List.getElem?_replicate] at registered
    split at found
    · cases found
      rw [if_pos ‹_›] at registered
      cases registered
      exact ⟨fun _ => rfl, by simp⟩
    · cases found

theorem congr (enrolled : Enrolled pool) (waiting : next.waiting = pool.waiting)
    (phases : next.phases = pool.phases)
    (registrations : next.registrations = pool.registrations) : Enrolled next := by
  constructor
  · rw [waiting, registrations]
    exact enrolled.waiting_iff
  · rw [waiting]
    exact enrolled.distinct
  · rw [phases, registrations]
    exact enrolled.fits

theorem change (enrolled : Enrolled pool) {task : Nat} {phase : Phase Agent}
    {registration : Registration} (inside : task < pool.phases.length)
    (fitting : Fits phase registration)
    (phases : next.phases = pool.phases.set task phase)
    (registrations : next.registrations = pool.registrations.set task registration)
    (distinct : next.waiting.Nodup)
    (own : task ∈ next.waiting ↔ registration = .waiting)
    (others : ∀ other : Nat, other ≠ task → (other ∈ next.waiting ↔ other ∈ pool.waiting)) :
    Enrolled next := by
  have registered : task < pool.registrations.length := by
    rwa [length_registrations]
  refine ⟨fun other => ?_, distinct, fun other otherPhase otherRegistration => ?_⟩
  · rw [registrations]
    by_cases same : other = task
    · subst same
      rw [List.getElem?_set_self registered, own, Option.some.injEq]
    · rw [List.getElem?_set_ne (Ne.symm same), others other same, enrolled.waiting_iff]
  · rw [phases, registrations]
    by_cases same : other = task
    · subst same
      rw [List.getElem?_set_self inside, List.getElem?_set_self registered]
      rintro ⟨⟩ ⟨⟩
      exact fitting
    · rw [List.getElem?_set_ne (Ne.symm same), List.getElem?_set_ne (Ne.symm same)]
      exact enrolled.fits other otherPhase otherRegistration

theorem setPhase (enrolled : Enrolled pool) {task : Nat} {phase : Phase Agent}
    {registration : Registration} (registered : pool.registrations[task]? = some registration)
    (fitting : Fits phase registration) : Enrolled (pool.setPhase task phase) := by
  obtain ⟨before, found⟩ := exists_phase registered
  refine enrolled.change (lt_length_of_phase found) fitting (phases_setPhase ..) ?_
    enrolled.distinct ?_ fun _ _ => Iff.rfl
  · rw [registrations_setPhase, set_of_getElem? registered]
  · exact (enrolled.waiting_iff task).trans (by rw [registered, Option.some.injEq])

theorem setRegistration (enrolled : Enrolled pool) {task : Nat} {phase : Phase Agent}
    {registration : Registration} (found : pool.phases[task]? = some phase)
    (fitting : Fits phase registration) (unlisted : task ∉ pool.waiting)
    (unwaiting : registration ≠ .waiting) :
    Enrolled (pool.setRegistration task registration) := by
  refine enrolled.change (lt_length_of_phase found) fitting ?_ (registrations_setRegistration ..)
    enrolled.distinct ?_ fun _ _ => Iff.rfl
  · rw [phases_setRegistration, set_of_getElem? found]
  · exact iff_of_false unlisted unwaiting

/-- The task that has been registered longest is woken. -/
theorem wake (enrolled : Enrolled pool) {task : Nat} {rest : List Nat}
    (waiting : pool.waiting = task :: rest) {registration : Registration}
    (registered : registration ≠ .none) (woken : registration ≠ .waiting) :
    Enrolled ({ pool with waiting := rest }.setRegistration task registration) := by
  have distinct := enrolled.distinct
  rw [waiting, List.nodup_cons] at distinct
  have before := (enrolled.waiting_iff task).1 (waiting ▸ List.mem_cons_self)
  obtain ⟨phase, found⟩ := exists_phase before
  have fitting : Fits phase registration := by
    refine ⟨fun arriving => ?_, fun _ => registered⟩
    cases (enrolled.fits task phase .waiting found before).1 arriving
  refine enrolled.change (lt_length_of_phase found) fitting ?_
    (registrations_setRegistration ..) distinct.2 ?_ fun other different => ?_
  · rw [phases_setRegistration]
    exact (set_of_getElem? found).symm
  · exact iff_of_false distinct.1 woken
  · rw [waiting, List.mem_cons, or_iff_right different]
    rfl

theorem wakeOne (enrolled : Enrolled pool) : Enrolled pool.wakeOne := by
  unfold Pool.wakeOne
  split
  case h_1 task rest waiting => exact enrolled.wake waiting (by simp) (by simp)
  case h_2 => exact enrolled.congr rfl rfl rfl

theorem woken (enrolled : Enrolled pool) (wakes : next = pool ∨ next = pool.wakeOne) :
    Enrolled next := by
  rcases wakes with rfl | rfl
  · exact enrolled
  · exact enrolled.wakeOne

/-- Whatever a change of one registration keeps, a change of many keeps. -/
theorem foldl_setRegistration {Value : Type} (read : Pool Agent → Value)
    {registration : Registration}
    (keeps : ∀ present task, read (present.setRegistration task registration) = read present)
    (tasks : List Nat) (present : Pool Agent) :
    read (tasks.foldl (fun present task => present.setRegistration task registration) present) =
      read present := by
  induction tasks generalizing present with
  | nil => rfl
  | cons task tasks ih => exact (ih _).trans (keeps present task)

theorem wakeAll (enrolled : Enrolled pool) : Enrolled pool.wakeAll := by
  -- The tasks that have not been woken yet play the part of the waiting list.
  have folded (tasks : List Nat) : ∀ present : Pool Agent,
      Enrolled { present with waiting := tasks } →
        Enrolled { tasks.foldl (fun present task => present.setRegistration task
          .wokenWithAll) present with waiting := [] } := by
    induction tasks with
    | nil => exact fun present unwoken => unwoken
    | cons task tasks ih =>
        exact fun present unwoken => ih _ (unwoken.wake rfl (by simp) (by simp))
  refine (folded pool.waiting { pool with waiting := [] } enrolled).congr ?_ rfl rfl
  exact foldl_setRegistration Pool.waiting (fun _ _ => rfl) ..

theorem register (enrolled : Enrolled pool) {task : Nat}
    (arriving : pool.phases[task]? = some .arriving) :
    Enrolled ((pool.registerTask task).setPhase task .looking) := by
  obtain ⟨registration, registered⟩ := exists_registration arriving
  obtain rfl := (enrolled.fits task .arriving registration arriving registered).1 rfl
  have unlisted : task ∉ pool.waiting := by
    rw [enrolled.waiting_iff, registered]
    exact nofun
  have inside := lt_length_of_phase arriving
  have phases : ((pool.registerTask task).setPhase task .looking).phases =
      pool.phases.set task .looking := by
    rw [phases_setPhase, (sameWork_registerTask pool task).phases]
  unfold registerTask at phases ⊢
  split
  case isTrue permit =>
    rw [if_pos permit] at phases
    have registrations : ({ pool with permit := false }.setRegistration task
        .granted).registrations = pool.registrations.set task .granted :=
      registrations_setRegistration ..
    refine enrolled.change inside (fits_looking (by simp)) phases
      ((registrations_setPhase ..).trans registrations) enrolled.distinct ?_
      fun _ _ => Iff.rfl
    exact iff_of_false unlisted (by simp)
  case isFalse permit =>
    rw [if_neg permit] at phases
    have distinct : (pool.waiting ++ [task]).Nodup :=
      List.nodup_append.2 ⟨enrolled.distinct, List.nodup_singleton task,
        fun member isMember other isOther same =>
          unlisted (List.mem_singleton.1 isOther ▸ same ▸ isMember)⟩
    have registrations : ({ pool with waiting := pool.waiting ++ [task] }.setRegistration task
        .waiting).registrations = pool.registrations.set task .waiting :=
      registrations_setRegistration ..
    refine enrolled.change inside (fits_looking (by simp)) phases
      ((registrations_setPhase ..).trans registrations) distinct ?_ fun other different => ?_
    · exact iff_of_true (List.mem_append_right _ List.mem_cons_self) rfl
    · simp [Pool.setPhase, Pool.setRegistration, updateTask, different]

/-- A registration that does not wait can be given up. -/
theorem unregister (enrolled : Enrolled pool) {task : Nat} {phase : Phase Agent}
    {registration : Registration} (found : pool.phases[task]? = some phase)
    (fitting : Fits phase .none) (registered : pool.registrations[task]? = some registration)
    (unwaiting : registration ≠ .waiting) : Enrolled (pool.setRegistration task .none) := by
  refine enrolled.setRegistration found fitting ?_ (by simp)
  rw [enrolled.waiting_iff, registered, Option.some.injEq]
  exact unwaiting

theorem getElem?_registrations_setRegistration {task : Nat} {phase : Phase Agent}
    (found : pool.phases[task]? = some phase) (registration : Registration) :
    (pool.setRegistration task registration).registrations[task]? = some registration := by
  have inside := lt_length_of_phase found
  rw [← length_registrations] at inside
  rw [registrations_setRegistration, List.getElem?_set_self inside]

/-- A wake-up does not reach a task without registration. -/
theorem unregistered_wakeOne (enrolled : Enrolled pool) {task : Nat}
    (unregistered : pool.registrations[task]? = some .none) :
    pool.wakeOne.registrations[task]? = some .none := by
  unfold Pool.wakeOne
  split
  case h_1 other rest waiting =>
    have registered := (enrolled.waiting_iff other).1 (waiting ▸ List.mem_cons_self)
    have different : other ≠ task := by
      rintro rfl
      rw [registered] at unregistered
      cases unregistered
    rw [registrations_setRegistration, List.getElem?_set_ne different]
    exact unregistered
  case h_2 => exact unregistered

/-- A task that gives its registration up is unregistered afterwards. -/
theorem dropRegistration (enrolled : Enrolled pool) {task : Nat} {phase : Phase Agent}
    (found : pool.phases[task]? = some phase) (fitting : Fits phase .none) :
    Enrolled (pool.dropRegistration task) ∧
      (pool.dropRegistration task).registrations[task]? = some .none := by
  obtain ⟨registration, registered⟩ := exists_registration found
  have looked : pool.tasks[task]?.map PoolTask.registration = some registration := by
    simpa [registrations] using registered
  have dropped := getElem?_registrations_setRegistration found .none
  unfold Pool.dropRegistration
  rw [looked]
  cases registration with
  | waiting =>
      refine ⟨enrolled.change (lt_length_of_phase found) fitting ?_
        (registrations_setRegistration ..) (enrolled.distinct.erase task) ?_
        fun other different => ?_, dropped⟩
      · exact (phases_setRegistration ..).trans (set_of_getElem? found).symm
      · exact iff_of_false (enrolled.distinct.not_mem_erase) (by simp)
      · exact List.mem_erase_of_ne different
  | wokenAlone =>
      have silent := enrolled.unregister found fitting registered (by simp)
      exact ⟨silent.wakeOne, silent.unregistered_wakeOne dropped⟩
  | none => exact ⟨enrolled.unregister found fitting registered (by simp), dropped⟩
  | wokenWithAll => exact ⟨enrolled.unregister found fitting registered (by simp), dropped⟩
  | granted => exact ⟨enrolled.unregister found fitting registered (by simp), dropped⟩

theorem setFreePhase (enrolled : Enrolled pool) {task : Nat} {before phase : Phase Agent}
    (found : pool.phases[task]? = some before)
    (free : phase ≠ .arriving ∧ phase ≠ .looking ∧ phase ≠ .parked) :
    Enrolled (pool.setPhase task phase) := by
  obtain ⟨registration, registered⟩ := exists_registration found
  exact enrolled.setPhase registered (fits_of_free free registration)

theorem park (enrolled : Enrolled pool) {task : Nat}
    (looking : pool.phases[task]? = some .looking) : Enrolled (pool.setPhase task .parked) := by
  obtain ⟨registration, registered⟩ := exists_registration looking
  have attentive := (enrolled.fits task .looking registration looking registered).2 (Or.inl rfl)
  exact enrolled.setPhase registered ⟨by simp, fun _ => attentive⟩

theorem resume (enrolled : Enrolled pool) {task : Nat} {registration : Registration}
    (parked : pool.phases[task]? = some .parked)
    (registered : pool.registrations[task]? = some registration)
    (woken : registration.isReady = true) :
    Enrolled ((pool.setRegistration task .none).setPhase task .arriving) := by
  have unlisted : task ∉ pool.waiting := by
    rw [enrolled.waiting_iff, registered, Option.some.injEq]
    rintro rfl
    cases woken
  refine enrolled.change (lt_length_of_phase parked) fits_arriving ?_ ?_ enrolled.distinct
    (iff_of_false unlisted (by simp)) fun _ _ => Iff.rfl
  · rw [phases_setPhase, phases_setRegistration]
  · rw [registrations_setPhase, registrations_setRegistration]

theorem release (enrolled : Enrolled pool) {task : Nat} {before : Phase Agent}
    (found : pool.phases[task]? = some before) :
    Enrolled (pool.setPhase task .releasing) :=
  enrolled.setFreePhase found (by simp)

theorem wakeIfIdle (enrolled : Enrolled pool) : Enrolled pool.wakeIfIdle := by
  unfold Pool.wakeIfIdle
  split
  · exact enrolled.congr rfl rfl rfl
  · exact enrolled

theorem moves {event : PoolEvent Agent} (enrolled : Enrolled pool)
    (moved : Moves pool event next) : Enrolled next := by
  cases moved with
  | submitRefused => exact enrolled
  | submitWaits => exact enrolled.congr rfl rfl rfl
  | submitReady => exact enrolled.congr rfl rfl rfl
  | announce =>
      have lessOwed : Enrolled { pool with owedWakeups := pool.owedWakeups - 1 } :=
        enrolled.congr rfl rfl rfl
      exact lessOwed.wakeOne
  | register arriving => exact enrolled.register arriving
  | lookClosed looking => exact enrolled.setFreePhase looking (by simp)
  | lookParks looking => exact enrolled.park looking
  | @lookSkips task entry looking _ _ _ left wakes =>
      have skipped : Enrolled (pool.withSkipped entry) := enrolled.congr rfl rfl rfl
      have phases : left.phases = pool.phases := (sameWork_woken wakes).phases
      exact (skipped.woken wakes).park (phases ▸ looking)
  | @lookTakes task entry slot looking _ _ _ taken wakes =>
      have drained : Enrolled (pool.withDrained entry slot) := enrolled.congr rfl rfl rfl
      have phases : taken.phases = pool.phases := (sameWork_woken wakes).phases
      exact (drained.woken wakes).setFreePhase (phases ▸ looking) (by simp)
  | resume parked registered woken => exact enrolled.resume parked registered woken
  | completeRests working =>
      have released := enrolled.release working
      exact wakeIfIdle (released.congr rfl rfl rfl)
  | @completeRequeues task batch slot working =>
      have released := enrolled.release working
      have requeued : Enrolled (pool.withRequeued task batch.name slot) :=
        released.congr rfl rfl rfl
      exact requeued.wakeOne.wakeIfIdle
  | completeForgets working =>
      have released := enrolled.release working
      exact wakeIfIdle (released.congr rfl rfl rfl)
  | release releasing =>
      obtain ⟨dropped, unregistered⟩ := enrolled.dropRegistration releasing
        (fits_of_free (by simp) _)
      exact dropped.setPhase unregistered fits_arriving
  | exit exiting =>
      obtain ⟨dropped, unregistered⟩ := enrolled.dropRegistration exiting
        (fits_of_free (by simp) _)
      exact dropped.setPhase unregistered (fits_of_free (by simp) _)
  | awaitIdle => exact enrolled.congr rfl rfl rfl
  | registerIdle => exact enrolled.congr rfl rfl rfl
  | lookIdle => exact enrolled.congr rfl rfl rfl
  | resumeIdle => exact enrolled.congr rfl rfl rfl
  | shutdownAgain => exact enrolled.congr rfl rfl rfl
  | shutdown => exact enrolled.congr rfl rfl rfl
  | announceShutdown => exact enrolled.wakeAll.congr rfl rfl rfl
  | finishShutdown => exact enrolled.congr rfl rfl rfl

end Enrolled

/-! ### Somebody is on the way to the queue -/

/-- The task sleeps until somebody wakes it. -/
def Sleeps (pool : Pool Agent) (task : Nat) : Prop :=
  pool.phases[task]? = some .parked ∧ pool.registrations[task]? = some .waiting

/-- A wake-up is owed, or some task does not sleep. -/
def Alert (pool : Pool Agent) : Prop :=
  pool.owedWakeups ≠ 0 ∨ ∃ task < pool.phases.length, ¬ pool.Sleeps task

variable {pool next : Pool Agent}

theorem Alert.congr (alert : Alert pool) (owedWakeups : next.owedWakeups = pool.owedWakeups)
    (phases : next.phases = pool.phases)
    (registrations : next.registrations = pool.registrations) : Alert next := by
  unfold Alert Sleeps
  rw [owedWakeups, phases, registrations]
  exact alert

theorem alert_of_phase (task : Nat) {phase : Phase Agent}
    (found : pool.phases[task]? = some phase) (awake : phase ≠ .parked) : Alert pool := by
  refine Or.inr ⟨task, lt_length_of_phase found, fun sleeps => awake ?_⟩
  exact Option.some.inj (found.symm.trans sleeps.1)

theorem alert_setPhase {task : Nat} {before phase : Phase Agent}
    (found : pool.phases[task]? = some before) (awake : phase ≠ .parked) :
    Alert (pool.setPhase task phase) :=
  alert_of_phase task (phase_of_set found (phases_setPhase ..)) awake

theorem alert_of_waiting_nil (enrolled : Enrolled pool) (staffed : pool.phases ≠ [])
    (nobody : pool.waiting = []) : Alert pool := by
  refine Or.inr ⟨0, List.length_pos_iff.2 staffed, fun sleeps => ?_⟩
  have listed := (enrolled.waiting_iff 0).2 sleeps.2
  rw [nobody] at listed
  cases listed

/-- A wake-up finds a task that sleeps, or none sleeps. -/
theorem alert_wakeOne (enrolled : Enrolled pool) (staffed : pool.phases ≠ []) :
    Alert pool.wakeOne := by
  unfold wakeOne
  split
  case h_1 task rest waiting =>
    have registered := (enrolled.waiting_iff task).1 (waiting ▸ List.mem_cons_self)
    obtain ⟨phase, found⟩ := exists_phase registered
    have woken := Enrolled.getElem?_registrations_setRegistration found .wokenAlone
    refine Or.inr ⟨task, ?_, fun sleeps => ?_⟩
    · rw [phases_setRegistration]
      exact lt_length_of_phase found
    · cases woken.symm.trans sleeps.2
  case h_2 nobody => exact alert_of_waiting_nil (enrolled.congr rfl rfl rfl) staffed nobody

theorem waiting_wakeAll (pool : Pool Agent) : pool.wakeAll.waiting = [] :=
  Enrolled.foldl_setRegistration Pool.waiting (fun _ _ => rfl) ..

/-- A task that has just ended its batch looks at the queue again. -/
theorem alert_complete {task : Nat} {batch : Batch Agent}
    (working : pool.phases[task]? = some (.working batch))
    (phases : next.phases = pool.phases.set task .releasing) : Alert next :=
  alert_of_phase task (phase_of_set working phases) (by simp)

theorem phases_wakeIfIdle (pool : Pool Agent) : pool.wakeIfIdle.phases = pool.phases := by
  unfold wakeIfIdle
  split <;> rfl

/-- While a worker is ready, a wake-up is owed or some task does not sleep. -/
theorem alert_moves {event : PoolEvent Agent} (coherent : Coherent pool)
    (enrolled : Enrolled pool) (staffed : pool.phases ≠ [])
    (attended : pool.ready ≠ [] → Alert pool) (moved : Moves pool event next) :
    next.ready ≠ [] → Alert next := by
  intro ready
  cases moved with
  | submitRefused => exact attended ready
  | submitWaits => exact (attended ready).congr rfl rfl rfl
  | submitReady => exact Or.inl (Nat.succ_ne_zero _)
  | announce =>
      have lessOwed : Enrolled { pool with owedWakeups := pool.owedWakeups - 1 } :=
        enrolled.congr rfl rfl rfl
      exact alert_wakeOne lessOwed staffed
  | @register task arriving =>
      exact alert_setPhase ((sameWork_registerTask pool task).phases ▸ arriving) (by simp)
  | lookClosed looking => exact alert_setPhase looking (by simp)
  | lookParks looking opened empty => exact (ready empty).elim
  | lookSkips _ _ least unknown => exact (coherent.known_of_least least unknown).elim
  | @lookTakes task entry slot looking opened least known taken wakes =>
      have phases : taken.phases = pool.phases := (sameWork_woken wakes).phases
      exact alert_setPhase (phases ▸ looking) (by simp)
  | @resume task _ parked =>
      exact alert_setPhase ((phases_setRegistration pool task .none).symm ▸ parked) (by simp)
  | completeRests working =>
      exact alert_complete working ((phases_wakeIfIdle _).trans (phases_setPhase ..))
  | completeRequeues working =>
      exact alert_complete working ((phases_wakeIfIdle _).trans
        ((sameWork_wakeOne _).phases.trans (phases_setPhase ..)))
  | completeForgets working =>
      exact alert_complete working ((phases_wakeIfIdle _).trans (phases_setPhase ..))
  | @release task releasing =>
      exact alert_setPhase ((sameWork_dropRegistration pool task).phases ▸ releasing) (by simp)
  | @exit task exiting =>
      exact alert_setPhase ((sameWork_dropRegistration pool task).phases ▸ exiting) (by simp)
  | awaitIdle => exact (attended ready).congr rfl rfl rfl
  | registerIdle => exact (attended ready).congr rfl rfl rfl
  | lookIdle => exact (attended ready).congr rfl rfl rfl
  | resumeIdle => exact (attended ready).congr rfl rfl rfl
  | shutdownAgain => exact (attended ready).congr rfl rfl rfl
  | shutdown => exact (ready rfl).elim
  | announceShutdown =>
      have staffedStill : pool.wakeAll.phases ≠ [] := (sameWork_wakeAll pool).phases ▸ staffed
      exact (alert_of_waiting_nil enrolled.wakeAll staffedStill (waiting_wakeAll pool)).congr
        rfl rfl rfl
  | finishShutdown => exact (attended ready).congr rfl rfl rfl

/-! ### Callers that wait for the pool to be idle -/

/-- Before shutdown a caller that waits without having been woken waits for something. -/
def Watched (pool : Pool Agent) : Prop :=
  pool.closed = false → ∀ caller ∈ pool.idleCallers, caller.phase = .parked →
    caller.woken = false → pool.isIdle = false

theorem Watched.congr (watched : Watched pool) (closed : next.closed = pool.closed)
    (idleCallers : next.idleCallers = pool.idleCallers) (active : next.active = pool.active)
    (ready : next.ready = pool.ready) : Watched next := by
  unfold Watched isIdle
  rw [closed, idleCallers, active, ready]
  exact watched

/-- Only the moved caller has to be looked at. -/
theorem Watched.set (watched : Watched pool) {place : Nat} {caller : IdleCaller}
    (fair : caller.phase = .parked → caller.woken = false → pool.isIdle = false) :
    Watched { pool with idleCallers := pool.idleCallers.set place caller } := by
  intro opened other member parked asleep
  rcases List.mem_or_eq_of_mem_set member with before | rfl
  · exact watched opened other before parked asleep
  · exact fair parked asleep

theorem watched_wakeIdleCallers (pool : Pool Agent) : Watched pool.wakeIdleCallers := by
  intro _ caller member parked asleep
  obtain ⟨before, -, rfl⟩ := List.mem_map.1 member
  cases phase : before.phase <;> simp [phase] at parked asleep

theorem watched_wakeIfIdle (pool : Pool Agent) : Watched pool.wakeIfIdle := by
  unfold wakeIfIdle
  split
  case isTrue => exact watched_wakeIdleCallers pool
  case isFalse busy => exact fun _ _ _ _ _ => by simpa using busy

/-- No step makes the pool idle behind the back of a waiting caller. -/
theorem watched_moves {event : PoolEvent Agent} (coherent : Coherent pool)
    (watched : Watched pool) (moved : Moves pool event next) : Watched next := by
  cases moved with
  | submitRefused => exact watched
  | submitWaits => exact watched.congr rfl rfl rfl rfl
  | submitReady => exact fun _ _ _ _ _ => by simp [isIdle, withReady, enqueue]
  | announce =>
      have woken := sameWork_wakeOne { pool with owedWakeups := pool.owedWakeups - 1 }
      exact watched.congr woken.closed woken.idleCallers woken.active woken.ready
  | @register task arriving =>
      have registered := sameWork_registerTask pool task
      exact watched.congr registered.closed registered.idleCallers registered.active
        registered.ready
  | lookClosed => exact watched.congr rfl rfl rfl rfl
  | lookParks => exact watched.congr rfl rfl rfl rfl
  | lookSkips _ _ least unknown => exact (coherent.known_of_least least unknown).elim
  | @lookTakes task entry slot looking opened least known taken wakes =>
      have active : taken.active = pool.active + 1 := (sameWork_woken wakes).active
      exact fun _ _ _ _ _ => by simp [isIdle, setPhase, updateTask, active]
  | resume => exact watched.congr rfl rfl rfl rfl
  | completeRests => exact watched_wakeIfIdle _
  | completeRequeues => exact watched_wakeIfIdle _
  | completeForgets => exact watched_wakeIfIdle _
  | @release task releasing =>
      have dropped := sameWork_dropRegistration pool task
      exact watched.congr dropped.closed dropped.idleCallers dropped.active dropped.ready
  | @exit task exiting =>
      have dropped := sameWork_dropRegistration pool task
      exact watched.congr dropped.closed dropped.idleCallers dropped.active dropped.ready
  | awaitIdle =>
      intro opened caller member parked asleep
      rcases List.mem_append.1 member with before | new
      · exact watched opened caller before parked asleep
      · cases List.mem_singleton.1 new
        cases parked
  | registerIdle => exact watched.set fun parked => by cases parked
  | lookIdle => exact watched.set fun parked _ => by cases idle : pool.isIdle <;> simp_all
  | resumeIdle => exact watched.set fun parked => by cases parked
  | shutdownAgain => exact watched.congr rfl rfl rfl rfl
  | shutdown => exact fun opened => by cases opened
  | announceShutdown =>
      have woken := sameWork_wakeAll pool
      exact watched.congr woken.closed woken.idleCallers woken.active woken.ready
  | finishShutdown => exact watched_wakeIdleCallers pool

theorem length_phases_moves {event : PoolEvent Agent} (moved : Moves pool event next) :
    next.phases.length = pool.phases.length := by
  cases moved with
  | announce => rw [(sameWork_wakeOne _).phases]; rfl
  | @register task arriving =>
      rw [phases_setPhase, List.length_set, (sameWork_registerTask pool task).phases]
  | lookSkips _ _ _ _ _ wakes =>
      rw [(sameWork_woken wakes).phases_setPhase, List.length_set]
      rfl
  | lookTakes _ _ _ _ _ wakes =>
      rw [(sameWork_woken wakes).phases_setPhase, List.length_set]
      rfl
  | completeRests =>
      rw [phases_wakeIfIdle]
      exact (congrArg _ (phases_setPhase ..)).trans (List.length_set ..)
  | completeRequeues =>
      rw [phases_wakeIfIdle, (sameWork_wakeOne _).phases]
      exact (congrArg _ (phases_setPhase ..)).trans (List.length_set ..)
  | completeForgets =>
      rw [phases_wakeIfIdle]
      exact (congrArg _ (phases_setPhase ..)).trans (List.length_set ..)
  | @release task releasing =>
      rw [phases_setPhase, List.length_set, (sameWork_dropRegistration pool task).phases]
  | @exit task exiting =>
      rw [phases_setPhase, List.length_set, (sameWork_dropRegistration pool task).phases]
  | announceShutdown => exact congrArg _ (sameWork_wakeAll pool).phases
  | lookClosed => rw [phases_setPhase, List.length_set]
  | lookParks => rw [phases_setPhase, List.length_set]
  | resume => rw [phases_setPhase, List.length_set, phases_setRegistration]
  | _ => rfl

/-! ### Tasks that leave -/

/-- Tasks leave their loop only behind a shutdown. -/
def Leaving (pool : Pool Agent) : Prop :=
  ∀ task : Nat, pool.phases[task]? = some .exiting ∨ pool.phases[task]? = some .exited →
    pool.closed = true

theorem Leaving.congr (leaving : Leaving pool) (phases : next.phases = pool.phases)
    (closed : next.closed = pool.closed) : Leaving next := by
  unfold Leaving
  rw [phases, closed]
  exact leaving

theorem Leaving.set (leaving : Leaving pool) {task : Nat} {phase : Phase Agent}
    (phases : next.phases = pool.phases.set task phase) (closed : next.closed = pool.closed)
    (behind : phase = .exiting ∨ phase = .exited → pool.closed = true) : Leaving next := by
  intro other left
  rw [closed]
  rw [phases, List.getElem?_set] at left
  split at left
  case isTrue same =>
    split at left
    · exact behind (left.imp Option.some.inj Option.some.inj)
    · simp at left
  case isFalse => exact leaving other left

theorem closed_wakeIfIdle (pool : Pool Agent) : pool.wakeIfIdle.closed = pool.closed := by
  unfold wakeIfIdle
  split <;> rfl

theorem leaving_moves {event : PoolEvent Agent} (leaving : Leaving pool)
    (moved : Moves pool event next) : Leaving next := by
  cases moved with
  | submitRefused => exact leaving
  | submitWaits => exact leaving.congr rfl rfl
  | submitReady => exact leaving.congr rfl rfl
  | announce =>
      have woken := sameWork_wakeOne { pool with owedWakeups := pool.owedWakeups - 1 }
      exact leaving.congr woken.phases woken.closed
  | @register task arriving =>
      have registered := sameWork_registerTask pool task
      exact (leaving.congr registered.phases registered.closed).set (phases_setPhase ..) rfl
        (by simp)
  | lookClosed looking closed =>
      exact leaving.set (phases_setPhase ..) rfl fun _ => closed
  | lookParks => exact leaving.set (phases_setPhase ..) rfl (by simp)
  | lookSkips _ _ _ _ left wakes =>
      have same := sameWork_woken wakes
      have skipped : Leaving left := leaving.congr same.phases same.closed
      exact skipped.set (phases_setPhase ..) rfl (by simp)
  | lookTakes _ _ _ _ taken wakes =>
      have same := sameWork_woken wakes
      have drained : Leaving taken := leaving.congr same.phases same.closed
      exact drained.set (phases_setPhase ..) rfl (by simp)
  | @resume task _ =>
      have unregistered := sameWork_setRegistration pool task .none
      exact (leaving.congr unregistered.phases unregistered.closed).set (phases_setPhase ..) rfl
        (by simp)
  | completeRests =>
      exact leaving.set ((phases_wakeIfIdle _).trans (phases_setPhase ..))
        (closed_wakeIfIdle _) (by simp)
  | @completeRequeues task batch slot =>
      have woken := sameWork_wakeOne (pool.withRequeued task batch.name slot)
      exact leaving.set ((phases_wakeIfIdle _).trans (woken.phases.trans (phases_setPhase ..)))
        ((closed_wakeIfIdle _).trans woken.closed) (by simp)
  | completeForgets =>
      exact leaving.set ((phases_wakeIfIdle _).trans (phases_setPhase ..))
        (closed_wakeIfIdle _) (by simp)
  | @release task releasing =>
      have dropped := sameWork_dropRegistration pool task
      exact (leaving.congr dropped.phases dropped.closed).set (phases_setPhase ..) rfl (by simp)
  | @exit task exiting =>
      have dropped := sameWork_dropRegistration pool task
      exact (leaving.congr dropped.phases dropped.closed).set (phases_setPhase ..) rfl
        fun _ => dropped.closed.trans (leaving task (Or.inl exiting))
  | awaitIdle => exact leaving.congr rfl rfl
  | registerIdle => exact leaving.congr rfl rfl
  | lookIdle => exact leaving.congr rfl rfl
  | resumeIdle => exact leaving.congr rfl rfl
  | shutdownAgain => exact leaving.congr rfl rfl
  | shutdown => exact fun _ _ => rfl
  | announceShutdown =>
      have woken := sameWork_wakeAll pool
      exact leaving.congr woken.phases woken.closed
  | finishShutdown => exact leaving.congr rfl rfl

/-! ### The invariant of the pool -/

/-- What holds of a pool at any time. -/
structure Invariant (pool : Pool Agent) : Prop where
  coherent : Coherent pool
  enrolled : Enrolled pool
  staffed : pool.phases ≠ []
  attended : pool.ready ≠ [] → Alert pool
  watched : Watched pool
  leaving : Leaving pool

namespace Invariant

theorem start (size : Nat) : Invariant (Pool.start size : Pool Agent) where
  coherent := Coherent.start size
  enrolled := Enrolled.start size
  staffed := by
    have positive : effectiveSize size ≠ 0 := by
      unfold effectiveSize
      omega
    simpa [Pool.start, phases] using positive
  attended ready := (ready rfl).elim
  watched _ caller member := by cases member
  leaving task left := by
    simp [Pool.start, phases, List.getElem?_replicate] at left

theorem moves {event : PoolEvent Agent} (invariant : Invariant pool)
    (moved : Moves pool event next) : Invariant next where
  coherent := invariant.coherent.moves moved
  enrolled := invariant.enrolled.moves moved
  staffed := by
    have staffed := List.length_pos_iff.2 invariant.staffed
    rw [← length_phases_moves moved] at staffed
    exact List.length_pos_iff.1 staffed
  attended := alert_moves invariant.coherent invariant.enrolled invariant.staffed
    invariant.attended moved
  watched := watched_moves invariant.coherent invariant.watched moved
  leaving := leaving_moves invariant.leaving moved

end Invariant

end EntitySearch.Scheduling.Pool
