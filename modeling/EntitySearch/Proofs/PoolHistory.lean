import EntitySearch.Proofs.PoolWakeups

/-!
# Histories of the pool

A run of the pool leaves a log of the works that were accepted and of the batches
that began and ended.  What is pending under a name are the works that the log
shows as submitted since the last batch of that name began, so every batch is
handed exactly these works.  Where the pool rests before shutdown, nothing is
pending, and all that was submitted has been handled.
-/

namespace EntitySearch.Scheduling

/-- Whether the event is somebody's call; the others happen by themselves. -/
def PoolEvent.isCall {Agent : Type} : PoolEvent Agent → Bool
  | .submit _ _ => true
  | .awaitIdle => true
  | .beginShutdown => true
  | _ => false

def PoolEvent.isCompletion {Agent : Type} : PoolEvent Agent → Bool
  | .complete _ => true
  | _ => false

/-- What a run leaves in its log. -/
inductive LogEntry (Agent : Type)
  | submitted (name : String) (work : Work)
  | began (task : Nat) (batch : Batch Agent)
  | ended (task : Nat) (batch : Batch Agent)

namespace LogEntry

variable {Agent : Type}

/-- No batch of the name begins in the log. -/
def NoneBegan (name : String) (log : List (LogEntry Agent)) : Prop :=
  ∀ task batch, .began task batch ∈ log → batch.name ≠ name

/-- The work was submitted under the name, and no batch of that name has begun since. -/
def Outstanding (log : List (LogEntry Agent)) (name : String) (work : Work) : Prop :=
  ∃ older newer, log = older ++ .submitted name work :: newer ∧ NoneBegan name newer

/-- The batch has works, none of them twice, and they are those that were outstanding. -/
structure Exact (log : List (LogEntry Agent)) (batch : Batch Agent) : Prop where
  filled : batch.works ≠ []
  distinct : batch.works.Nodup
  mem_iff : ∀ work, work ∈ batch.works ↔ Outstanding log batch.name work

theorem append_singleton_eq_append_cons {log older newer : List (LogEntry Agent)}
    {entry member : LogEntry Agent} (split : log ++ [entry] = older ++ member :: newer) :
    (older = log ∧ member = entry ∧ newer = []) ∨
      ∃ shorter, newer = shorter ++ [entry] ∧ log = older ++ member :: shorter := by
  rcases List.eq_nil_or_concat newer with rfl | ⟨shorter, last, rfl⟩
  · obtain ⟨rfl, same⟩ := List.append_inj' split rfl
    exact Or.inl ⟨rfl, (List.singleton_inj.1 same).symm, rfl⟩
  · rw [List.concat_eq_append, ← List.cons_append, ← List.append_assoc] at split
    obtain ⟨rfl, same⟩ := List.append_inj' split rfl
    rw [List.singleton_inj] at same
    subst same
    exact Or.inr ⟨shorter, List.concat_eq_append, rfl⟩

theorem noneBegan_append {name : String} {first second : List (LogEntry Agent)} :
    NoneBegan name (first ++ second) ↔ NoneBegan name first ∧ NoneBegan name second := by
  constructor
  · intro none
    exact ⟨fun task batch member => none task batch (List.mem_append_left _ member),
      fun task batch member => none task batch (List.mem_append_right _ member)⟩
  · rintro ⟨noneFirst, noneSecond⟩ task batch member
    rcases List.mem_append.1 member with early | late
    · exact noneFirst task batch early
    · exact noneSecond task batch late

/-- How one more entry changes what is outstanding. -/
theorem outstanding_append_singleton {log : List (LogEntry Agent)} {entry : LogEntry Agent}
    {name : String} {work : Work} :
    Outstanding (log ++ [entry]) name work ↔
      entry = .submitted name work ∨ (Outstanding log name work ∧ NoneBegan name [entry]) := by
  constructor
  · rintro ⟨older, newer, split, none⟩
    rcases append_singleton_eq_append_cons split with ⟨-, same, -⟩ | ⟨shorter, rfl, rfl⟩
    · exact Or.inl same.symm
    · obtain ⟨early, last⟩ := noneBegan_append.1 none
      exact Or.inr ⟨⟨older, shorter, rfl, early⟩, last⟩
  · rintro (rfl | ⟨⟨older, newer, rfl, none⟩, last⟩)
    · exact ⟨log, [], rfl, fun _ _ member => by cases member⟩
    · exact ⟨older, newer ++ [entry], by simp, noneBegan_append.2 ⟨none, last⟩⟩

theorem noneBegan_singleton_of_ne {name : String} {entry : LogEntry Agent}
    (other : ∀ task batch, entry ≠ .began task batch) : NoneBegan name [entry] :=
  fun task batch member => (other task batch (List.mem_singleton.1 member).symm).elim

theorem noneBegan_singleton_began {name : String} {task : Nat} {batch : Batch Agent} :
    NoneBegan name [.began task batch] ↔ batch.name ≠ name := by
  constructor
  · exact fun none => none task batch List.mem_cons_self
  · intro different other present member
    cases List.mem_singleton.1 member
    exact different

/-- Of the batches of a name that begin in a log one is the first. -/
theorem exists_first_began {name : String} {log : List (LogEntry Agent)}
    (some : ¬ NoneBegan name log) :
    ∃ middle task batch later, log = middle ++ .began task batch :: later ∧
      batch.name = name ∧ NoneBegan name middle := by
  induction log with
  | nil => exact (some fun _ _ member => by cases member).elim
  | cons entry log ih =>
      have behind (none : NoneBegan name [entry]) : ∃ middle task batch later,
          entry :: log = middle ++ .began task batch :: later ∧ batch.name = name ∧
            NoneBegan name middle := by
        have later : ¬ NoneBegan name log := fun rest =>
          some (noneBegan_append.2 ⟨none, rest⟩)
        obtain ⟨middle, task, batch, rest, rfl, same, early⟩ := ih later
        exact ⟨entry :: middle, task, batch, rest, rfl, same, noneBegan_append.2 ⟨none, early⟩⟩
      cases entry with
      | submitted other work => exact behind (noneBegan_singleton_of_ne (by simp))
      | ended task batch => exact behind (noneBegan_singleton_of_ne (by simp))
      | began task batch =>
          by_cases same : batch.name = name
          · exact ⟨[], task, batch, log, rfl, same, fun _ _ member => by cases member⟩
          · exact behind (noneBegan_singleton_began.2 same)

end LogEntry

namespace Pool

open LogEntry

variable {Agent : Type}

def recorded (pool : Pool Agent) (event : PoolEvent Agent) (next : Pool Agent) :
    List (LogEntry Agent) :=
  match event with
  | .submit worker work =>
      match pool.submit worker work with
      | .ok _ => [.submitted worker.name work]
      | .error _ => []
  | .look task =>
      match next.phases[task]? with
      | some (.working batch) => [.began task batch]
      | _ => []
  | .complete task =>
      match pool.phases[task]? with
      | some (.working batch) => [.ended task batch]
      | _ => []
  | _ => []

theorem recorded_submit {pool : Pool Agent} (opened : pool.closed = false)
    (worker : Worker Agent) (work : Work) (next : Pool Agent) :
    pool.recorded (.submit worker work) next = [.submitted worker.name work] := by
  simp only [recorded, submit, opened, Bool.false_eq_true, if_false]
  split
  case h_1 => rfl
  case h_2 refused => split at refused <;> cases refused

theorem recorded_look {pool next : Pool Agent} {task : Nat} {phase : Phase Agent}
    (found : next.phases[task]? = some phase) :
    pool.recorded (.look task) next = (phase.batch?.map (.began task)).toList := by
  simp only [recorded, found]
  cases phase <;> rfl

theorem recorded_complete {pool : Pool Agent} {task : Nat} {batch : Batch Agent}
    (working : pool.phases[task]? = some (.working batch)) (next : Pool Agent) :
    pool.recorded (.complete task) next = [.ended task batch] := by
  simp only [recorded, working]

/-- The runs of a pool of the given size, with the state that they reach and their log. -/
inductive Run (size : Nat) : Pool Agent → List (LogEntry Agent) → Prop
  | start : Run size (Pool.start size) []
  | step {pool next log event} (run : Run size pool log)
      (stepped : pool.step event = some next) : Run size next (log ++ pool.recorded event next)

theorem Run.invariant {size : Nat} {pool : Pool Agent} {log : List (LogEntry Agent)}
    (run : Run size pool log) : Invariant pool := by
  induction run with
  | start => exact Invariant.start size
  | step _ stepped ih => exact ih.moves (moves_of_step stepped)

theorem pendingOf_set_self {pool next : Pool Agent} {name : String} {slot : Slot Agent}
    (slots : next.slots = pool.slots.set name slot) : next.pendingOf name = slot.pending := by
  simp [pendingOf, slots]

theorem pendingOf_set_of_ne {pool next : Pool Agent} {name other : String}
    {slot : Slot Agent} (slots : next.slots = pool.slots.set name slot)
    (different : other ≠ name) : next.pendingOf other = pool.pendingOf other := by
  simp [pendingOf, slots, Table.get?_set_of_ne _ different]

theorem pendingOf_congr {pool next : Pool Agent} (slots : next.slots = pool.slots)
    (name : String) : next.pendingOf name = pool.pendingOf name := by
  rw [pendingOf, slots, pendingOf]

theorem pendingOf_set_same {pool next : Pool Agent} {name : String} {before slot : Slot Agent}
    (slots : next.slots = pool.slots.set name slot)
    (known : pool.slots.get? name = some before) (same : slot.pending = before.pending)
    (other : String) : next.pendingOf other = pool.pendingOf other := by
  by_cases own : other = name
  · subst own
    rw [pendingOf_set_self slots, same, pendingOf, known]
    rfl
  · exact pendingOf_set_of_ne slots own

theorem slots_wakeIfIdle (pool : Pool Agent) : pool.wakeIfIdle.slots = pool.slots := by
  unfold wakeIfIdle
  split <;> rfl

theorem working_set {pool : Pool Agent} {moving : Nat} {before after : Phase Agent}
    (found : pool.phases[moving]? = some before) (free : before.batch? = none) (task : Nat)
    (batch : Batch Agent) (working : pool.phases[task]? = some (.working batch)) :
    (pool.phases.set moving after)[task]? = some (.working batch) := by
  have different : moving ≠ task := by
    rintro rfl
    cases Option.some.inj (found.symm.trans working)
    cases free
  rw [List.getElem?_set_ne different]
  exact working

/-- What a step does to the pending works and to the batches, with what it leaves in the
log. -/
inductive Traced (pool next : Pool Agent) : List (LogEntry Agent) → Prop
  | silent (pending : ∀ name, next.pendingOf name = pool.pendingOf name)
      (working : ∀ (task : Nat) batch, pool.phases[task]? = some (.working batch) →
        next.phases[task]? = some (.working batch)) : Traced pool next []
  | submitted {name work}
      (own : ∀ member, member ∈ next.pendingOf name ↔
        member ∈ pool.pendingOf name ∨ member = work)
      (others : ∀ other, other ≠ name → next.pendingOf other = pool.pendingOf other)
      (phases : next.phases = pool.phases) : Traced pool next [.submitted name work]
  | began {task batch} (looking : pool.phases[task]? = some .looking)
      (filled : batch.works ≠ []) (works : batch.works = pool.pendingOf batch.name)
      (own : next.pendingOf batch.name = [])
      (others : ∀ other, other ≠ batch.name → next.pendingOf other = pool.pendingOf other)
      (phases : next.phases = pool.phases.set task (.working batch)) :
      Traced pool next [.began task batch]
  | ended {task batch} (working : pool.phases[task]? = some (.working batch))
      (pending : ∀ name, next.pendingOf name = pool.pendingOf name)
      (phases : next.phases = pool.phases.set task .releasing) :
      Traced pool next [.ended task batch]

section Entries

variable {pool next : Pool Agent}

theorem Traced.of_slots (slots : next.slots = pool.slots)
    (working : ∀ (task : Nat) batch, pool.phases[task]? = some (.working batch) →
      next.phases[task]? = some (.working batch)) : Traced pool next [] :=
  .silent (pendingOf_congr slots) working

/-- A task that goes on, but neither to a batch nor from one, leaves nothing in the log. -/
theorem Traced.of_moving {task : Nat} {before after : Phase Agent}
    (found : pool.phases[task]? = some before) (free : before.batch? = none)
    (slots : next.slots = pool.slots) (phases : next.phases = pool.phases.set task after) :
    Traced pool next [] :=
  .of_slots slots fun other batch working => phases ▸ working_set found free other batch working

theorem traced_submit (opened : pool.closed = false) {worker : Worker Agent} {work : Work}
    {slot : Slot Agent} (slots : next.slots = pool.slots.set worker.name slot)
    (pending : slot.pending = (pool.submittedSlot worker work).pending)
    (phases : next.phases = pool.phases) :
    Traced pool next (pool.recorded (.submit worker work) next) := by
  rw [recorded_submit opened]
  refine .submitted (fun member => ?_)
    (fun other different => pendingOf_set_of_ne slots different) phases
  rw [pendingOf_set_self slots, pending, pending_submittedSlot, mem_addWork]

theorem traced_look {task : Nat} {after : Phase Agent}
    (looking : pool.phases[task]? = some .looking) (free : after.batch? = none)
    (slots : next.slots = pool.slots) (phases : next.phases = pool.phases.set task after) :
    Traced pool next (pool.recorded (.look task) next) := by
  rw [recorded_look (phase_of_set looking phases), free]
  exact .of_moving looking rfl slots phases

/-- A batch that begins is logged with all works that were pending under its name. -/
theorem traced_begin (coherent : Coherent pool) {task : Nat} {entry : ReadyEntry}
    {slot : Slot Agent} (looking : pool.phases[task]? = some .looking)
    (least : leastReady? pool.ready = some entry)
    (known : pool.slots.get? entry.name = some slot)
    (same : SameWork (pool.withDrained entry slot) next) :
    let began := next.setPhase task (.working ⟨entry.name, slot.worker, slot.pending⟩)
    Traced pool began (pool.recorded (.look task) began) := by
  intro began
  have phases : began.phases = pool.phases.set task
      (.working ⟨entry.name, slot.worker, slot.pending⟩) := same.phases_setPhase task _
  obtain ⟨present, presentKnown, queued⟩ := coherent.readySlot (leastReady?_mem least)
  obtain rfl : slot = present := by simpa [known] using presentKnown
  have pending : pool.pendingOf entry.name = slot.pending := by simp [pendingOf, known]
  rw [recorded_look (phase_of_set looking phases)]
  exact .began looking ((coherent.sound entry.name slot known).filled queued) pending.symm
    (pendingOf_set_self same.slots)
    (fun other different => pendingOf_set_of_ne same.slots different) phases

/-- A batch that ends is logged, and what waits under its name goes on waiting. -/
theorem traced_end {task : Nat} {batch : Batch Agent} {before after : Slot Agent}
    (working : pool.phases[task]? = some (.working batch))
    (known : pool.slots.get? batch.name = some before)
    (slots : next.slots = pool.slots.set batch.name after)
    (same : after.pending = before.pending)
    (phases : next.phases = pool.phases.set task .releasing) :
    Traced pool next (pool.recorded (.complete task) next) := by
  rw [recorded_complete working]
  exact .ended working (pendingOf_set_same slots known same) phases

theorem pendingOf_close (pool : Pool Agent) (name : String) :
    pool.close.pendingOf name = pool.pendingOf name := by
  simp only [pendingOf, Pool.close, Table.get?_map, Option.map_map]
  rfl

/-- Every move leaves in the log what it does to the pending works and the batches. -/
theorem traced_of_moves {event : PoolEvent Agent} (coherent : Coherent pool)
    (moved : Moves pool event next) : Traced pool next (pool.recorded event next) := by
  cases moved with
  | submitRefused closed =>
      simp only [recorded, submit, closed, if_true]
      exact .of_slots rfl fun _ _ => id
  | submitWaits opened => exact traced_submit opened rfl rfl rfl
  | submitReady opened => exact traced_submit opened rfl rfl rfl
  | announce =>
      have woken := sameWork_wakeOne { pool with owedWakeups := pool.owedWakeups - 1 }
      exact .of_slots woken.slots fun _ _ working => woken.phases.symm ▸ working
  | @register task arriving =>
      have registered := sameWork_registerTask pool task
      exact .of_moving arriving rfl registered.slots (registered.phases_setPhase task _)
  | lookClosed looking => exact traced_look looking rfl rfl (phases_setPhase ..)
  | lookParks looking => exact traced_look looking rfl rfl (phases_setPhase ..)
  | lookSkips looking _ _ _ _ wakes =>
      have same := sameWork_woken wakes
      exact traced_look looking rfl same.slots (same.phases_setPhase ..)
  | lookTakes looking _ least known _ wakes =>
      exact traced_begin coherent looking least known (sameWork_woken wakes)
  | @resume task _ parked =>
      have unregistered := sameWork_setRegistration pool task .none
      exact .of_moving parked rfl rfl (unregistered.phases_setPhase task _)
  | completeRests working known =>
      exact traced_end working known (slots_wakeIfIdle _) rfl
        ((phases_wakeIfIdle _).trans (phases_setPhase ..))
  | @completeRequeues task batch slot working known =>
      have woken := sameWork_wakeOne (pool.withRequeued task batch.name slot)
      exact traced_end working known ((slots_wakeIfIdle _).trans woken.slots) rfl
        ((phases_wakeIfIdle _).trans (woken.phases.trans (phases_setPhase ..)))
  | completeForgets working unknown => exact (coherent.known_of_working working unknown).elim
  | @release task releasing =>
      have dropped := sameWork_dropRegistration pool task
      exact .of_moving releasing rfl dropped.slots (dropped.phases_setPhase task _)
  | @exit task exiting =>
      have dropped := sameWork_dropRegistration pool task
      exact .of_moving exiting rfl dropped.slots (dropped.phases_setPhase task _)
  | awaitIdle => exact .of_slots rfl fun _ _ => id
  | registerIdle => exact .of_slots rfl fun _ _ => id
  | lookIdle => exact .of_slots rfl fun _ _ => id
  | resumeIdle => exact .of_slots rfl fun _ _ => id
  | shutdownAgain => exact .of_slots rfl fun _ _ => id
  | shutdown => exact .silent (pendingOf_close pool) fun _ _ => id
  | announceShutdown =>
      have woken := sameWork_wakeAll pool
      exact .of_slots woken.slots fun _ _ working => woken.phases.symm ▸ working
  | finishShutdown => exact .of_slots rfl fun _ _ => id

end Entries

/-- Only a call for shutdown closes the pool. -/
theorem closed_of_moves {pool next : Pool Agent} {event : PoolEvent Agent}
    (moved : Moves pool event next) (other : event ≠ .beginShutdown) :
    next.closed = pool.closed := by
  cases moved with
  | announce => exact (sameWork_wakeOne { pool with owedWakeups := pool.owedWakeups - 1 }).closed
  | register => exact (sameWork_registerTask pool _).closed
  | lookSkips _ _ _ _ _ wakes => exact (sameWork_woken wakes).closed
  | lookTakes _ _ _ _ _ wakes => exact (sameWork_woken wakes).closed
  | completeRests => exact closed_wakeIfIdle _
  | completeRequeues => exact (closed_wakeIfIdle _).trans (sameWork_wakeOne _).closed
  | completeForgets => exact closed_wakeIfIdle _
  | release => exact (sameWork_dropRegistration pool _).closed
  | exit => exact (sameWork_dropRegistration pool _).closed
  | shutdownAgain => exact (other rfl).elim
  | shutdown => exact (other rfl).elim
  | announceShutdown => exact (sameWork_wakeAll pool).closed
  | _ => rfl

theorem closed_of_closed {pool next : Pool Agent} {event : PoolEvent Agent}
    (closed : pool.closed = true) (moved : Moves pool event next) : next.closed = true := by
  by_cases shutting : event = .beginShutdown
  · subst shutting
    cases moved with
    | shutdownAgain => exact closed
    | shutdown => rfl
  · exact (closed_of_moves moved shutting).trans closed

/-- What the log has to do with the state. -/
structure Accounts (pool : Pool Agent) (log : List (LogEntry Agent)) : Prop where
  pending_iff : ∀ name work, work ∈ pool.pendingOf name ↔ Outstanding log name work
  exact : ∀ before task batch after, log = before ++ .began task batch :: after →
    Exact before batch
  ended : ∀ before task batch after, log = before ++ .began task batch :: after →
    .ended task batch ∈ after ∨ pool.phases[task]? = some (.working batch)

namespace Accounts

variable {pool next : Pool Agent} {log : List (LogEntry Agent)}

theorem start (size : Nat) : Accounts (Pool.start size : Pool Agent) [] := by
  constructor
  · intro name work
    simp [pendingOf, Pool.start, Table.get?_empty, Outstanding]
  · simp
  · simp

/-- Steps that neither change what is pending nor begin or end a batch. -/
theorem congr (accounts : Accounts pool log)
    (pending : ∀ name, next.pendingOf name = pool.pendingOf name)
    (working : ∀ (task : Nat) batch, pool.phases[task]? = some (.working batch) →
      next.phases[task]? = some (.working batch)) : Accounts next log where
  pending_iff name work := by
    rw [pending]
    exact accounts.pending_iff name work
  exact := accounts.exact
  ended before task batch after split :=
    (accounts.ended before task batch after split).imp_right (working task batch)

theorem submitted (accounts : Accounts pool log) {name : String} {work : Work}
    (own : ∀ member, member ∈ next.pendingOf name ↔
      member ∈ pool.pendingOf name ∨ member = work)
    (others : ∀ other, other ≠ name → next.pendingOf other = pool.pendingOf other)
    (phases : next.phases = pool.phases) :
    Accounts next (log ++ [.submitted name work]) where
  pending_iff other member := by
    rw [outstanding_append_singleton, LogEntry.submitted.injEq]
    have silent : NoneBegan other [(.submitted name work : LogEntry Agent)] :=
      noneBegan_singleton_of_ne (by simp)
    simp only [silent, and_true]
    by_cases same : other = name
    · subst same
      rw [own, accounts.pending_iff]
      simp [or_comm, eq_comm]
    · rw [others other same, accounts.pending_iff]
      simp [Ne.symm same]
  exact before task batch after split := by
    rcases append_singleton_eq_append_cons split with ⟨-, same, -⟩ | ⟨shorter, -, before⟩
    · cases same
    · exact accounts.exact _ task batch shorter before
  ended before task batch after split := by
    rw [phases]
    rcases append_singleton_eq_append_cons split with ⟨-, same, -⟩ | ⟨shorter, rfl, before⟩
    · cases same
    · exact (accounts.ended _ task batch shorter before).imp_left (List.mem_append_left _)

/-- A batch that is exact for the log takes all that is outstanding under its name. -/
theorem began (accounts : Accounts pool log) {task : Nat} {batch : Batch Agent}
    (looking : pool.phases[task]? = some .looking) (exact : Exact log batch)
    (own : next.pendingOf batch.name = [])
    (others : ∀ other, other ≠ batch.name → next.pendingOf other = pool.pendingOf other)
    (phases : next.phases = pool.phases.set task (.working batch)) :
    Accounts next (log ++ [.began task batch]) where
  pending_iff name work := by
    rw [outstanding_append_singleton, noneBegan_singleton_began]
    simp only [reduceCtorEq, false_or]
    by_cases same : name = batch.name
    · subst same
      simp [own]
    · rw [others name same, accounts.pending_iff]
      simp [Ne.symm same]
  exact before other present after split := by
    rcases append_singleton_eq_append_cons split with ⟨rfl, same, -⟩ | ⟨shorter, -, earlier⟩
    · cases same
      exact exact
    · exact accounts.exact _ other present shorter earlier
  ended before other present after split := by
    rw [phases]
    rcases append_singleton_eq_append_cons split with ⟨-, same, -⟩ | ⟨shorter, rfl, earlier⟩
    · cases same
      exact Or.inr (List.getElem?_set_self (lt_length_of_phase looking))
    · refine (accounts.ended _ other present shorter earlier).imp (List.mem_append_left _) ?_
      exact working_set looking rfl other present

theorem batchEnded (accounts : Accounts pool log) {task : Nat} {batch : Batch Agent}
    (working : pool.phases[task]? = some (.working batch))
    (pending : ∀ name, next.pendingOf name = pool.pendingOf name)
    (phases : next.phases = pool.phases.set task .releasing) :
    Accounts next (log ++ [.ended task batch]) where
  pending_iff name work := by
    have silent : NoneBegan name [(.ended task batch : LogEntry Agent)] :=
      noneBegan_singleton_of_ne (by simp)
    rw [outstanding_append_singleton, pending, accounts.pending_iff]
    simp [silent]
  exact before other present after split := by
    rcases append_singleton_eq_append_cons split with ⟨-, same, -⟩ | ⟨shorter, -, earlier⟩
    · cases same
    · exact accounts.exact _ other present shorter earlier
  ended before other present after split := by
    rcases append_singleton_eq_append_cons split with ⟨-, same, -⟩ | ⟨shorter, rfl, earlier⟩
    · cases same
    · rcases accounts.ended _ other present shorter earlier with done | still
      · exact Or.inl (List.mem_append_left _ done)
      · by_cases same : other = task
        · subst same
          cases Option.some.inj (still.symm.trans working)
          exact Or.inl (List.mem_append_right _ List.mem_cons_self)
        · rw [phases, List.getElem?_set_ne (Ne.symm same)]
          exact Or.inr still

/-- Every step keeps the log in accordance with the state. -/
theorem traced {entries : List (LogEntry Agent)} (accounts : Accounts pool log)
    (coherent : Coherent pool) (traced : Traced pool next entries) :
    Accounts next (log ++ entries) := by
  cases traced with
  | silent pending working =>
      rw [List.append_nil]
      exact accounts.congr pending working
  | submitted own others phases => exact accounts.submitted own others phases
  | @began task batch looking filled works own others phases =>
      have exact : Exact log batch := by
        refine ⟨filled, ?_, fun work => ?_⟩
        · rw [works]
          exact coherent.nodup_pendingOf batch.name
        · rw [works]
          exact accounts.pending_iff batch.name work
      exact accounts.began looking exact own others phases
  | ended working pending phases => exact accounts.batchEnded working pending phases

end Accounts

theorem Run.accounts {size : Nat} {pool : Pool Agent} {log : List (LogEntry Agent)}
    (run : Run size pool log) : Accounts pool log := by
  induction run with
  | start => exact Accounts.start size
  | step run stepped ih =>
      have coherent := run.invariant.coherent
      exact ih.traced coherent (traced_of_moves coherent (moves_of_step stepped))

/-! ### Resting pools -/

/-- Nothing can happen without another call. -/
def Quiet (pool : Pool Agent) : Prop :=
  ∀ event : PoolEvent Agent, event.isCall = false → pool.step event = none

/-- Nothing can happen without another call or the end of a batch. -/
def Stalled (pool : Pool Agent) : Prop :=
  ∀ event : PoolEvent Agent, event.isCall = false → event.isCompletion = false →
    pool.step event = none

/-- A call that waits for the pool to be idle returns. -/
def Returns (pool next : Pool Agent) : Prop :=
  ∃ caller, pool.step (.lookIdle caller) = some next ∧
    next.idleCallers[caller]?.map IdleCaller.phase = some .returned

/-- Nothing is pending, no caller waits without having been woken, and every work was handed
to a batch that began behind its submission and has ended. -/
structure Cleared (pool : Pool Agent) (log : List (LogEntry Agent)) : Prop where
  pending : ∀ name, pool.pendingCount name = 0
  callers : ∀ caller ∈ pool.idleCallers, caller.phase = .parked → caller.woken = true
  handled : ∀ older name work newer, log = older ++ .submitted name work :: newer →
    ∃ middle task batch later, newer = middle ++ .began task batch :: later ∧
      batch.name = name ∧ work ∈ batch.works ∧ .ended task batch ∈ later

theorem pendingCount_eq_length (pool : Pool Agent) (name : String) :
    pool.pendingCount name = (pool.pendingOf name).length := by
  unfold pendingCount pendingOf
  cases pool.slots.get? name <;> rfl

variable {pool next : Pool Agent} {log : List (LogEntry Agent)}

theorem isIdle_iff {pool : Pool Agent} :
    pool.isIdle = true ↔ pool.active = 0 ∧ pool.ready = [] := by
  simp [isIdle]

theorem Coherent.running_eq_nil (coherent : Coherent pool) (idle : pool.isIdle = true) :
    pool.running = [] := by
  have inactive := (isIdle_iff.1 idle).1
  rw [coherent.active] at inactive
  exact List.length_eq_zero_iff.1 inactive

/-- In an idle pool nothing is pending before shutdown. -/
theorem Invariant.pendingOf_eq_nil (invariant : Invariant pool) (opened : pool.closed = false)
    (idle : pool.isIdle = true) (name : String) : pool.pendingOf name = [] := by
  have coherent := invariant.coherent
  have empty := (isIdle_iff.1 idle).2
  have resting := coherent.running_eq_nil idle
  unfold pendingOf
  cases known : pool.slots.get? name with
  | none => rfl
  | some slot =>
      have queued := coherent.ready_iff name
      have running := coherent.running_iff name
      simp only [readyNames, empty, runningNames, resting, known] at queued running
      by_contra filled
      rcases (coherent.sound name slot known).awaited filled with closed | isQueued | isRunning
      · simp [opened] at closed
      · simp [isQueued] at queued
      · simp [isRunning] at running

/-- In an idle pool everything has been handled before shutdown. -/
theorem Invariant.cleared (invariant : Invariant pool) (accounts : Accounts pool log)
    (opened : pool.closed = false) (idle : pool.isIdle = true) : Cleared pool log where
  pending name := by
    rw [pendingCount_eq_length, invariant.pendingOf_eq_nil opened idle, List.length_nil]
  callers caller member parked := by
    by_contra asleep
    have busy := invariant.watched opened caller member parked (by simpa using asleep)
    simp [idle] at busy
  handled older name work newer split := by
    have taken : ¬ NoneBegan name newer := by
      intro none
      have outstanding := (accounts.pending_iff name work).2 ⟨older, newer, split, none⟩
      rw [invariant.pendingOf_eq_nil opened idle] at outstanding
      cases outstanding
    obtain ⟨middle, task, batch, later, rfl, same, early⟩ := exists_first_began taken
    have position : log = (older ++ .submitted name work :: middle) ++
        .began task batch :: later := by
      simpa using split
    have exact := accounts.exact _ task batch later position
    refine ⟨middle, task, batch, later, rfl, same, ?_, ?_⟩
    · exact (exact.mem_iff work).2 ⟨older, middle, by rw [same], same ▸ early⟩
    · refine (accounts.ended _ task batch later position).resolve_right fun working => ?_
      have running := Coherent.mem_running working
      rw [invariant.coherent.running_eq_nil idle] at running
      cases running

/-- A call returns only from an idle pool. -/
theorem isIdle_of_returns (returns : Returns pool next) : next.isIdle = true := by
  obtain ⟨caller, stepped, returned⟩ := returns
  cases moves_of_step stepped with
  | @lookIdle _ woken looking =>
      have inside := (List.getElem?_eq_some_iff.1 looking).1
      rw [List.getElem?_set_self inside, Option.map_some] at returned
      cases idle : pool.isIdle with
      | true => exact idle
      | false => simp [idle] at returned

theorem exists_task {task : Nat} {phase : Phase Agent} {registration : Registration}
    (found : pool.phases[task]? = some phase)
    (registered : pool.registrations[task]? = some registration) :
    pool.tasks[task]? = some ⟨phase, registration⟩ := by
  simp only [phases, registrations, List.getElem?_map, Option.map_eq_some_iff] at *
  obtain ⟨present, here, rfl⟩ := found
  obtain ⟨other, there, rfl⟩ := registered
  cases here.symm.trans there
  exact here

/-- In a stalled pool every task sleeps, executes a batch or has left. -/
theorem Invariant.sleeps_works_or_left (invariant : Invariant pool) (stalled : Stalled pool)
    {task : Nat} {phase : Phase Agent} (found : pool.phases[task]? = some phase) :
    pool.Sleeps task ∨ (∃ batch, phase = .working batch) ∨ phase = .exited := by
  obtain ⟨registration, registered⟩ := exists_registration found
  have present := exists_task found registered
  cases phase with
  | arriving => simpa [step, present] using stalled (.register task) rfl rfl
  | looking => simpa [step, present] using stalled (.look task) rfl rfl
  | working batch => exact Or.inr (Or.inl ⟨batch, rfl⟩)
  | releasing => simpa [step, present] using stalled (.release task) rfl rfl
  | exiting => simpa [step, present] using stalled (.release task) rfl rfl
  | exited => exact Or.inr (Or.inr rfl)
  | parked =>
      have unwoken : registration.isReady = false := by
        simpa [step, present] using stalled (.resume task) rfl rfl
      have attentive := (invariant.enrolled.fits task .parked registration found
        registered).2 (Or.inr rfl)
      refine Or.inl ⟨found, ?_⟩
      cases registration <;> simp_all [Registration.isReady]

/-- In a stalled pool every task sleeps or executes a batch before shutdown. -/
theorem Invariant.sleeps_or_works (invariant : Invariant pool) (opened : pool.closed = false)
    (stalled : Stalled pool) {task : Nat} {phase : Phase Agent}
    (found : pool.phases[task]? = some phase) :
    pool.Sleeps task ∨ ∃ batch, phase = .working batch := by
  refine (invariant.sleeps_works_or_left stalled found).imp_right fun busy =>
    busy.resolve_right ?_
  rintro rfl
  simpa [opened] using invariant.leaving task (Or.inr found)

theorem Quiet.not_working (quiet : Quiet pool) {task : Nat} {batch : Batch Agent} :
    pool.phases[task]? ≠ some (.working batch) := by
  intro found
  obtain ⟨registration, registered⟩ := exists_registration found
  simpa [step, exists_task found registered] using quiet (.complete task) rfl

theorem Invariant.sleeps_of_quiet (invariant : Invariant pool) (opened : pool.closed = false)
    (quiet : Quiet pool) {task : Nat} {phase : Phase Agent}
    (found : pool.phases[task]? = some phase) : pool.Sleeps task := by
  have stalled : Stalled pool := fun event uncalled _ => quiet event uncalled
  refine (invariant.sleeps_or_works opened stalled found).resolve_right ?_
  rintro ⟨batch, rfl⟩
  exact quiet.not_working found

theorem Invariant.isIdle_of_quiet (invariant : Invariant pool) (opened : pool.closed = false)
    (quiet : Quiet pool) : pool.isIdle = true := by
  have settled : pool.owedWakeups = 0 := by
    simpa [step] using quiet .announce rfl
  have ready : pool.ready = [] := by
    by_contra waiting
    rcases invariant.attended waiting with owed | ⟨task, inside, awake⟩
    · exact owed settled
    · exact awake (invariant.sleeps_of_quiet opened quiet (List.getElem?_eq_getElem inside))
  have resting : pool.running = [] := by
    refine List.filterMap_eq_nil_iff.2 fun phase member => ?_
    obtain ⟨task, found⟩ := List.mem_iff_getElem?.1 member
    have parked := (invariant.sleeps_of_quiet opened quiet found).1
    cases Option.some.inj (found.symm.trans parked)
    rfl
  refine isIdle_iff.2 ⟨?_, ready⟩
  rw [invariant.coherent.active, resting, List.length_nil]

theorem Invariant.returned_of_quiet (invariant : Invariant pool) (opened : pool.closed = false)
    (quiet : Quiet pool) {caller : IdleCaller} (member : caller ∈ pool.idleCallers) :
    caller.phase = .returned := by
  have idle := invariant.isIdle_of_quiet opened quiet
  obtain ⟨place, found⟩ := List.mem_iff_getElem?.1 member
  obtain ⟨phase, woken⟩ := caller
  cases phase with
  | arriving => simpa [step, found] using quiet (.registerIdle place) rfl
  | looking => simpa [step, found] using quiet (.lookIdle place) rfl
  | returned => rfl
  | parked =>
      cases woken with
      | true => simpa [step, found] using quiet (.resumeIdle place) rfl
      | false => simpa [idle] using invariant.watched opened _ member rfl rfl

/-- Before shutdown every batch takes exactly the works that are outstanding, and wherever
the pool comes to rest everything has been handled. -/
theorem no_work_is_lost {size : Nat} (run : Run size pool log) (opened : pool.closed = false) :
    (∀ before task batch after, log = before ++ .began task batch :: after →
        Exact before batch) ∧
      (∀ next, Returns pool next → Cleared next log) ∧
      (Quiet pool → Cleared pool log ∧
        ∀ caller ∈ pool.idleCallers, caller.phase = .returned) := by
  have invariant := run.invariant
  have accounts := run.accounts
  refine ⟨accounts.exact, ?_, fun quiet => ⟨?_, ?_⟩⟩
  · rintro next returns
    have idle := isIdle_of_returns returns
    obtain ⟨caller, stepped, -⟩ := returns
    have openedStill : next.closed = false := by
      cases moves_of_step stepped with
      | lookIdle => exact opened
    have recorded : Accounts next (log ++ []) := (run.step stepped).accounts
    rw [List.append_nil] at recorded
    exact (run.step stepped).invariant.cleared recorded openedStill idle
  · exact invariant.cleared accounts opened (invariant.isIdle_of_quiet opened quiet)
  · exact fun caller member => invariant.returned_of_quiet opened quiet member

/-- Follows events from a state and keeps the log. -/
def follow (pool : Pool Agent) (log : List (LogEntry Agent)) :
    List (PoolEvent Agent) → Option (Pool Agent × List (LogEntry Agent))
  | [] => some (pool, log)
  | event :: rest =>
      match pool.step event with
      | some next => next.follow (log ++ pool.recorded event next) rest
      | none => none

/-- What every step carries on holds of the state and the log that events lead to. -/
theorem holds_of_follow {Holds : Pool Agent → List (LogEntry Agent) → Prop}
    (steps : ∀ present log event later, Holds present log → present.step event = some later →
      Holds later (log ++ present.recorded event later))
    (holds : Holds pool log) {events : List (PoolEvent Agent)} {final : List (LogEntry Agent)}
    (followed : pool.follow log events = some (next, final)) : Holds next final := by
  induction events generalizing pool log with
  | nil =>
      cases followed
      exact holds
  | cons event events ih =>
      simp only [Pool.follow] at followed
      split at followed
      case h_1 later stepped => exact ih (steps pool log event later holds stepped) followed
      case h_2 => cases followed

theorem Run.follow {size : Nat} (run : Run size pool log) {events : List (PoolEvent Agent)}
    {final : List (LogEntry Agent)} (followed : pool.follow log events = some (next, final)) :
    Run size next final :=
  holds_of_follow (fun _ _ _ _ earlier stepped => earlier.step stepped) run followed

def issueWorker : Worker Unit := ⟨"index:issue", 20, ()⟩

/-- A scan is submitted and run while a caller waits for the pool to be idle. -/
def oneScan : List (PoolEvent Unit) :=
  [.submit issueWorker .scan, .announce, .register 0, .look 0, .complete 0, .release 0,
    .awaitIdle, .registerIdle 0]

def scanned : Pool Unit × List (LogEntry Unit) :=
  ((Pool.start 1).follow [] oneScan).getD (Pool.start 1, [])

def awaited : Pool Unit :=
  (scanned.1.step (.lookIdle 0)).getD scanned.1

theorem no_work_is_lost_in_one_scan :
    (Pool.start 1).follow [] oneScan = some scanned ∧ Returns scanned.1 awaited ∧
      scanned.2 = [.submitted "index:issue" .scan,
        .began 0 ⟨"index:issue", issueWorker, [.scan]⟩,
        .ended 0 ⟨"index:issue", issueWorker, [.scan]⟩] ∧
      Cleared awaited scanned.2 := by
  have followed : (Pool.start 1).follow [] oneScan = some scanned := rfl
  have returns : Returns scanned.1 awaited := ⟨0, rfl, rfl⟩
  exact ⟨followed, returns, rfl,
    (no_work_is_lost (Run.start.follow followed) rfl).2.1 awaited returns⟩

end Pool

end EntitySearch.Scheduling
