import EntitySearch.Proofs.PoolHistory
import EntitySearch.Proofs.TableEntries

/-!
# The inventory of the pool

A worker that becomes ready gets the next sequence number, and a number is never
given out again, so the entries of the ready queue differ in their numbers.  With
the coherence of the pool this makes the inventory that every reachable state
keeps: who is queued and who runs, how many batches are executed, and who has
works that wait.
-/

namespace EntitySearch.Scheduling.Pool

variable {Agent : Type} {pool next : Pool Agent}

/-! ### Sequence numbers -/

/-- The sequence numbers of the ready workers in the order of the queue. -/
def sequences (pool : Pool Agent) : List Nat :=
  pool.ready.map ReadyEntry.sequence

/-- The ready workers have different numbers, all of which have been given out. -/
structure Numbered (pool : Pool Agent) : Prop where
  distinct : pool.sequences.Nodup
  below : ∀ number ∈ pool.sequences, number < pool.nextSequence

/-- What a step does to the ready queue: entries leave it, or one with the next number joins
it. -/
inductive Requeues (pool next : Pool Agent) : Prop
  | leaves (ready : next.ready.Sublist pool.ready)
      (nextSequence : next.nextSequence = pool.nextSequence)
  | joins {priority name}
      (ready : next.ready = pool.ready ++ [⟨priority, pool.nextSequence, name⟩])
      (nextSequence : next.nextSequence = pool.nextSequence + 1)

theorem Requeues.of_same (ready : next.ready = pool.ready)
    (nextSequence : next.nextSequence = pool.nextSequence) : Requeues pool next :=
  .leaves (ready ▸ List.Sublist.refl _) nextSequence

theorem ready_wakeIfIdle (pool : Pool Agent) : pool.wakeIfIdle.ready = pool.ready := by
  unfold wakeIfIdle
  split <;> rfl

theorem nextSequence_wakeIfIdle (pool : Pool Agent) :
    pool.wakeIfIdle.nextSequence = pool.nextSequence := by
  unfold wakeIfIdle
  split <;> rfl

theorem requeues_of_moves {event : PoolEvent Agent} (moved : Moves pool event next) :
    Requeues pool next := by
  cases moved with
  | submitReady => exact .joins rfl rfl
  | announce =>
      exact .of_same (sameWork_wakeOne _).ready (sameWork_wakeOne _).nextSequence
  | @register task =>
      have registered := sameWork_registerTask pool task
      exact .of_same registered.ready registered.nextSequence
  | lookSkips _ _ _ _ _ wakes =>
      have same := sameWork_woken wakes
      exact .leaves (same.ready ▸ List.erase_sublist) same.nextSequence
  | lookTakes _ _ _ _ _ wakes =>
      have same := sameWork_woken wakes
      exact .leaves (same.ready ▸ List.erase_sublist) same.nextSequence
  | completeRests =>
      exact .of_same (ready_wakeIfIdle _) (nextSequence_wakeIfIdle _)
  | @completeRequeues task batch slot =>
      have same := sameWork_wakeOne (pool.withRequeued task batch.name slot)
      exact .joins ((ready_wakeIfIdle _).trans same.ready)
        ((nextSequence_wakeIfIdle _).trans same.nextSequence)
  | completeForgets =>
      exact .of_same (ready_wakeIfIdle _) (nextSequence_wakeIfIdle _)
  | @release task =>
      have dropped := sameWork_dropRegistration pool task
      exact .of_same dropped.ready dropped.nextSequence
  | @exit task =>
      have dropped := sameWork_dropRegistration pool task
      exact .of_same dropped.ready dropped.nextSequence
  | shutdown => exact .leaves (List.nil_sublist _) rfl
  | announceShutdown =>
      have woken := sameWork_wakeAll pool
      exact .of_same woken.ready woken.nextSequence
  | _ => exact .of_same rfl rfl

namespace Numbered

theorem start (size : Nat) : Numbered (Pool.start size : Pool Agent) where
  distinct := List.nodup_nil
  below := by simp [Pool.start, sequences]

theorem requeues (numbered : Numbered pool) (requeued : Requeues pool next) : Numbered next := by
  cases requeued with
  | leaves ready nextSequence =>
      have shorter : next.sequences.Sublist pool.sequences := ready.map ReadyEntry.sequence
      constructor
      · exact numbered.distinct.sublist shorter
      · intro number inside
        rw [nextSequence]
        exact numbered.below number (shorter.subset inside)
  | joins ready nextSequence =>
      have longer : next.sequences = pool.sequences ++ [pool.nextSequence] := by
        simp [sequences, ready]
      constructor
      · rw [longer]
        refine List.nodup_append.2 ⟨numbered.distinct, List.nodup_singleton _, ?_⟩
        intro number inside other isLast same
        have := numbered.below number inside
        have := List.mem_singleton.1 isLast
        omega
      · intro number inside
        rw [longer] at inside
        rw [nextSequence]
        rcases List.mem_append.1 inside with earlier | last
        · exact Nat.lt_succ_of_lt (numbered.below number earlier)
        · exact Nat.lt_succ_of_le (Nat.le_of_eq (List.mem_singleton.1 last))

end Numbered

theorem Run.numbered {size : Nat} {log : List (LogEntry Agent)} (run : Run size pool log) :
    Numbered pool := by
  induction run with
  | start => exact Numbered.start size
  | step _ stepped ih => exact ih.requeues (requeues_of_moves (moves_of_step stepped))

/-! ### Counting batches -/

theorem Run.length_phases {size : Nat} {log : List (LogEntry Agent)} (run : Run size pool log) :
    pool.phases.length = effectiveSize size := by
  induction run with
  | start => simp [Pool.start, phases]
  | step _ stepped ih => exact (length_phases_moves (moves_of_step stepped)).trans ih

theorem Run.active_le {size : Nat} {log : List (LogEntry Agent)} (run : Run size pool log) :
    pool.active ≤ effectiveSize size := by
  rw [run.invariant.coherent.active, ← run.length_phases]
  exact List.length_filterMap_le _ _

def runningSlots (pool : Pool Agent) : List (Slot Agent) :=
  pool.slots.values.filter Slot.running

theorem Coherent.length_runningSlots (coherent : Coherent pool) :
    pool.runningSlots.length = pool.active := by
  -- The names of the running slots are those of the running batches, in another order.
  have names : ((pool.slots.entries.filter (·.2.running)).map (·.1)).Perm pool.runningNames := by
    refine (List.perm_ext_iff_of_nodup ?_ coherent.runningDistinct).2 fun name => ?_
    · exact pool.slots.nodup_keys.sublist (List.filter_sublist.map _)
    · rw [coherent.running_iff, Option.any_eq_true, List.mem_map]
      constructor
      · rintro ⟨⟨_, slot⟩, inside, rfl⟩
        obtain ⟨isEntry, running⟩ := List.mem_filter.1 inside
        exact ⟨slot, pool.slots.mem_entries_iff.1 isEntry, running⟩
      · rintro ⟨slot, known, running⟩
        exact ⟨(name, slot), List.mem_filter.2 ⟨pool.slots.mem_entries_iff.2 known, running⟩, rfl⟩
  have counted := names.length_eq
  rw [List.length_map, runningNames, List.length_map] at counted
  rw [coherent.active, ← counted, runningSlots, Table.values, List.filter_map, List.length_map]
  rfl

/-! ### The inventory -/

/-- What the ready queue, the slots, the counters and the tasks of a pool say of each other. -/
structure Orderly (size : Nat) (pool : Pool Agent) : Prop where
  /-- No name is twice in the ready queue. -/
  queuedOnce : ∀ name, pool.readyNames.count name ≤ 1
  queued_iff : ∀ name, name ∈ pool.readyNames ↔
    ∃ slot, pool.slots.get? name = some slot ∧ slot.queued = true
  exclusive : ∀ name slot, pool.slots.get? name = some slot →
    ¬ (slot.queued = true ∧ slot.running = true)
  activeSlots : pool.active = pool.runningSlots.length
  activeBatches : pool.active = pool.running.length
  bounded : pool.active ≤ effectiveSize size
  /-- No two tasks execute batches of one worker. -/
  oneBatch : ∀ (first second : Nat) (batch other : Batch Agent),
    pool.phases[first]? = some (.working batch) →
      pool.phases[second]? = some (.working other) → batch.name = other.name → first = second
  filled : ∀ name slot, pool.slots.get? name = some slot → slot.queued = true →
    slot.pending ≠ []
  distinct : pool.sequences.Nodup
  below : ∀ number ∈ pool.sequences, number < pool.nextSequence
  awaited : pool.closed = false → ∀ name slot, pool.slots.get? name = some slot →
    slot.pending ≠ [] → slot.queued = true ∨ slot.running = true

/-- Every state that a pool reaches is orderly, whoever submits and whatever the tasks do. -/
theorem orderly_of_run {size : Nat} {log : List (LogEntry Agent)} (run : Run size pool log) :
    Orderly size pool := by
  have coherent := run.invariant.coherent
  have numbered := run.numbered
  have counted := coherent.length_runningSlots
  refine ⟨?_, ?_, ?_, counted.symm, coherent.active, run.active_le, ?_, ?_, numbered.distinct,
    numbered.below, ?_⟩
  · exact List.nodup_iff_count_le_one.1 coherent.readyDistinct
  · intro name
    rw [coherent.ready_iff, Option.any_eq_true]
  · rintro name slot known ⟨queued, running⟩
    have resting := (coherent.sound name slot known).exclusive queued
    rw [resting] at running
    cases running
  · intro first second batch other working otherWorking same
    exact coherent.task_unique otherWorking working same
  · exact fun name slot known => (coherent.sound name slot known).filled
  · intro opened name slot known filled
    rcases (coherent.sound name slot known).awaited filled with closed | busy
    · rw [opened] at closed
      cases closed
    · exact busy

/-- A worker for the comments of a project, which is served before the one for issues. -/
def commentWorker : Worker Unit := ⟨"index:comment", 10, ()⟩

/-- A batch of issues begins, more issues are requested, and comments become ready. -/
def mixedRequests : List (PoolEvent Unit) :=
  [.submit issueWorker (.entity 1), .announce, .register 0, .look 0,
    .submit issueWorker (.entity 2), .submit commentWorker (.entity 3), .announce, .register 1]

def mixed : Pool Unit × List (LogEntry Unit) :=
  ((Pool.start 2).follow [] mixedRequests).getD (Pool.start 2, [])

theorem orderly_while_issues_run :
    (Pool.start 2).follow [] mixedRequests = some mixed ∧
      mixed.1.readyNames = ["index:comment"] ∧ mixed.1.sequences = [1] ∧
      mixed.1.runningNames = ["index:issue"] ∧ mixed.1.active = 1 ∧
      mixed.1.pendingCount "index:issue" = 1 ∧ Orderly 2 mixed.1 := by
  have followed : (Pool.start 2).follow [] mixedRequests = some mixed := rfl
  exact ⟨followed, rfl, rfl, rfl, rfl, rfl, orderly_of_run (Run.start.follow followed)⟩

end EntitySearch.Scheduling.Pool
