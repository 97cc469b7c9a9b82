import EntitySearch.Scheduling.Timeline

/-!
# The world around a pool

A pool touches the world around it through its batches only.  What every batch
keeps, whenever it starts or ends, holds after any run of the pool.
-/

namespace EntitySearch.Scheduling

variable {Agent World : Type}

/-- Whatever the pool does with the world keeps the property. -/
structure BatchBehavior.Keeps (behavior : BatchBehavior Agent World)
    (property : World → Prop) : Prop where
  start : ∀ world now batch, property world → property (behavior.start world now batch).1
  finish : ∀ world now batch slept, property world →
    property (behavior.finish world now batch slept).1
  refused : ∀ world failure, property world → property (behavior.refused world failure)

namespace Timeline

variable {behavior : BatchBehavior Agent World} {property : World → Prop}
  {line : Timeline Agent World}

theorem world_happen (line : Timeline Agent World) (event : PoolEvent Agent) :
    (line.happen event).world = line.world := by
  unfold happen
  split <;> rfl

theorem world_submit {worker : Worker Agent} {work : Work} {next : Timeline Agent World}
    (submitted : line.submit worker work = .ok next) : next.world = line.world := by
  unfold submit at submitted
  split at submitted
  · cases submitted
  · cases submitted
    exact world_happen _ _

section

variable (keeps : behavior.Keeps property)

include keeps

theorem keeps_submitAll (works : List (Worker Agent × Work)) (holds : property line.world) :
    property (submitAll behavior line works).world := by
  induction works generalizing line with
  | nil => exact holds
  | cons first works ih =>
      unfold submitAll
      split
      · rename_i next submitted
        apply ih
        rw [world_submit submitted]
        exact holds
      · apply ih
        exact keeps.refused _ _ holds

theorem keeps_finishBatch (task : Nat) (batch : Batch Agent) (slept : Bool)
    (holds : property line.world) :
    property (finishBatch behavior line task batch slept).world := by
  simp only [finishBatch, world_happen, count]
  exact keeps_submitAll keeps _ (keeps.finish _ _ _ _ holds)

theorem keeps_startBatch (task : Nat) (batch : Batch Agent) (holds : property line.world) :
    property (startBatch behavior line task batch).world := by
  have started := keeps.start line.world line.now batch holds
  simp only [startBatch, count]
  split
  · exact started
  · exact keeps_finishBatch keeps task batch false started

theorem keeps_runTask (allowance task : Nat) (holds : property line.world) :
    property (runTask behavior allowance line task).world := by
  induction allowance generalizing line with
  | zero => exact holds
  | succ allowance ih =>
      unfold runTask
      split
      · simp only
        have looked : property ((line.happen (.register task)).happen (.look task)).world := by
          rw [world_happen, world_happen]
          exact holds
        split
        · exact ih (keeps_startBatch keeps task _ looked)
        · exact ih looked
      · split
        · apply ih
          rw [world_happen]
          exact holds
        · exact holds
      · rw [world_happen]
        exact holds
      · exact holds

theorem keeps_runReady (allowance : Nat) (holds : property line.world) :
    property (runReady behavior allowance line).world := by
  induction allowance generalizing line with
  | zero => exact holds
  | succ allowance ih =>
      unfold runReady
      split
      · exact holds
      · exact ih (keeps_runTask keeps _ _ holds)

theorem keeps_wake (allowance : Nat) (sleeper : Sleeper) (holds : property line.world) :
    property (wake behavior allowance line sleeper).world := by
  simp only [wake]
  split
  · exact keeps_runTask keeps _ _ (keeps_finishBatch keeps _ _ _ holds)
  · exact holds

theorem keeps_runUntil (done : Pool Agent → Bool) (horizon : Option Nat) (allowance : Nat)
    (holds : property line.world) :
    property (runUntil behavior done horizon allowance line).world := by
  induction allowance generalizing line with
  | zero => exact holds
  | succ allowance ih =>
      have settled := keeps_runReady keeps (allowance + 1) holds
      simp only [runUntil]
      split
      · exact settled
      · split
        · exact settled
        · split
          · exact settled
          · exact ih (keeps_wake keeps _ _ settled)

theorem keeps_settle (allowance : Nat) (holds : property line.world) :
    property (settle behavior allowance line).world := by
  unfold settle
  split
  · exact holds
  · exact keeps_runUntil keeps _ _ _ holds

theorem keeps_shutDown (allowance : Nat) (holds : property line.world) :
    property (shutDown behavior allowance line).world := by
  simp only [shutDown, world_happen]
  apply keeps_runUntil keeps
  rw [world_happen, world_happen]
  exact holds

end

end Timeline

end EntitySearch.Scheduling
