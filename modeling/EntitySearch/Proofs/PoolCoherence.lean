import EntitySearch.Proofs.PoolSteps
import Mathlib.Data.List.Nodup
import Mathlib.Data.List.Perm.Basic

/-!
# Coherence of the pool

What the ready queue, the slots and the tasks of a pool have to do with each
other.  A worker stands in the queue once, exactly while its slot is queued, and
executes at most one batch, exactly while its slot is running.  Works that are
pending are waited for by one or the other.
-/

namespace EntitySearch.Scheduling

/-- What holds of the slot of every worker name. -/
structure Slot.Sound {Agent : Type} (closed : Bool) (slot : Slot Agent) : Prop where
  exclusive : slot.queued = true → slot.running = false
  distinct : slot.pending.Nodup
  awaited : slot.pending ≠ [] → closed = true ∨ slot.queued = true ∨ slot.running = true
  filled : slot.queued = true → slot.pending ≠ []

theorem nodup_addWork {works : List Work} (distinct : works.Nodup) (work : Work) :
    (addWork works work).Nodup := by
  unfold addWork
  split
  case isTrue => exact distinct
  case isFalse absent =>
    exact List.nodup_append.2 ⟨distinct, List.nodup_singleton work, fun member isMember other
      isOther same => absent (List.mem_singleton.1 isOther ▸ same ▸ isMember)⟩

theorem mem_addWork {works : List Work} {work member : Work} :
    member ∈ addWork works work ↔ member ∈ works ∨ member = work := by
  unfold addWork
  split
  case isTrue present =>
    constructor
    · exact Or.inl
    · rintro (early | rfl)
      · exact early
      · exact present
  case isFalse => simp

theorem addWork_ne_nil (works : List Work) (work : Work) : addWork works work ≠ [] :=
  List.ne_nil_of_mem (mem_addWork.2 (Or.inr rfl))

/-- Replacing a member of a list exchanges what the member maps to. -/
theorem perm_filterMap_set {Source Image : Type} {image : Source → Option Image}
    {members : List Source} {place : Nat} {old : Source} (found : members[place]? = some old)
    (new : Source) :
    ((image old).toList ++ (members.set place new).filterMap image).Perm
      ((image new).toList ++ members.filterMap image) := by
  induction members generalizing place with
  | nil => simp at found
  | cons member members ih =>
      cases place with
      | zero =>
          obtain rfl : member = old := by simpa using found
          cases seen : image member <;> cases made : image new <;>
            simp [seen, made, List.Perm.swap]
      | succ place =>
          rw [List.getElem?_cons_succ] at found
          cases seen : image member with
          | none => simpa [List.filterMap_cons, seen] using ih found
          | some value =>
              simpa [List.filterMap_cons, seen] using
                List.perm_middle.trans (((ih found).cons value).trans List.perm_middle.symm)

namespace Pool

variable {Agent : Type}

/-- The names of the ready workers in the order of the queue. -/
def readyNames (pool : Pool Agent) : List String :=
  pool.ready.map ReadyEntry.name

def runningNames (pool : Pool Agent) : List String :=
  pool.running.map Batch.name

/-- The queue, the slots and the tasks agree. -/
structure Coherent (pool : Pool Agent) : Prop where
  readyDistinct : pool.readyNames.Nodup
  ready_iff : ∀ name, name ∈ pool.readyNames ↔
    (pool.slots.get? name).any Slot.queued = true
  runningDistinct : pool.runningNames.Nodup
  running_iff : ∀ name, name ∈ pool.runningNames ↔
    (pool.slots.get? name).any Slot.running = true
  active : pool.active = pool.running.length
  sound : ∀ name slot, pool.slots.get? name = some slot → slot.Sound pool.closed
  drainedReady : pool.closed = true → pool.ready = []

namespace Coherent

theorem start (size : Nat) : Coherent (Pool.start size : Pool Agent) := by
  have idle : (Pool.start size : Pool Agent).running = [] := by
    simp [Pool.start, running, phases, List.filterMap_replicate, Phase.batch?]
  constructor
  case readyDistinct => exact List.nodup_nil
  case ready_iff => simp [Pool.start, readyNames, Table.get?_empty]
  case runningDistinct => simp [runningNames, idle]
  case running_iff =>
    simp only [runningNames, idle]
    simp [Pool.start, Table.get?_empty]
  case active => exact (congrArg List.length idle).symm
  case sound => simp [Pool.start, Table.get?_empty]
  case drainedReady => exact fun _ => rfl

/-- Coherence does not depend on anything else, nor on the order of the running batches. -/
theorem congr {pool next : Pool Agent} (coherent : Coherent pool)
    (slots : next.slots = pool.slots) (ready : next.ready = pool.ready)
    (active : next.active = pool.active) (closed : next.closed = pool.closed)
    (running : next.running.Perm pool.running) : Coherent next := by
  have names := running.map Batch.name
  constructor
  case readyDistinct => simpa [readyNames, ready] using coherent.readyDistinct
  case ready_iff => simpa [readyNames, ready, slots] using coherent.ready_iff
  case runningDistinct => exact names.nodup_iff.2 coherent.runningDistinct
  case running_iff =>
    intro name
    rw [slots]
    exact names.mem_iff.trans (coherent.running_iff name)
  case active => rw [active, coherent.active, running.length_eq]
  case sound =>
    rw [slots, closed]
    exact coherent.sound
  case drainedReady =>
    rw [closed, ready]
    exact coherent.drainedReady

theorem of_sameWork {pool next : Pool Agent} (coherent : Coherent pool)
    (same : SameWork pool next) : Coherent next := by
  apply coherent.congr same.slots same.ready same.active same.closed
  simp only [running, same.phases]
  exact List.Perm.refl _

end Coherent

theorem running_setPhase {pool : Pool Agent} {task : Nat} {old : Phase Agent}
    (found : pool.phases[task]? = some old) (new : Phase Agent) :
    (old.batch?.toList ++ (pool.setPhase task new).running).Perm
      (new.batch?.toList ++ pool.running) := by
  simpa [running] using perm_filterMap_set found new

namespace Coherent

variable {pool : Pool Agent}

/-- A task that has no batch before and none behind a move leaves the pool coherent. -/
theorem setPhase (coherent : Coherent pool) {task : Nat} {old new : Phase Agent}
    (found : pool.phases[task]? = some old) (before : old.batch? = none)
    (behind : new.batch? = none) : Coherent (pool.setPhase task new) := by
  have same : (pool.setPhase task new).running.Perm pool.running := by
    simpa [before, behind] using running_setPhase found new
  exact coherent.congr (by rfl) (by rfl) (by rfl) (by rfl) same

end Coherent

theorem queued_submittedSlot (pool : Pool Agent) (worker : Worker Agent) (work : Work) :
    (pool.submittedSlot worker work).queued =
      (pool.slots.get? worker.name).any Slot.queued := by
  unfold submittedSlot
  cases pool.slots.get? worker.name <;> rfl

theorem running_submittedSlot (pool : Pool Agent) (worker : Worker Agent) (work : Work) :
    (pool.submittedSlot worker work).running =
      (pool.slots.get? worker.name).any Slot.running := by
  unfold submittedSlot
  cases pool.slots.get? worker.name <;> rfl

def pendingOf (pool : Pool Agent) (name : String) : List Work :=
  ((pool.slots.get? name).map Slot.pending).getD []

theorem pending_submittedSlot (pool : Pool Agent) (worker : Worker Agent) (work : Work) :
    (pool.submittedSlot worker work).pending =
      addWork (pool.pendingOf worker.name) work := by
  unfold submittedSlot pendingOf
  cases pool.slots.get? worker.name <;> rfl

namespace Coherent

variable {pool : Pool Agent}

theorem nodup_pendingOf (coherent : Coherent pool) (name : String) :
    (pool.pendingOf name).Nodup := by
  unfold pendingOf
  cases known : pool.slots.get? name with
  | none => exact List.nodup_nil
  | some slot => exact (coherent.sound name slot known).distinct

theorem exclusive (coherent : Coherent pool) {name : String}
    (queued : (pool.slots.get? name).any Slot.queued = true) :
    (pool.slots.get? name).any Slot.running = false := by
  cases known : pool.slots.get? name with
  | none => rfl
  | some slot =>
      rw [known] at queued
      exact (coherent.sound name slot known).exclusive queued

/-- A slot that is put into its place changes what names of workers say of it, and of it
alone. -/
theorem mem_iff_of_set {slots : Table String (Slot Agent)} {slot : Slot Agent} {name : String}
    {names later : List String} {flag : Slot Agent → Bool}
    (before : ∀ other, other ∈ names ↔ (slots.get? other).any flag = true)
    (own : name ∈ later ↔ flag slot = true)
    (others : ∀ other, other ≠ name → (other ∈ later ↔ other ∈ names)) (other : String) :
    other ∈ later ↔ ((slots.set name slot).get? other).any flag = true := by
  by_cases same : other = name
  · subst same
    simpa using own
  · rw [Table.get?_set_of_ne _ same, ← before other]
    exact others other same

theorem sound_of_set {slots : Table String (Slot Agent)} {slot : Slot Agent} {name : String}
    {closed : Bool} (before : ∀ other present, slots.get? other = some present →
      present.Sound closed) (sound : slot.Sound closed) (other : String)
    (present : Slot Agent) (known : (slots.set name slot).get? other = some present) :
    present.Sound closed := by
  by_cases same : other = name
  · subst same
    obtain rfl : slot = present := by simpa using known
    exact sound
  · rw [Table.get?_set_of_ne _ same] at known
    exact before other present known

theorem setSlot (coherent : Coherent pool) {name : String} {slot : Slot Agent}
    (queued : slot.queued = (pool.slots.get? name).any Slot.queued)
    (running : slot.running = (pool.slots.get? name).any Slot.running)
    (sound : slot.Sound pool.closed) :
    Coherent { pool with slots := pool.slots.set name slot } where
  readyDistinct := coherent.readyDistinct
  ready_iff :=
    mem_iff_of_set coherent.ready_iff (queued ▸ coherent.ready_iff name) fun _ _ => Iff.rfl
  runningDistinct := coherent.runningDistinct
  running_iff :=
    mem_iff_of_set coherent.running_iff (running ▸ coherent.running_iff name) fun _ _ => Iff.rfl
  active := coherent.active
  sound := sound_of_set coherent.sound sound
  drainedReady := coherent.drainedReady

theorem withSubmitted (coherent : Coherent pool) {worker : Worker Agent} {work : Work}
    (busy : (pool.submittedSlot worker work).queued = true ∨
      (pool.submittedSlot worker work).running = true) :
    Coherent (pool.withSubmitted worker work) := by
  apply coherent.setSlot (queued_submittedSlot pool worker work)
    (running_submittedSlot pool worker work)
  constructor
  · rw [queued_submittedSlot, running_submittedSlot]
    exact coherent.exclusive
  · rw [pending_submittedSlot]
    exact nodup_addWork (coherent.nodup_pendingOf worker.name) work
  · exact fun _ => Or.inr busy
  · rw [pending_submittedSlot]
    exact fun _ => addWork_ne_nil _ work

/-- A resting worker that becomes ready is appended to the queue. -/
theorem enqueued {next : Pool Agent} (coherent : Coherent pool) (entry : ReadyEntry)
    {slot : Slot Agent} (slots : next.slots = pool.slots.set entry.name slot)
    (ready : next.ready = pool.ready ++ [entry]) (active : next.active = next.running.length)
    (opened : next.closed = false) (wasOpened : pool.closed = false)
    (unqueued : (pool.slots.get? entry.name).any Slot.queued = false)
    (queued : slot.queued = true) (resting : slot.running = false)
    (distinct : slot.pending.Nodup) (filled : slot.pending ≠ [])
    (runningDistinct : next.runningNames.Nodup)
    (running : ∀ name, name ∈ next.runningNames ↔
      name ∈ pool.runningNames ∧ name ≠ entry.name) :
    Coherent next where
  readyDistinct := by
    have absent : entry.name ∉ pool.readyNames := by
      rw [coherent.ready_iff, unqueued]
      exact Bool.false_ne_true
    have distinctNames := List.nodup_append.2 ⟨coherent.readyDistinct,
      List.nodup_singleton entry.name, fun name member other isOther same =>
        absent (List.mem_singleton.1 isOther ▸ same ▸ member)⟩
    simpa [readyNames, ready] using distinctNames
  ready_iff := by
    rw [slots]
    refine mem_iff_of_set coherent.ready_iff ?_ fun other different => ?_
    · simp [readyNames, ready, queued]
    · simp [readyNames, ready, different]
  runningDistinct := runningDistinct
  running_iff := by
    rw [slots]
    refine mem_iff_of_set coherent.running_iff ?_ fun other different => ?_
    · simp [running, resting]
    · simp [running, different]
  active := active
  sound := by
    rw [slots, opened]
    exact sound_of_set (wasOpened ▸ coherent.sound)
      ⟨fun _ => resting, distinct, fun _ => Or.inr (Or.inl queued), fun _ => filled⟩
  drainedReady closed := by simp [opened] at closed

theorem withReady (coherent : Coherent pool) {worker : Worker Agent} {work : Work}
    (opened : pool.closed = false)
    (unqueued : (pool.submittedSlot worker work).queued = false)
    (resting : (pool.submittedSlot worker work).running = false) :
    Coherent (pool.withReady worker work) := by
  have notRunning : worker.name ∉ pool.runningNames := by
    rw [coherent.running_iff, ← running_submittedSlot, resting]
    exact Bool.false_ne_true
  rw [queued_submittedSlot] at unqueued
  have slots : (pool.withReady worker work).slots = pool.slots.set worker.name
      { pool.submittedSlot worker work with queued := true } := rfl
  have ready : (pool.withReady worker work).ready =
      pool.ready ++ [⟨worker.priority, pool.nextSequence, worker.name⟩] := rfl
  refine coherent.enqueued ⟨worker.priority, pool.nextSequence, worker.name⟩ slots ready
    coherent.active opened opened unqueued rfl resting ?_ ?_ coherent.runningDistinct
    fun name => ?_
  · rw [pending_submittedSlot]
    exact nodup_addWork (coherent.nodup_pendingOf worker.name) work
  · rw [pending_submittedSlot]
    exact addWork_ne_nil _ work
  · constructor
    · intro member
      refine ⟨member, ?_⟩
      rintro rfl
      exact notRunning member
    · exact And.left

/-- What is running besides the batch of a task that goes to release its registration. -/
theorem running_perm_of_working {task : Nat} {batch : Batch Agent}
    (working : pool.phases[task]? = some (.working batch)) :
    pool.running.Perm (batch :: (pool.setPhase task .releasing).running) := by
  simpa [Phase.batch?] using (running_setPhase working .releasing).symm

theorem mem_running {task : Nat} {batch : Batch Agent}
    (working : pool.phases[task]? = some (.working batch)) : batch ∈ pool.running :=
  (running_perm_of_working working).mem_iff.2 List.mem_cons_self

theorem mem_runningNames_behind (coherent : Coherent pool) {task : Nat} {batch : Batch Agent}
    (working : pool.phases[task]? = some (.working batch)) :
    (pool.setPhase task .releasing).runningNames.Nodup ∧
      ∀ name, name ∈ (pool.setPhase task .releasing).runningNames ↔
        name ∈ pool.runningNames ∧ name ≠ batch.name := by
  have names := (running_perm_of_working working).map Batch.name
  rw [List.map_cons] at names
  have distinct := List.nodup_cons.1 (names.nodup_iff.1 coherent.runningDistinct)
  refine ⟨distinct.2, fun name => ?_⟩
  rw [runningNames, runningNames, names.mem_iff, List.mem_cons]
  constructor
  · intro member
    refine ⟨Or.inr member, ?_⟩
    rintro rfl
    exact distinct.1 member
  · rintro ⟨same | member, different⟩
    · exact (different same).elim
    · exact member

/-- No two tasks execute batches of one name. -/
theorem task_unique (coherent : Coherent pool) {first second : Nat} {batch other : Batch Agent}
    (working : pool.phases[first]? = some (.working batch))
    (otherWorking : pool.phases[second]? = some (.working other)) (same : other.name = batch.name) :
    second = first := by
  by_contra different
  have still : (pool.setPhase first .releasing).phases[second]? = some (.working other) := by
    rw [phases_setPhase, List.getElem?_set_ne (Ne.symm different)]
    exact otherWorking
  have named : other.name ∈ (pool.setPhase first .releasing).runningNames :=
    List.mem_map_of_mem (mem_running still)
  exact ((coherent.mem_runningNames_behind working).2 other.name).1 named |>.2 same

theorem runningSlot (coherent : Coherent pool) {batch : Batch Agent}
    (running : batch ∈ pool.running) :
    ∃ slot, pool.slots.get? batch.name = some slot ∧ slot.running = true := by
  have named := (coherent.running_iff batch.name).1 (List.mem_map_of_mem running)
  cases known : pool.slots.get? batch.name with
  | none => simp [known] at named
  | some slot => exact ⟨slot, rfl, by simpa [known] using named⟩

theorem readySlot (coherent : Coherent pool) {entry : ReadyEntry}
    (ready : entry ∈ pool.ready) :
    ∃ slot, pool.slots.get? entry.name = some slot ∧ slot.queued = true := by
  have named := (coherent.ready_iff entry.name).1 (List.mem_map_of_mem ready)
  cases known : pool.slots.get? entry.name with
  | none => simp [known] at named
  | some slot => exact ⟨slot, rfl, by simpa [known] using named⟩

theorem withRequeued (coherent : Coherent pool) {task : Nat} {batch : Batch Agent}
    {slot : Slot Agent} (working : pool.phases[task]? = some (.working batch))
    (known : pool.slots.get? batch.name = some slot) (remaining : slot.pending ≠ [])
    (opened : pool.closed = false) :
    Coherent (pool.withRequeued task batch.name slot) := by
  obtain ⟨present, presentKnown, running⟩ := coherent.runningSlot (mem_running working)
  obtain rfl : slot = present := by simpa [known] using presentKnown
  have sound := coherent.sound batch.name slot known
  have unqueued : (pool.slots.get? batch.name).any Slot.queued = false := by
    cases queued : slot.queued with
    | false => simp [known, queued]
    | true => simp [sound.exclusive queued] at running
  obtain ⟨distinct, names⟩ := coherent.mem_runningNames_behind working
  have slots : (pool.withRequeued task batch.name slot).slots = pool.slots.set batch.name
      { slot with running := false, queued := true } := rfl
  have ready : (pool.withRequeued task batch.name slot).ready =
      pool.ready ++ [⟨slot.worker.priority, pool.nextSequence, batch.name⟩] := rfl
  have active : pool.active - 1 = (pool.setPhase task .releasing).running.length := by
    rw [coherent.active, (running_perm_of_working working).length_eq, List.length_cons]
    omega
  exact coherent.enqueued ⟨slot.worker.priority, pool.nextSequence, batch.name⟩ slots ready
    active opened opened unqueued rfl rfl sound.distinct remaining distinct names

theorem withRested (coherent : Coherent pool) {task : Nat} {batch : Batch Agent}
    {slot : Slot Agent} (working : pool.phases[task]? = some (.working batch))
    (known : pool.slots.get? batch.name = some slot)
    (done : slot.pending = [] ∨ pool.closed = true) :
    Coherent (pool.withRested task batch.name slot) := by
  obtain ⟨present, presentKnown, running⟩ := coherent.runningSlot (mem_running working)
  obtain rfl : slot = present := by simpa [known] using presentKnown
  have sound := coherent.sound batch.name slot known
  obtain ⟨distinct, names⟩ := coherent.mem_runningNames_behind working
  have active : pool.active - 1 = (pool.setPhase task .releasing).running.length := by
    rw [coherent.active, (running_perm_of_working working).length_eq, List.length_cons]
    omega
  refine ⟨coherent.readyDistinct, ?ready_iff, distinct, ?running_iff, active, ?sound,
    coherent.drainedReady⟩
  case ready_iff =>
    have own := coherent.ready_iff batch.name
    rw [known] at own
    exact mem_iff_of_set coherent.ready_iff own fun _ _ => Iff.rfl
  case running_iff =>
    exact mem_iff_of_set coherent.running_iff ((names batch.name).trans (by simp))
      fun other different => (names other).trans (and_iff_left different)
  case sound =>
    refine sound_of_set coherent.sound
      ⟨fun _ => rfl, sound.distinct, fun filled => ?_, sound.filled⟩
    rcases done with empty | closed
    · exact (filled empty).elim
    · exact Or.inl closed

theorem readyNames_perm_of_mem {entry : ReadyEntry} (ready : entry ∈ pool.ready) :
    pool.readyNames.Perm (entry.name :: (pool.ready.erase entry).map ReadyEntry.name) :=
  (List.perm_cons_erase ready).map ReadyEntry.name

theorem running_perm_of_looking {task : Nat} (looking : pool.phases[task]? = some .looking)
    (batch : Batch Agent) :
    (pool.setPhase task (.working batch)).running.Perm (batch :: pool.running) := by
  simpa [Phase.batch?] using running_setPhase looking (.working batch)

/-- A drained worker leaves the queue and executes its batch. -/
theorem drained {next : Pool Agent} (coherent : Coherent pool) {task : Nat}
    {entry : ReadyEntry} {slot : Slot Agent}
    (looking : pool.phases[task]? = some .looking) (ready : entry ∈ pool.ready)
    (known : pool.slots.get? entry.name = some slot) (opened : pool.closed = false)
    (same : SameWork (pool.withDrained entry slot) next) :
    Coherent (next.setPhase task (.working ⟨entry.name, slot.worker, slot.pending⟩)) := by
  obtain ⟨present, presentKnown, queued⟩ := coherent.readySlot ready
  obtain rfl : slot = present := by simpa [known] using presentKnown
  have resting := (coherent.sound entry.name slot known).exclusive queued
  have queue := readyNames_perm_of_mem ready
  have queueDistinct := List.nodup_cons.1 (queue.nodup_iff.1 coherent.readyDistinct)
  have phases : next.phases = pool.phases := same.phases
  have unchanged : next.running = pool.running := by simp only [Pool.running, phases]
  have running := running_perm_of_looking (phases ▸ looking)
    ⟨entry.name, slot.worker, slot.pending⟩
  rw [unchanged] at running
  have names := running.map Batch.name
  rw [List.map_cons] at names
  have notRunning : entry.name ∉ pool.runningNames := by
    rw [coherent.running_iff, known]
    simp [resting]
  have slots : next.slots = pool.slots.set entry.name
      { slot with pending := [], queued := false, running := true } := same.slots
  have closed : next.closed = pool.closed := same.closed
  have after : (next.setPhase task
      (.working ⟨entry.name, slot.worker, slot.pending⟩)).readyNames =
        (pool.ready.erase entry).map ReadyEntry.name := by
    simp [readyNames, Pool.setPhase, updateTask, same.ready, Pool.withDrained]
  constructor
  case readyDistinct => exact after ▸ queueDistinct.2
  case ready_iff =>
    rw [after]
    simp only [Pool.setPhase, updateTask, slots]
    refine mem_iff_of_set coherent.ready_iff ?_ fun other different => ?_
    · simpa using queueDistinct.1
    · rw [queue.mem_iff, List.mem_cons, or_iff_right different]
  case runningDistinct =>
    exact names.nodup_iff.2 (List.nodup_cons.2 ⟨notRunning, coherent.runningDistinct⟩)
  case running_iff =>
    simp only [Pool.setPhase, updateTask, slots]
    refine mem_iff_of_set coherent.running_iff ?_ fun other different => ?_
    · exact iff_of_true (names.mem_iff.2 List.mem_cons_self) rfl
    · exact names.mem_iff.trans (List.mem_cons.trans (or_iff_right different))
  case active =>
    rw [running.length_eq, List.length_cons, ← coherent.active]
    exact same.active
  case sound =>
    simp only [Pool.setPhase, updateTask, slots, closed]
    exact sound_of_set coherent.sound ⟨fun queued => by simp at queued, List.nodup_nil,
      fun filled => (filled rfl).elim, fun queued => by simp at queued⟩
  case drainedReady =>
    intro isClosed
    simp [Pool.setPhase, updateTask, closed, opened] at isClosed

theorem close (coherent : Coherent pool) : Coherent pool.close where
  readyDistinct := List.nodup_nil
  ready_iff name := by
    simp only [Pool.close, Table.get?_map, readyNames, List.map_nil, List.not_mem_nil,
      false_iff]
    cases pool.slots.get? name <;> simp
  runningDistinct := coherent.runningDistinct
  running_iff name := by
    refine (coherent.running_iff name).trans ?_
    simp only [Pool.close, Table.get?_map]
    cases pool.slots.get? name <;> rfl
  active := coherent.active
  sound name slot known := by
    simp only [Pool.close, Table.get?_map, Option.map_eq_some_iff] at known
    obtain ⟨before, found, rfl⟩ := known
    exact ⟨fun queued => by simp at queued, (coherent.sound name before found).distinct,
      fun _ => Or.inl rfl, fun queued => by simp at queued⟩
  drainedReady _ := rfl

end Coherent

theorem leastReady?_mem {ready : List ReadyEntry} {least : ReadyEntry}
    (found : leastReady? ready = some least) : least ∈ ready := by
  induction ready with
  | nil => simp [leastReady?] at found
  | cons entry rest ih =>
      simp only [leastReady?] at found
      split at found
      case h_1 other later =>
        split at found
        case isTrue =>
          cases found
          exact List.mem_cons_self
        case isFalse => exact List.mem_cons_of_mem _ (ih (later.trans found))
      case h_2 =>
        cases found
        exact List.mem_cons_self

theorem sameWork_woken {pool next : Pool Agent} (wakes : next = pool ∨ next = pool.wakeOne) :
    SameWork pool next := by
  rcases wakes with rfl | rfl
  · exact SameWork.refl _
  · exact sameWork_wakeOne pool

namespace Coherent

variable {pool next : Pool Agent}

theorem wakeIfIdle (coherent : Coherent pool) : Coherent pool.wakeIfIdle := by
  unfold Pool.wakeIfIdle
  split
  · exact coherent.congr rfl rfl rfl rfl (List.Perm.refl _)
  · exact coherent

theorem known_of_least (coherent : Coherent pool) {entry : ReadyEntry}
    (least : leastReady? pool.ready = some entry) : pool.slots.get? entry.name ≠ none := by
  obtain ⟨slot, known, -⟩ := coherent.readySlot (leastReady?_mem least)
  simp [known]

theorem known_of_working (coherent : Coherent pool) {task : Nat} {batch : Batch Agent}
    (working : pool.phases[task]? = some (.working batch)) :
    pool.slots.get? batch.name ≠ none := by
  obtain ⟨slot, known, -⟩ := coherent.runningSlot (mem_running working)
  simp [known]

theorem moves {event : PoolEvent Agent} (coherent : Coherent pool)
    (moved : Moves pool event next) : Coherent next := by
  cases moved with
  | submitRefused => exact coherent
  | submitWaits opened busy => exact coherent.withSubmitted busy
  | submitReady opened unqueued resting => exact coherent.withReady opened unqueued resting
  | announce owed =>
      have lessOwed : Coherent { pool with owedWakeups := pool.owedWakeups - 1 } :=
        coherent.congr rfl rfl rfl rfl (List.Perm.refl _)
      exact lessOwed.of_sameWork (sameWork_wakeOne _)
  | @register task arriving =>
      have registered := sameWork_registerTask pool task
      exact (coherent.of_sameWork registered).setPhase (registered.phases ▸ arriving) rfl rfl
  | lookClosed looking closed => exact coherent.setPhase looking rfl rfl
  | lookParks looking opened empty => exact coherent.setPhase looking rfl rfl
  | lookSkips _ _ least unknown => exact (coherent.known_of_least least unknown).elim
  | lookTakes looking opened least known _ wakes =>
      exact coherent.drained looking (leastReady?_mem least) known opened
        (sameWork_woken wakes)
  | @resume task _ parked registered woken =>
      have registration := sameWork_setRegistration pool task .none
      exact (coherent.of_sameWork registration).setPhase (registration.phases ▸ parked) rfl rfl
  | completeRests working known done => exact (coherent.withRested working known done).wakeIfIdle
  | completeRequeues working known remaining opened =>
      exact ((coherent.withRequeued working known remaining opened).of_sameWork
        (sameWork_wakeOne _)).wakeIfIdle
  | completeForgets working unknown => exact (coherent.known_of_working working unknown).elim
  | @release task releasing =>
      have dropped := sameWork_dropRegistration pool task
      exact (coherent.of_sameWork dropped).setPhase (dropped.phases ▸ releasing) rfl rfl
  | @exit task exiting =>
      have dropped := sameWork_dropRegistration pool task
      exact (coherent.of_sameWork dropped).setPhase (dropped.phases ▸ exiting) rfl rfl
  | awaitIdle => exact coherent.congr rfl rfl rfl rfl (List.Perm.refl _)
  | registerIdle => exact coherent.congr rfl rfl rfl rfl (List.Perm.refl _)
  | lookIdle => exact coherent.congr rfl rfl rfl rfl (List.Perm.refl _)
  | resumeIdle => exact coherent.congr rfl rfl rfl rfl (List.Perm.refl _)
  | shutdownAgain => exact coherent.congr rfl rfl rfl rfl (List.Perm.refl _)
  | shutdown => exact coherent.close.congr rfl rfl rfl rfl (List.Perm.refl _)
  | announceShutdown =>
      have woken := coherent.of_sameWork (sameWork_wakeAll pool)
      exact woken.congr rfl rfl rfl rfl (List.Perm.refl _)
  | finishShutdown => exact coherent.congr rfl rfl rfl rfl (List.Perm.refl _)

end Coherent

end Pool

end EntitySearch.Scheduling
