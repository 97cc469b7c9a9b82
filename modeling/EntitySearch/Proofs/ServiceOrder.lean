import EntitySearch.Proofs.PoolInventory

/-!
# The order of service

A worker that becomes ready waits behind the workers that are ready with its
priority value or a smaller one, and ahead of the others.  It keeps that place
until its batch begins: a worker that begins a batch leaves the queue, and when it
becomes ready again it waits behind all that were ready before.  So every other
worker of the same priority value is served at most once in the meantime, and none
with a larger value.

The turns of a run show this order.  They say when a worker becomes ready, with
the priority value that it has then, and when one of its batches begins; they do
not mention the queue by which the pool arranges the order.
-/

namespace EntitySearch.Scheduling

/-- What a run shows of the order of service: a worker becomes ready, a batch begins, or the
pool is closed, so that nobody is ready any more. -/
inductive Turn
  | ready (name : String) (priority : Nat)
  | began (name : String)
  | closed
deriving Repr, DecidableEq

/-- A ready worker with the priority value that it had when it became ready. -/
structure ReadyWorker where
  name : String
  priority : Nat
deriving Repr, DecidableEq

/-- The worker of this name is served next: it has the least priority value of the workers that
are ready, and of those with that value it has been ready longest. -/
def IsNext (waiting : List ReadyWorker) (name : String) : Prop :=
  ∃ earlier priority later, waiting = earlier ++ ⟨name, priority⟩ :: later ∧
    (∀ other ∈ earlier, priority < other.priority) ∧ ∀ other ∈ later, priority ≤ other.priority

def ReadyBefore (waiting : List ReadyWorker) (first second : String) : Prop :=
  ∃ priority other, [⟨first, priority⟩, ⟨second, other⟩].Sublist waiting

theorem ReadyBefore.mono {waiting longer : List ReadyWorker} {first second : String}
    (before : ReadyBefore waiting first second) (shorter : waiting.Sublist longer) :
    ReadyBefore longer first second := by
  obtain ⟨priority, other, pair⟩ := before
  exact ⟨priority, other, pair.trans shorter⟩

theorem ReadyBefore.of_append {waiting : List ReadyWorker} {joined : ReadyWorker}
    {first second : String} (before : ReadyBefore (waiting ++ [joined]) first second)
    (different : second ≠ joined.name) : ReadyBefore waiting first second := by
  obtain ⟨priority, other, pair⟩ := before
  refine ⟨priority, other, ?_⟩
  obtain ⟨early, last, split, shorter, ends⟩ := List.sublist_append_iff.1 pair
  rcases List.sublist_singleton.1 ends with rfl | rfl
  · rw [List.append_nil] at split
    exact split ▸ shorter
  · have same := congrArg List.getLast? split
    simp at same
    exact (different (congrArg ReadyWorker.name same)).elim

section

variable {waiting : List ReadyWorker} {name other : String} {priority value : Nat}

theorem eq_of_sameName (distinct : (waiting.map ReadyWorker.name).Nodup)
    {first second : ReadyWorker} (isFirst : first ∈ waiting) (isSecond : second ∈ waiting)
    (same : first.name = second.name) : first = second :=
  List.inj_on_of_nodup_map distinct isFirst isSecond same

/-- The next worker has a smaller priority value than any other that is ready, or no larger one
and became ready before it. -/
theorem IsNext.compare (next : IsNext waiting other)
    (distinct : (waiting.map ReadyWorker.name).Nodup) (waits : ⟨name, priority⟩ ∈ waiting)
    (served : ⟨other, value⟩ ∈ waiting) :
    value < priority ∨ value ≤ priority ∧ (other = name ∨ ReadyBefore waiting other name) := by
  obtain ⟨earlier, least, later, rfl, smaller, small⟩ := next
  obtain rfl : value = least := by
    have same := eq_of_sameName distinct served (List.mem_append_right _ List.mem_cons_self) rfl
    exact congrArg ReadyWorker.priority same
  rcases List.mem_append.1 waits with early | late
  · exact Or.inl (smaller _ early)
  · rcases List.mem_cons.1 late with same | isLater
    · cases same
      exact Or.inr ⟨Nat.le_refl _, Or.inl rfl⟩
    · have pair : [⟨other, value⟩, ⟨name, priority⟩].Sublist (⟨other, value⟩ :: later) :=
        (List.singleton_sublist.2 isLater).cons_cons _
      have before : ReadyBefore (earlier ++ ⟨other, value⟩ :: later) other name :=
        ⟨value, priority, pair.trans (List.sublist_append_right _ _)⟩
      exact Or.inr ⟨small _ isLater, Or.inr before⟩

theorem IsNext.le (next : IsNext waiting other) (distinct : (waiting.map ReadyWorker.name).Nodup)
    (waits : ⟨name, priority⟩ ∈ waiting) (served : ⟨other, value⟩ ∈ waiting) :
    value ≤ priority := by
  rcases next.compare distinct waits served with less | ⟨notMore, -⟩
  · exact Nat.le_of_lt less
  · exact notMore

theorem IsNext.lt (next : IsNext waiting other) (distinct : (waiting.map ReadyWorker.name).Nodup)
    (waits : ⟨name, priority⟩ ∈ waiting) (served : ⟨other, value⟩ ∈ waiting)
    (different : other ≠ name) (behind : ¬ ReadyBefore waiting other name) :
    value < priority := by
  rcases next.compare distinct waits served with less | ⟨-, same | before⟩
  · exact less
  · exact (different same).elim
  · exact (behind before).elim

end

namespace Turn

/-- The workers that are ready behind a turn, in the order in which they became ready. -/
def after (waiting : List ReadyWorker) : Turn → List ReadyWorker
  | .ready name priority => waiting ++ [⟨name, priority⟩]
  | .began name => waiting.filter (·.name ≠ name)
  | .closed => []

def readyBehind (turns : List Turn) : List ReadyWorker :=
  turns.foldl after []

end Turn

/-- The turns serve the ready workers in order, without much overtaking. -/
structure ServedInOrder (turns : List Turn) : Prop where
  /-- Every batch that begins is of the worker that is next. -/
  least : ∀ before name later, turns = before ++ .began name :: later →
    IsNext (Turn.readyBehind before) name
  /-- While a worker is ready, no batch begins of a worker that is ready with a larger priority
  value. -/
  noneSlower : ∀ before name priority first other later,
    turns = before ++ .ready name priority :: (first ++ .began other :: later) →
      .began name ∉ first →
        ∀ value, ⟨other, value⟩ ∈ Turn.readyBehind (before ++ .ready name priority :: first) →
          value ≤ priority
  /-- While a worker is ready, another one begins a second batch only with a smaller priority
  value. -/
  onceEqual : ∀ before name priority first other second later,
    turns = before ++ .ready name priority ::
        (first ++ .began other :: (second ++ .began other :: later)) →
      .began name ∉ first ++ .began other :: second →
        ∀ value, ⟨other, value⟩ ∈ Turn.readyBehind
            (before ++ .ready name priority :: (first ++ .began other :: second)) →
          value < priority

namespace Turn

/-- From these ready workers on, every batch that begins is of the worker that is next, no
worker becomes ready that is ready already, and none does once the pool is closed. -/
def Serve : List ReadyWorker → List Turn → Prop
  | _, [] => True
  | waiting, turn :: turns =>
      (match turn with
        | .ready name _ => name ∉ waiting.map ReadyWorker.name
        | .began name => IsNext waiting name
        | .closed => ∀ name priority, .ready name priority ∉ turns) ∧
      Serve (after waiting turn) turns

section

variable {waiting : List ReadyWorker} {turns first later between : List Turn}
  {name other : String} {priority value : Nat}

theorem Serve.behind (serve : Serve waiting (first ++ later)) :
    Serve (first.foldl after waiting) later := by
  induction first generalizing waiting with
  | nil => exact serve
  | cons turn first ih => exact ih serve.2

theorem Serve.distinct (serve : Serve waiting (first ++ later))
    (distinct : (waiting.map ReadyWorker.name).Nodup) :
    ((first.foldl after waiting).map ReadyWorker.name).Nodup := by
  induction first generalizing waiting with
  | nil => exact distinct
  | cons turn first ih =>
      refine ih serve.2 ?_
      cases turn with
      | ready name priority =>
          have absent : name ∉ waiting.map ReadyWorker.name := serve.1
          rw [after, List.map_append]
          exact distinct.append (List.nodup_singleton name) (by simpa using absent)
      | began name => exact distinct.sublist (List.filter_sublist.map _)
      | closed => exact List.nodup_nil

/-- Nobody is served once nobody is ready nor becomes so. -/
theorem Serve.not_began (serve : Serve [] turns)
    (noneReady : ∀ name priority, .ready name priority ∉ turns) : .began other ∉ turns := by
  induction turns with
  | nil => exact List.not_mem_nil
  | cons turn turns ih =>
      have noneLater : ∀ name priority, .ready name priority ∉ turns :=
        fun name priority inside => noneReady name priority (List.mem_cons_of_mem _ inside)
      cases turn with
      | ready name priority => exact (noneReady name priority List.mem_cons_self).elim
      | began name =>
          obtain ⟨earlier, priority, behind, nobody, -⟩ := serve.1
          simp at nobody
      | closed =>
          intro inside
          rcases List.mem_cons.1 inside with same | isLater
          · cases same
          · exact ih serve.2 noneLater isLater

/-- Up to any other start that is before its own, a ready worker stays ready, and whoever is
ready before it then was so at the beginning. -/
theorem Serve.keeps_place (serve : Serve waiting (first ++ .began other :: later))
    (waits : ⟨name, priority⟩ ∈ waiting) (unserved : .began name ∉ first) :
    ⟨name, priority⟩ ∈ first.foldl after waiting ∧
      (ReadyBefore (first.foldl after waiting) other name → ReadyBefore waiting other name) := by
  induction first generalizing waiting with
  | nil => exact ⟨waits, id⟩
  | cons turn first ih =>
      have unservedLater : .began name ∉ first :=
        fun inside => unserved (List.mem_cons_of_mem _ inside)
      cases turn with
      | ready joined value =>
          have different : name ≠ joined := by
            rintro rfl
            exact serve.1 (List.mem_map_of_mem waits)
          obtain ⟨stays, wasBefore⟩ := ih serve.2 (List.mem_append_left _ waits) unservedLater
          exact ⟨stays, fun before => (wasBefore before).of_append different⟩
      | began served =>
          have different : name ≠ served := by
            rintro rfl
            exact unserved List.mem_cons_self
          have waitsStill : ⟨name, priority⟩ ∈ after waiting (.began served) :=
            List.mem_filter.2 ⟨waits, by simpa using different⟩
          obtain ⟨stays, wasBefore⟩ := ih serve.2 waitsStill unservedLater
          exact ⟨stays, fun before => (wasBefore before).mono List.filter_sublist⟩
      | closed =>
          have starts : .began other ∈ first ++ .began other :: later := by simp
          exact (serve.2.not_began serve.1 starts).elim

theorem foldl_readyBehind (first later : List Turn) :
    later.foldl after (readyBehind first) = readyBehind (first ++ later) :=
  List.foldl_append.symm

/-- Where a batch begins, the ready workers have different names, and the one that begins is
next. -/
theorem Serve.isNext (serve : Serve [] (first ++ .began other :: later)) :
    IsNext (readyBehind first) other ∧
      ((readyBehind first).map ReadyWorker.name).Nodup :=
  ⟨serve.behind.1, serve.distinct List.nodup_nil⟩

variable {before second : List Turn}

theorem Serve.waits
    (serve : Serve [] (before ++ .ready name priority :: (first ++ .began other :: later)))
    (unserved : .began name ∉ first) :
    ⟨name, priority⟩ ∈ readyBehind (before ++ .ready name priority :: first) := by
  have joined : ⟨name, priority⟩ ∈ after (readyBehind before) (.ready name priority) :=
    List.mem_append_right _ List.mem_cons_self
  rw [← foldl_readyBehind]
  exact (serve.behind.2.keeps_place joined unserved).1

/-- A worker that has begun a batch does not get before a ready worker while that one waits. -/
theorem Serve.waits_behind
    (serve : Serve [] (before ++ .ready name priority ::
      (first ++ .began other :: (second ++ .began other :: later))))
    (unserved : .began name ∉ first ++ .began other :: second) (different : name ≠ other) :
    ¬ ReadyBefore
      (readyBehind (before ++ .ready name priority :: (first ++ .began other :: second)))
      other name := by
  rw [List.mem_append, List.mem_cons] at unserved
  push Not at unserved
  obtain ⟨unservedFirst, -, unservedSecond⟩ := unserved
  have waits := serve.waits unservedFirst
  have left : ¬ ReadyBefore
      (after (readyBehind (before ++ .ready name priority :: first)) (.began other))
      other name := by
    rintro ⟨value, own, pair⟩
    have inside := pair.subset List.mem_cons_self
    simp [after] at inside
  have still : ⟨name, priority⟩ ∈
      after (readyBehind (before ++ .ready name priority :: first)) (.began other) :=
    List.mem_filter.2 ⟨waits, by simpa using different⟩
  rw [← List.cons_append, ← List.append_assoc] at serve ⊢
  rw [← foldl_readyBehind]
  exact fun before => left ((serve.behind.2.keeps_place still unservedSecond).2 before)

end

/-- Turns that serve from an empty queue on serve in order, without much overtaking. -/
theorem Serve.servedInOrder {turns : List Turn} (serve : Serve [] turns) :
    ServedInOrder turns := by
  refine ⟨?_, ?_, ?_⟩
  · rintro before name later rfl
    exact serve.isNext.1
  · rintro before name priority first other later rfl unserved value served
    have waits := serve.waits unserved
    rw [← List.cons_append, ← List.append_assoc] at serve
    exact serve.isNext.1.le serve.isNext.2 waits served
  · rintro before name priority first other second later rfl unserved value served
    have different : name ≠ other := by
      rintro rfl
      exact unserved (List.mem_append_right _ List.mem_cons_self)
    have behind := serve.waits_behind unserved different
    have regrouped : Serve [] (before ++ .ready name priority ::
        ((first ++ .began other :: second) ++ .began other :: later)) := by
      simpa using serve
    have waits := regrouped.waits unserved
    rw [← List.cons_append, ← List.append_assoc] at regrouped
    exact regrouped.isNext.1.lt regrouped.isNext.2 waits served different.symm behind

end Turn

namespace Pool

variable {Agent : Type} {pool next : Pool Agent}

/-! ### The turns of a run -/

/-- The turn in which the worker of a name becomes ready, if it does so between two states. -/
def readied (pool next : Pool Agent) (name : String) : List Turn :=
  match next.slots.get? name with
  | some slot =>
      if slot.queued && !(pool.slots.get? name).any Slot.queued then
        [.ready name slot.worker.priority]
      else []
  | none => []

def turns (pool : Pool Agent) (event : PoolEvent Agent) (next : Pool Agent) : List Turn :=
  match event with
  | .submit worker _ => pool.readied next worker.name
  | .look task =>
      match next.phases[task]? with
      | some (.working batch) => [.began batch.name]
      | _ => []
  | .complete task =>
      match pool.phases[task]? with
      | some (.working batch) => pool.readied next batch.name
      | _ => []
  | .beginShutdown => [.closed]
  | _ => []

/-- The turns of the run that follows events; an event that cannot happen is passed over. -/
def history (pool : Pool Agent) : List (PoolEvent Agent) → List Turn
  | [] => []
  | event :: events =>
      match pool.step event with
      | some next => pool.turns event next ++ next.history events
      | none => pool.history events

def readyWorkers (pool : Pool Agent) : List ReadyWorker :=
  pool.ready.map fun entry => ⟨entry.name, entry.priority⟩

theorem map_name_readyWorkers (pool : Pool Agent) :
    pool.readyWorkers.map ReadyWorker.name = pool.readyNames := by
  rw [readyWorkers, List.map_map]
  rfl

theorem readied_eq_nil {name : String}
    (same : (next.slots.get? name).any Slot.queued = (pool.slots.get? name).any Slot.queued) :
    pool.readied next name = [] := by
  unfold readied
  split
  case h_1 slot known =>
    rw [known, Option.any_some] at same
    simp [← same]
  case h_2 => rfl

theorem readied_eq_singleton {name : String} {slot : Slot Agent}
    (known : next.slots.get? name = some slot) (queued : slot.queued = true)
    (absent : name ∉ pool.readyNames) (coherent : Coherent pool) :
    pool.readied next name = [.ready name slot.worker.priority] := by
  have unqueued : (pool.slots.get? name).any Slot.queued = false := by
    rw [coherent.ready_iff] at absent
    simpa using absent
  simp [readied, known, queued, unqueued]

/-! ### What a step does to the order -/

/-- The ready workers stand in the order in which they became ready. -/
structure Lined (pool : Pool Agent) : Prop where
  coherent : Coherent pool
  numbered : Numbered pool
  ascending : pool.sequences.Pairwise (· < ·)

namespace Lined

theorem start (size : Nat) : Lined (Pool.start size : Pool Agent) where
  coherent := Coherent.start size
  numbered := Numbered.start size
  ascending := List.Pairwise.nil

theorem moves {event : PoolEvent Agent} (lined : Lined pool) (moved : Moves pool event next) :
    Lined next := by
  have requeued := requeues_of_moves moved
  refine ⟨lined.coherent.moves moved, lined.numbered.requeues requeued, ?_⟩
  cases requeued with
  | leaves ready => exact lined.ascending.sublist (ready.map ReadyEntry.sequence)
  | joins ready =>
      have longer : next.sequences = pool.sequences ++ [pool.nextSequence] := by
        simp [sequences, ready]
      rw [longer, List.pairwise_append]
      refine ⟨lined.ascending, List.pairwise_singleton _ _, ?_⟩
      intro number inside last isLast
      rw [List.mem_singleton.1 isLast]
      exact lined.numbered.below number inside

end Lined

/-- The entry that is served first parts the others by their priority values. -/
theorem leastReady?_parts {ready : List ReadyEntry} {least : ReadyEntry}
    (ascending : (ready.map ReadyEntry.sequence).Pairwise (· < ·))
    (found : leastReady? ready = some least) :
    ∃ earlier later, ready = earlier ++ least :: later ∧
      (∀ other ∈ earlier, least.priority < other.priority) ∧
        ∀ other ∈ later, least.priority ≤ other.priority := by
  induction ready generalizing least with
  | nil => simp [leastReady?] at found
  | cons entry rest ih =>
      rw [List.map_cons, List.pairwise_cons] at ascending
      simp only [leastReady?] at found
      split at found
      case h_1 other isLeast =>
        obtain ⟨earlier, later, rfl, smaller, small⟩ := ih ascending.2 isLeast
        have younger := ascending.1 other.sequence (by simp)
        split at found
        case isTrue precedes =>
          cases found
          have le : entry.priority ≤ other.priority := by
            simp [ReadyEntry.precedes] at precedes
            omega
          refine ⟨[], _, rfl, by simp, fun third inside => ?_⟩
          rcases List.mem_append.1 inside with early | late
          · exact Nat.le_trans le (Nat.le_of_lt (smaller third early))
          · rcases List.mem_cons.1 late with rfl | behind
            · exact le
            · exact Nat.le_trans le (small third behind)
        case isFalse overtaken =>
          cases found
          have lt : least.priority < entry.priority := by
            simp [ReadyEntry.precedes, younger] at overtaken
            omega
          exact ⟨entry :: earlier, later, rfl, by simpa using ⟨lt, smaller⟩, small⟩
      case h_2 none =>
        cases found
        have empty : rest = [] := leastReady?_eq_none_iff.1 none
        exact ⟨[], [], by rw [empty]; rfl, by simp, by simp⟩

/-- What a step does to the ready workers, with the turns that it takes. -/
inductive Serves (pool next : Pool Agent) : List Turn → Prop
  | silent (ready : next.readyWorkers = pool.readyWorkers) : Serves pool next []
  | joins {name priority} (opened : pool.closed = false) (absent : name ∉ pool.readyNames)
      (ready : next.readyWorkers = pool.readyWorkers ++ [⟨name, priority⟩]) :
      Serves pool next [.ready name priority]
  | begins {name} (isNext : IsNext pool.readyWorkers name)
      (ready : next.readyWorkers = pool.readyWorkers.filter (·.name ≠ name)) :
      Serves pool next [.began name]
  | closes (closed : next.closed = true) (ready : next.readyWorkers = []) :
      Serves pool next [.closed]

theorem Serves.readyWorkers_eq {taken : List Turn} (serves : Serves pool next taken) :
    next.readyWorkers = taken.foldl Turn.after pool.readyWorkers := by
  cases serves with
  | silent ready => exact ready
  | joins _ _ ready => exact ready
  | begins _ ready => exact ready
  | closes _ ready => exact ready

theorem Serves.of_ready (ready : next.ready = pool.ready) : Serves pool next [] :=
  .silent (congrArg (List.map _) ready)

/-- Taking an entry off the queue takes the worker of its name off the ready workers. -/
theorem Coherent.map_erase {entry : ReadyEntry} (coherent : Coherent pool)
    (ready : entry ∈ pool.ready) :
    (pool.ready.erase entry).map (fun other => (⟨other.name, other.priority⟩ : ReadyWorker)) =
      pool.readyWorkers.filter (·.name ≠ entry.name) := by
  have distinct : pool.ready.Nodup := coherent.readyDistinct.of_map _
  rw [distinct.erase_eq_filter, readyWorkers, List.filter_map]
  congr 1
  apply List.filter_congr
  intro other inside
  have same : other = entry ↔ other.name = entry.name :=
    ⟨congrArg ReadyEntry.name, List.inj_on_of_nodup_map coherent.readyDistinct inside ready⟩
  by_cases named : other.name = entry.name
  · simp [same.2 named]
  · simp [named, mt same.1 named]

/-- The entry that is served first is of the worker that is next. -/
theorem Lined.takes {least : ReadyEntry} (lined : Lined pool)
    (found : leastReady? pool.ready = some least) (ready : next.ready = pool.ready.erase least) :
    Serves pool next [.began least.name] := by
  obtain ⟨earlier, later, parts, smaller, small⟩ := leastReady?_parts lined.ascending found
  have isNext : IsNext pool.readyWorkers least.name := by
    refine ⟨earlier.map fun entry => ⟨entry.name, entry.priority⟩, least.priority,
      later.map fun entry => ⟨entry.name, entry.priority⟩, ?_, ?_, ?_⟩
    · rw [readyWorkers, parts, List.map_append, List.map_cons]
    · simpa using smaller
    · simpa using small
  refine .begins isNext ?_
  rw [readyWorkers, ready, lined.coherent.map_erase (leastReady?_mem found)]

theorem turns_look {task : Nat} {before after : Phase Agent}
    (found : pool.phases[task]? = some before) (phases : next.phases = pool.phases.set task after) :
    pool.turns (.look task) next = (after.batch?.map fun batch => .began batch.name).toList := by
  simp only [turns, phase_of_set found phases]
  cases after <;> rfl

theorem turns_complete {task : Nat} {batch : Batch Agent}
    (working : pool.phases[task]? = some (.working batch)) (next : Pool Agent) :
    pool.turns (.complete task) next = pool.readied next batch.name := by
  simp only [turns, working]

/-- Every step keeps the order in which the workers became ready. -/
theorem Lined.serves {event : PoolEvent Agent} (lined : Lined pool)
    (moved : Moves pool event next) : Serves pool next (pool.turns event next) := by
  have coherent := lined.coherent
  cases moved with
  | submitRefused closed =>
      rw [turns, readied_eq_nil rfl]
      exact .of_ready rfl
  | @submitWaits worker work opened busy =>
      have still : ((pool.withSubmitted worker work).slots.get? worker.name).any Slot.queued =
          (pool.slots.get? worker.name).any Slot.queued := by
        simp [withSubmitted, queued_submittedSlot]
      rw [turns, readied_eq_nil still]
      exact .of_ready rfl
  | @submitReady worker work opened unqueued resting =>
      have absent : worker.name ∉ pool.readyNames := by
        rw [coherent.ready_iff, ← queued_submittedSlot pool worker work, unqueued]
        exact Bool.false_ne_true
      have known : (pool.withReady worker work).slots.get? worker.name =
          some { pool.submittedSlot worker work with queued := true } :=
        Table.get?_set_self ..
      rw [turns, readied_eq_singleton known rfl absent coherent]
      exact .joins opened absent List.map_append
  | lookClosed looking =>
      rw [turns_look looking (phases_setPhase ..)]
      exact .of_ready rfl
  | lookParks looking =>
      rw [turns_look looking (phases_setPhase ..)]
      exact .of_ready rfl
  | lookSkips _ _ least unknown => exact (coherent.known_of_least least unknown).elim
  | @lookTakes task entry slot looking opened least known taken wakes =>
      have same := sameWork_woken wakes
      rw [turns_look looking (same.phases_setPhase task _)]
      exact lined.takes least same.ready
  | @completeRests task batch slot working known =>
      have still : ((pool.withRested task batch.name slot).wakeIfIdle.slots.get? batch.name).any
          Slot.queued = (pool.slots.get? batch.name).any Slot.queued := by
        simp [slots_wakeIfIdle, withRested, known]
      rw [turns_complete working, readied_eq_nil still]
      exact .of_ready (ready_wakeIfIdle _)
  | @completeRequeues task batch slot working known remaining opened =>
      have woken := sameWork_wakeOne (pool.withRequeued task batch.name slot)
      have absent : batch.name ∉ pool.readyNames := by
        intro named
        have resting := coherent.exclusive ((coherent.ready_iff batch.name).1 named)
        obtain ⟨running, runningKnown, isRunning⟩ :=
          coherent.runningSlot (Coherent.mem_running working)
        simp [runningKnown, isRunning] at resting
      have requeued : (pool.withRequeued task batch.name slot).wakeOne.wakeIfIdle.slots.get?
          batch.name = some { slot with running := false, queued := true } := by
        rw [slots_wakeIfIdle, woken.slots]
        exact Table.get?_set_self ..
      rw [turns_complete working, readied_eq_singleton requeued rfl absent coherent]
      refine .joins opened absent ?_
      rw [readyWorkers, ready_wakeIfIdle, woken.ready]
      exact List.map_append
  | completeForgets working unknown => exact (coherent.known_of_working working unknown).elim
  | announce => exact .of_ready (sameWork_wakeOne _).ready
  | register => exact .of_ready (sameWork_registerTask ..).ready
  | release => exact .of_ready (sameWork_dropRegistration ..).ready
  | exit => exact .of_ready (sameWork_dropRegistration ..).ready
  | shutdownAgain closed =>
      refine .closes closed ?_
      rw [readyWorkers, coherent.drainedReady closed, List.map_nil]
  | shutdown => exact .closes rfl rfl
  | announceShutdown => exact .of_ready (sameWork_wakeAll pool).ready
  | _ => exact .of_ready rfl

/-! ### Whole runs -/

theorem Lined.none_joins (lined : Lined pool) (closed : pool.closed = true)
    (events : List (PoolEvent Agent)) (name : String) (priority : Nat) :
    .ready name priority ∉ pool.history events := by
  induction events generalizing pool with
  | nil => exact List.not_mem_nil
  | cons event events ih =>
      rw [history]
      split
      case h_1 next stepped =>
        have moved := moves_of_step stepped
        have later := ih (lined.moves moved) (closed_of_closed closed moved)
        intro inside
        rcases List.mem_append.1 inside with now | behind
        · have serves := lined.serves moved
          generalize pool.turns event next = taken at now serves
          cases serves with
          | silent => cases now
          | joins opened => simp [opened] at closed
          | begins => simp at now
          | closes => simp at now
        · exact later behind
      case h_2 => exact ih lined closed

theorem Lined.serve (lined : Lined pool) (events : List (PoolEvent Agent)) :
    Turn.Serve pool.readyWorkers (pool.history events) := by
  induction events generalizing pool with
  | nil => trivial
  | cons event events ih =>
      rw [history]
      split
      case h_1 next stepped =>
        have moved := moves_of_step stepped
        have linedNext := lined.moves moved
        have serves := lined.serves moved
        have later := ih linedNext
        rw [serves.readyWorkers_eq] at later
        generalize pool.turns event next = taken at serves later
        cases serves with
        | silent => exact later
        | joins opened absent => exact ⟨(map_name_readyWorkers pool).symm ▸ absent, later⟩
        | begins isNext => exact ⟨isNext, later⟩
        | closes closed => exact ⟨linedNext.none_joins closed events, later⟩
      case h_2 => exact ih lined

/-- The state that events lead to; an event that cannot happen is passed over. -/
def reached (pool : Pool Agent) (events : List (PoolEvent Agent)) : Pool Agent :=
  events.foldl (fun present event => (present.step event).getD present) pool

theorem Lined.readyWorkers_reached (lined : Lined pool) (events : List (PoolEvent Agent)) :
    (pool.reached events).readyWorkers =
      (pool.history events).foldl Turn.after pool.readyWorkers := by
  induction events generalizing pool with
  | nil => rfl
  | cons event events ih =>
      rw [history, reached, List.foldl_cons]
      split
      case h_1 next stepped =>
        have moved := moves_of_step stepped
        rw [List.foldl_append, ← (lined.serves moved).readyWorkers_eq, stepped]
        exact ih (lined.moves moved)
      case h_2 impossible =>
        rw [impossible]
        exact ih lined

/-- The turns account for the queue: the workers that are ready behind them are those in it. -/
theorem readyBehind_history (size : Nat) (events : List (PoolEvent Agent)) :
    Turn.readyBehind ((Pool.start size).history events) =
      ((Pool.start size).reached events).readyWorkers :=
  ((Lined.start size).readyWorkers_reached events).symm

/-- Whoever submits and whatever the tasks do, the ready workers are served in the order of their
priority values and of becoming ready: nobody is overtaken by a worker with a larger value, nor
twice by one with the same value. -/
theorem servedInOrder_history (size : Nat) (events : List (PoolEvent Agent)) :
    ServedInOrder ((Pool.start size : Pool Agent).history events) :=
  ((Lined.start size).serve events).servedInOrder

/-- Issues are indexed by one task when comments, which precede them, become ready; more issues
are requested meanwhile and wait behind the comments. -/
example : (Pool.start 1).history
    [.submit issueWorker (.entity 1), .announce, .register 0, .look 0,
      .submit commentWorker (.entity 2), .submit issueWorker (.entity 3), .complete 0,
      .release 0, .register 0, .look 0] =
    [.ready "index:issue" 20, .began "index:issue", .ready "index:comment" 10,
      .ready "index:issue" 20, .began "index:comment"] := by
  rfl

end Pool

end EntitySearch.Scheduling
