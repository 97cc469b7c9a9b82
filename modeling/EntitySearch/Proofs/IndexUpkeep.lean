import EntitySearch.Proofs.CarriedVersions
import EntitySearch.Proofs.PoolHistory

/-!
# The upkeep of an index

Clients store entities and then request their indexing; the pool drains the
requests, and the batches of the index read the store and commit, step by step and
between the steps of everybody else.  A version can be stored while an older one is
on its way into the index.  It is not lost: the request that follows it is pending
until a batch is handed it, and that batch reads the store later than the request.
-/

namespace EntitySearch

open Scheduling

/-- Where a client stands that stores an entity and then requests its indexing. -/
inductive ClientPhase
  | saving
  | requesting
  | finished
deriving Repr, DecidableEq

/-- A client with the version that it stores. -/
structure Client where
  entity : Entity
  phase : ClientPhase
deriving Repr, DecidableEq

/-- A store and its index, with the pool that keeps the index up, the batches of the index by
the tasks that execute them, the clients, and the identifiers that were requested so far. -/
structure Upkeep (Agent : Type) where
  store : EntityStore
  index : LocalIndex
  pool : Pool Agent
  batches : Nat → Option IndexingBatch
  clients : List Client
  requested : List EntityId

/-- One atomic step of a client, of the pool or of a batch at work. -/
inductive UpkeepEvent (Agent : Type)
  | arrive (entity : Entity)
  | save (client : Nat)
  | request (client : Nat)
  /-- A batch takes a step, with the ownership as it is then. -/
  | work (task : Nat) (owns : ProjectId → Bool)
  | pool (event : PoolEvent Agent)

namespace Upkeep

variable {Agent : Type}

def start (store : EntityStore) (index : LocalIndex) (size : Nat) : Upkeep Agent where
  store := store
  index := index
  pool := Pool.start size
  batches _ := none
  clients := []
  requested := []

def setBatch (state : Upkeep Agent) (task : Nat) (batch : Option IndexingBatch) :
    Upkeep Agent :=
  { state with batches := fun other => if other = task then batch else state.batches other }

def setClient (state : Upkeep Agent) (client : Nat) (entity : Entity) (phase : ClientPhase) :
    Upkeep Agent :=
  { state with clients := state.clients.set client ⟨entity, phase⟩ }

/-- What the pool has done, as far as it concerns the index. -/
def enter (owner : EntityIndex) (state : Upkeep Agent) : LogEntry Agent → Upkeep Agent
  | .submitted name (.entity id) =>
      if name = owner.workerName then { state with requested := state.requested ++ [id] }
      else state
  | .submitted _ .scan => state
  | .began task batch =>
      if batch.name = owner.workerName then
        state.setBatch task (some (IndexingBatch.start state.index IndexTally.zero batch.works))
      else state
  | .ended task _ => state.setBatch task none

/-- Nobody shuts the pool down, and a task completes a batch of the index when it has ended. -/
def admits (state : Upkeep Agent) : PoolEvent Agent → Bool
  | .beginShutdown => false
  | .complete task => (state.batches task).all (·.hasEnded)
  | _ => true

def onPool (owner : EntityIndex) (state : Upkeep Agent) (event : PoolEvent Agent) :
    Option (Upkeep Agent) :=
  if state.admits event then
    (state.pool.step event).map fun next =>
      (state.pool.recorded event next).foldl (enter owner) { state with pool := next }
  else none

def worker (owner : EntityIndex) (agent : Agent) : Worker Agent :=
  ⟨owner.workerName, owner.settings.indexing.priority.toNat, agent⟩

def step (owner : EntityIndex) (agent : Agent) (state : Upkeep Agent) :
    UpkeepEvent Agent → Option (Upkeep Agent)
  | .arrive entity => some { state with clients := state.clients ++ [⟨entity, .saving⟩] }
  | .save client =>
      match state.clients[client]? with
      | some ⟨entity, .saving⟩ =>
          some { state.setClient client entity .requesting with store := state.store.save entity }
      | _ => none
  | .request client =>
      match state.clients[client]? with
      | some ⟨entity, .requesting⟩ =>
          (state.onPool owner (.submit (worker owner agent) (.entity entity.id))).map
            (·.setClient client entity .finished)
      | _ => none
  | .work task owns =>
      match state.batches task with
      | some waiting =>
          let batch := { waiting with index := state.index }
          let after := batch.step owner (state.store.source owns)
          some { state.setBatch task (some after) with index := after.index }
      | none => none
  | .pool event => state.onPool owner event

def run (owner : EntityIndex) (agent : Agent) (state : Upkeep Agent) :
    List (UpkeepEvent Agent) → Option (Upkeep Agent)
  | [] => some state
  | event :: events =>
      match state.step owner agent event with
      | some next => next.run owner agent events
      | none => none

/-- The document is in the index or on its way there, and no other one with its identifier is
on the way. -/
structure Carries (owner : EntityIndex) (state : Upkeep Agent) (current : List EntityDocument)
    (document : EntityDocument) : Prop where
  only : ∀ task batch, state.batches task = some batch →
    ∀ other ∈ batch.staged owner, other.id = document.id → other = document
  present : document ∈ current ∨ ∃ task batch, state.batches task = some batch ∧
    batch.Holds document

/-- Why the document of a requested entity is in the index or is going to be. -/
inductive Covered (owner : EntityIndex) (state : Upkeep Agent) (current : List EntityDocument)
    (id : EntityId) (document : EntityDocument) : Prop
  /-- A client has stored a version and is going to request its indexing. -/
  | owed {client} (inside : client ∈ state.clients) (requests : client.phase = .requesting)
      (same : client.entity.id = id)
  /-- The next batch is going to load the entity. -/
  | pending (waits : .entity id ∈ state.pool.pendingOf owner.workerName)
  /-- A batch at work is going to load the entity. -/
  | awaited {task batch} (atWork : state.batches task = some batch) (awaits : batch.Awaits id)
  | carried (carries : state.Carries owner current document)

/-- The content of the index, with the requested entities covered. -/
structure Indexed (owner : EntityIndex) (state : Upkeep Agent) (content : IndexContent)
    (chronicle : Chronicle) (current : List EntityDocument) : Prop where
  opened : state.index.directory.openFor owner.layout = .ok content
  describes : chronicle.DescribesAs content current
  covered : ∀ id ∈ state.requested, ∀ entity, state.store.load id = some entity →
    state.Covered owner current id (owner.documentFor entity)

/-- What holds at every moment of the upkeep. -/
structure Sound (owner : EntityIndex) (state : Upkeep Agent) : Prop where
  invariant : state.pool.Invariant
  opened : state.pool.closed = false
  working : ∀ task batch, state.batches task = some batch →
    ∃ drained, state.pool.phases[task]? = some (.working drained) ∧
      drained.name = owner.workerName
  proper : ∀ task batch, state.batches task = some batch →
    batch.Proper ∧ batch.LoadsEntities owner
  indexed : ∃ content chronicle current, state.Indexed owner content chronicle current
  saved : ∀ client ∈ state.clients, client.phase ≠ .saving →
    ∃ entity, state.store.load client.entity.id = some entity
  served : ∀ client ∈ state.clients, client.phase = .finished →
    client.entity.id ∈ state.requested

variable {owner : EntityIndex} {agent : Agent} {state : Upkeep Agent}
  {current : List EntityDocument} {id : EntityId} {document : EntityDocument}

theorem sound_start {index : LocalIndex} {content : IndexContent} {chronicle : Chronicle}
    (opened : index.directory.openFor owner.layout = .ok content)
    (describes : chronicle.DescribesAs content current) (store : EntityStore) (size : Nat) :
    Sound owner (start store index size : Upkeep Agent) where
  invariant := Pool.Invariant.start size
  opened := rfl
  working _ _ atWork := by cases atWork
  proper _ _ atWork := by cases atWork
  indexed := ⟨content, chronicle, current, opened, describes, fun _ inside => by cases inside⟩
  saved _ inside := by cases inside
  served _ inside := by cases inside

theorem Sound.unique (sound : state.Sound owner) {task other : Nat}
    {batch another : IndexingBatch} (atWork : state.batches task = some batch)
    (alsoAtWork : state.batches other = some another) : other = task := by
  obtain ⟨drained, working, named⟩ := sound.working task batch atWork
  obtain ⟨drainedOther, workingOther, namedOther⟩ := sound.working other another alsoAtWork
  exact sound.invariant.coherent.task_unique working workingOther (namedOther.trans named.symm)

/-- Coverage is kept where clients come on, more is pending, and the batches stay. -/
theorem Covered.mono {next : Upkeep Agent}
    (covered : state.Covered owner current id document)
    (clients : ∀ client ∈ state.clients, client.phase = .requesting → client ∈ next.clients)
    (pending : ∀ work ∈ state.pool.pendingOf owner.workerName,
      work ∈ next.pool.pendingOf owner.workerName)
    (batches : next.batches = state.batches) : next.Covered owner current id document := by
  cases covered with
  | owed inside requests same => exact .owed (clients _ inside requests) requests same
  | pending waits => exact .pending (pending _ waits)
  | awaited atWork awaits => exact .awaited (batches ▸ atWork) awaits
  | carried carries => exact .carried ⟨batches ▸ carries.only, batches ▸ carries.present⟩

theorem Sound.arrive (sound : state.Sound owner) (entity : Entity) :
    Sound owner { state with clients := state.clients ++ [⟨entity, .saving⟩] } := by
  obtain ⟨content, chronicle, current, indexed⟩ := sound.indexed
  refine ⟨sound.invariant, sound.opened, sound.working, sound.proper,
    ⟨content, chronicle, current, indexed.opened, indexed.describes, ?_⟩, ?_, ?_⟩
  · intro id inside stored loaded
    exact (indexed.covered id inside stored loaded).mono
      (fun _ isClient _ => List.mem_append_left _ isClient) (fun _ waits => waits) rfl
  · intro client inside begun
    rcases List.mem_append.1 inside with earlier | new
    · exact sound.saved client earlier begun
    · rw [List.mem_singleton.1 new] at begun
      exact absurd rfl begun
  · intro client inside finished
    rcases List.mem_append.1 inside with earlier | new
    · exact sound.served client earlier finished
    · rw [List.mem_singleton.1 new] at finished
      cases finished

theorem mem_set_of_ne {Member : Type} {members : List Member} {place : Nat} {old new member : Member}
    (found : members[place]? = some old) (inside : member ∈ members) (different : member ≠ old) :
    member ∈ members.set place new := by
  obtain ⟨other, isThere⟩ := List.mem_iff_getElem?.1 inside
  refine List.mem_iff_getElem?.2 ⟨other, ?_⟩
  rw [List.getElem?_set_ne, isThere]
  rintro rfl
  exact different (Option.some.inj (isThere.symm.trans found))

theorem mem_setClient {client : Nat} {entity : Entity} {phase : ClientPhase} {member : Client}
    (inside : member ∈ (state.setClient client entity phase).clients) :
    member ∈ state.clients ∨ member = ⟨entity, phase⟩ :=
  List.mem_or_eq_of_mem_set inside

/-- A version that is stored is owed until its client requests the indexing. -/
theorem Sound.save (sound : state.Sound owner) {client : Nat} {entity : Entity}
    (found : state.clients[client]? = some ⟨entity, .saving⟩) :
    Sound owner
      { state.setClient client entity .requesting with store := state.store.save entity } := by
  obtain ⟨content, chronicle, current, indexed⟩ := sound.indexed
  have present : ⟨entity, .requesting⟩ ∈ (state.setClient client entity .requesting).clients :=
    List.mem_set (List.getElem?_eq_some_iff.1 found).1 _
  refine ⟨sound.invariant, sound.opened, sound.working, sound.proper,
    ⟨content, chronicle, current, indexed.opened, indexed.describes, ?_⟩, ?_, ?_⟩
  · intro id inside stored loaded
    by_cases same : id = entity.id
    · exact .owed present rfl same.symm
    · rw [EntityStore.load_save_of_ne _ same] at loaded
      refine (indexed.covered id inside stored loaded).mono (fun other isClient requests => ?_)
        (fun _ waits => waits) rfl
      refine mem_set_of_ne found isClient ?_
      rintro rfl
      cases requests
  · intro other inside begun
    rcases mem_setClient inside with earlier | new
    · by_cases same : other.entity.id = entity.id
      · exact ⟨entity, by rw [same]; exact EntityStore.load_save_self _ _⟩
      · obtain ⟨stored, loaded⟩ := sound.saved other earlier begun
        exact ⟨stored, (EntityStore.load_save_of_ne _ same).trans loaded⟩
    · rw [new]
      exact ⟨entity, EntityStore.load_save_self _ _⟩
  · intro other inside finished
    rcases mem_setClient inside with earlier | new
    · exact sound.served other earlier finished
    · rw [new] at finished
      cases finished

theorem Sound.finish (sound : state.Sound owner) {client : Nat} {entity : Entity}
    (found : state.clients[client]? = some ⟨entity, .requesting⟩)
    (requested : entity.id ∈ state.requested)
    (pending : .entity entity.id ∈ state.pool.pendingOf owner.workerName) :
    Sound owner (state.setClient client entity .finished) := by
  obtain ⟨content, chronicle, current, indexed⟩ := sound.indexed
  refine ⟨sound.invariant, sound.opened, sound.working, sound.proper,
    ⟨content, chronicle, current, indexed.opened, indexed.describes, ?_⟩, ?_, ?_⟩
  · intro id inside stored loaded
    by_cases same : id = entity.id
    · exact .pending (same ▸ pending)
    · cases indexed.covered id inside stored loaded with
      | owed isClient requests sameId =>
          refine .owed (mem_set_of_ne found isClient ?_) requests sameId
          rintro rfl
          exact same sameId.symm
      | pending waits => exact .pending waits
      | awaited atWork awaits => exact .awaited atWork awaits
      | carried carries => exact .carried ⟨carries.only, carries.present⟩
  · intro other inside begun
    rcases mem_setClient inside with earlier | new
    · exact sound.saved other earlier begun
    · rw [new]
      exact sound.saved ⟨entity, .requesting⟩ (List.mem_of_getElem? found) (by simp)
  · intro other inside finished
    rcases mem_setClient inside with earlier | new
    · exact sound.served other earlier finished
    · rw [new]
      exact requested

/-- The pool moves on: nothing that is pending for the index gets lost, and its batches stay
with their tasks. -/
theorem Sound.withPool (sound : state.Sound owner) {next : Pool Agent}
    (invariant : next.Invariant) (opened : next.closed = false)
    (pending : ∀ work ∈ state.pool.pendingOf owner.workerName,
      work ∈ next.pendingOf owner.workerName)
    (working : ∀ task batch, state.batches task = some batch → ∀ drained,
      state.pool.phases[task]? = some (.working drained) →
        next.phases[task]? = some (.working drained)) :
    Sound owner { state with pool := next } := by
  obtain ⟨content, chronicle, current, indexed⟩ := sound.indexed
  refine ⟨invariant, opened, ?_, sound.proper,
    ⟨content, chronicle, current, indexed.opened, indexed.describes, ?_⟩, sound.saved,
    sound.served⟩
  · intro task batch atWork
    obtain ⟨drained, isWorking, named⟩ := sound.working task batch atWork
    exact ⟨drained, working task batch atWork drained isWorking, named⟩
  · intro id inside entity loaded
    exact (indexed.covered id inside entity loaded).mono (fun _ isClient _ => isClient) pending rfl

theorem Sound.submitted (sound : state.Sound owner) {name : String} {work : Work}
    (pending : name = owner.workerName → work ∈ state.pool.pendingOf owner.workerName) :
    Sound owner (state.enter owner (.submitted name work)) := by
  cases work with
  | scan => exact sound
  | entity id =>
      simp only [enter]
      split
      case isFalse => exact sound
      case isTrue own =>
        obtain ⟨content, chronicle, current, indexed⟩ := sound.indexed
        refine ⟨sound.invariant, sound.opened, sound.working, sound.proper,
          ⟨content, chronicle, current, indexed.opened, indexed.describes, ?_⟩, sound.saved,
          fun client inside finished => List.mem_append_left _ (sound.served client inside finished)⟩
        intro other inside entity loaded
        rcases List.mem_append.1 inside with earlier | new
        · exact (indexed.covered other earlier entity loaded).mono (fun _ isClient _ => isClient)
            (fun _ waits => waits) rfl
        · rw [List.mem_singleton.1 new]
          exact .pending (pending own)

theorem batches_setBatch {task other : Nat} {batch present : IndexingBatch}
    (atWork : (state.setBatch task (some batch)).batches other = some present) :
    (other = task ∧ present = batch) ∨ (other ≠ task ∧ state.batches other = some present) := by
  simp only [setBatch] at atWork
  split at atWork
  case isTrue same => exact Or.inl ⟨same, (Option.some.inj atWork).symm⟩
  case isFalse different => exact Or.inr ⟨different, atWork⟩

theorem eq_of_batches_setBatch {task other : Nat} {batch present : IndexingBatch}
    (alone : ∀ other present, state.batches other = some present → other = task)
    (atWork : (state.setBatch task (some batch)).batches other = some present) :
    other = task ∧ present = batch := by
  rcases batches_setBatch atWork with same | ⟨different, earlier⟩
  · exact same
  · exact absurd (alone other present earlier) different

@[simp]
theorem batches_setBatch_self (state : Upkeep Agent) (task : Nat) (batch : Option IndexingBatch) :
    (state.setBatch task batch).batches task = batch := by
  simp [setBatch]

theorem batches_setBatch_none {task other : Nat} {present : IndexingBatch}
    (atWork : (state.setBatch task none).batches other = some present) :
    other ≠ task ∧ state.batches other = some present := by
  simp only [setBatch] at atWork
  split at atWork
  case isTrue => cases atWork
  case isFalse different => exact ⟨different, atWork⟩

theorem Sound.ended (sound : state.Sound owner) {task : Nat}
    (ended : (state.batches task).all (·.hasEnded) = true) :
    Sound owner (state.setBatch task none) := by
  obtain ⟨content, chronicle, current, indexed⟩ := sound.indexed
  have kept {other : Nat} {batch : IndexingBatch} (atWork : state.batches other = some batch)
      (busy : batch.hasEnded = false) :
      (state.setBatch task none).batches other = some batch := by
    have different : other ≠ task := by
      rintro rfl
      simp [atWork, busy] at ended
    simpa [setBatch, different] using atWork
  refine ⟨sound.invariant, sound.opened, ?_, ?_,
    ⟨content, chronicle, current, indexed.opened, indexed.describes, ?_⟩, sound.saved,
    sound.served⟩
  · intro other batch atWork
    exact sound.working other batch (batches_setBatch_none atWork).2
  · intro other batch atWork
    exact sound.proper other batch (batches_setBatch_none atWork).2
  · intro id inside entity loaded
    cases indexed.covered id inside entity loaded with
    | owed isClient requests same => exact .owed isClient requests same
    | pending waits => exact .pending waits
    | awaited atWork awaits => exact .awaited (kept atWork awaits.hasEnded) awaits
    | carried carries =>
        refine .carried ⟨fun other batch atWork =>
          carries.only other batch (batches_setBatch_none atWork).2, carries.present.imp_right ?_⟩
        rintro ⟨other, batch, atWork, holds⟩
        exact ⟨other, batch, kept atWork holds.hasEnded, holds⟩

/-- A worker runs on one task at a time, so no batch is at work where a task takes one up. -/
theorem Sound.batches_eq_none (sound : state.Sound owner) {next : Pool Agent}
    (invariant : next.Invariant) {task : Nat} {drained : Batch Agent}
    (looking : state.pool.phases[task]? = some .looking)
    (own : drained.name = owner.workerName)
    (phases : next.phases = state.pool.phases.set task (.working drained)) (other : Nat) :
    state.batches other = none := by
  cases atWork : state.batches other with
  | none => rfl
  | some batch =>
      obtain ⟨present, wasWorking, named⟩ := sound.working other batch atWork
      have isWorking : next.phases[task]? = some (.working drained) := by
        rw [phases]
        exact List.getElem?_set_self (Pool.lt_length_of_phase looking)
      have stillWorking : next.phases[other]? = some (.working present) := by
        rw [phases]
        exact Pool.working_set looking rfl other present wasWorking
      obtain rfl := invariant.coherent.task_unique isWorking stillWorking (named.trans own.symm)
      cases Option.some.inj (looking.symm.trans wasWorking)

/-- A batch that begins is handed everything that was pending, and no other one is at work. -/
theorem Sound.began (sound : state.Sound owner) {next : Pool Agent} (invariant : next.Invariant)
    (opened : next.closed = false) {task : Nat} {drained : Batch Agent}
    (looking : state.pool.phases[task]? = some .looking)
    (works : drained.works = state.pool.pendingOf drained.name)
    (own : drained.name = owner.workerName)
    (phases : next.phases = state.pool.phases.set task (.working drained)) :
    Sound owner ({ state with pool := next }.setBatch task
      (some (IndexingBatch.start state.index IndexTally.zero drained.works))) := by
  have isWorking : next.phases[task]? = some (.working drained) := by
    rw [phases]
    exact List.getElem?_set_self (Pool.lt_length_of_phase looking)
  have idle := sound.batches_eq_none invariant looking own phases
  have alone : ∀ other present, state.batches other = some present → other = task := by
    intro other present atWork
    rw [idle other] at atWork
    cases atWork
  obtain ⟨content, chronicle, current, indexed⟩ := sound.indexed
  refine ⟨invariant, opened, ?_, ?_,
    ⟨content, chronicle, current, indexed.opened, indexed.describes, ?_⟩, sound.saved,
    sound.served⟩
  · intro other batch atWork
    obtain ⟨rfl, _⟩ := eq_of_batches_setBatch alone atWork
    exact ⟨drained, isWorking, own⟩
  · intro other batch atWork
    obtain ⟨_, rfl⟩ := eq_of_batches_setBatch alone atWork
    exact ⟨IndexingBatch.proper_start _ _ _, IndexingBatch.loadsEntities_start owner _ _ _⟩
  · intro id inside entity loaded
    cases indexed.covered id inside entity loaded with
    | owed isClient requests same => exact .owed isClient requests same
    | pending waits =>
        -- The batch starts with all works that were pending, so what waited is now awaited.
        rw [← own, ← works] at waits
        exact .awaited (batches_setBatch_self _ task _) (IndexingBatch.awaits_start _ _ _ waits)
    | @awaited other batch atWork _ =>
        rw [idle other] at atWork
        cases atWork
    | carried carries =>
        refine .carried ⟨fun other batch atWork => ?_, Or.inl ?_⟩
        · obtain ⟨_, rfl⟩ := eq_of_batches_setBatch alone atWork
          simp [IndexingBatch.staged_start]
        · refine carries.present.resolve_right ?_
          rintro ⟨other, batch, atWork, _⟩
          rw [idle other] at atWork
          cases atWork

/-- What the pool does keeps the upkeep sound. -/
theorem Sound.traced (sound : state.Sound owner) {next : Pool Agent}
    {entries : List (LogEntry Agent)} (invariant : next.Invariant)
    (opened : next.closed = false) (traced : Pool.Traced state.pool next entries)
    (ended : ∀ task batch, .ended task batch ∈ entries →
      (state.batches task).all (·.hasEnded) = true) :
    Sound owner (entries.foldl (enter owner) { state with pool := next }) := by
  cases traced with
  | silent pending working =>
      exact sound.withPool invariant opened (fun work waits => by rwa [pending])
        fun task _ _ => working task
  | @submitted name work own others phases =>
      have kept : Sound owner { state with pool := next } := by
        refine sound.withPool invariant opened (fun present waits => ?_) fun _ _ _ _ isWorking => by
          rwa [phases]
        by_cases same : owner.workerName = name
        · rw [same] at waits ⊢
          exact (own present).2 (Or.inl waits)
        · rwa [others _ same]
      refine kept.submitted fun same => ?_
      rw [← same]
      exact (own work).2 (Or.inr rfl)
  | @began task drained looking filled works own others phases =>
      simp only [List.foldl_cons, List.foldl_nil, enter]
      split
      case isTrue same => exact sound.began invariant opened looking works same phases
      case isFalse different =>
        refine sound.withPool invariant opened (fun work waits => ?_)
          fun other _ _ present isWorking => ?_
        · rwa [others _ (Ne.symm different)]
        · rw [phases]
          exact Pool.working_set looking rfl other present isWorking
  | @ended task drained working pending phases =>
      have dropped := sound.ended (ended task drained List.mem_cons_self)
      refine dropped.withPool invariant opened (fun work waits => by rwa [pending])
        fun other batch atWork present isWorking => ?_
      rw [phases, List.getElem?_set_ne (Ne.symm (batches_setBatch_none atWork).1)]
      exact isWorking

theorem eq_complete_of_recorded {pool next : Pool Agent} {event : PoolEvent Agent} {task : Nat}
    {batch : Batch Agent} (recorded : .ended task batch ∈ pool.recorded event next) :
    event = .complete task := by
  cases event with
  | submit worker work =>
      simp only [Pool.recorded] at recorded
      split at recorded <;> simp at recorded
  | look other =>
      simp only [Pool.recorded] at recorded
      split at recorded <;> simp at recorded
  | complete other =>
      simp only [Pool.recorded] at recorded
      split at recorded
      · rw [(LogEntry.ended.inj (List.mem_singleton.1 recorded)).1]
      · cases recorded
  | _ => cases recorded

theorem Sound.onPool (sound : state.Sound owner) {event : PoolEvent Agent} {next : Upkeep Agent}
    (stepped : state.onPool owner event = some next) : next.Sound owner := by
  unfold Upkeep.onPool at stepped
  split at stepped
  case isFalse => cases stepped
  case isTrue admitted =>
    obtain ⟨pool, moved, rfl⟩ := Option.map_eq_some_iff.1 stepped
    have moves := Pool.moves_of_step moved
    have stillOpened : pool.closed = false := by
      refine (Pool.closed_of_moves moves ?_).trans sound.opened
      rintro rfl
      cases admitted
    refine sound.traced (sound.invariant.moves moves) stillOpened
      (Pool.traced_of_moves sound.invariant.coherent moves) fun task batch inside => ?_
    obtain rfl := eq_complete_of_recorded inside
    exact admitted

theorem Sound.request (sound : state.Sound owner) {client : Nat} {entity : Entity}
    {next : Upkeep Agent} (found : state.clients[client]? = some ⟨entity, .requesting⟩)
    (stepped : state.onPool owner (.submit (worker owner agent) (.entity entity.id)) = some next) :
    (next.setClient client entity .finished).Sound owner := by
  have soundNext := sound.onPool stepped
  obtain ⟨pool, moved, entered⟩ := Option.map_eq_some_iff.1 (stepped : Option.map _ _ = some next)
  have traced := Pool.traced_of_moves sound.invariant.coherent (Pool.moves_of_step moved)
  have recorded := Pool.recorded_submit sound.opened (worker owner agent) (.entity entity.id) pool
  rw [recorded] at traced entered
  have isNext : next =
      { state with pool := pool, requested := state.requested ++ [entity.id] } := by
    rw [← entered]
    simp [enter, worker]
  have pending : .entity entity.id ∈ pool.pendingOf owner.workerName := by
    cases traced with
    | submitted own others phases => exact (own (.entity entity.id)).2 (Or.inr rfl)
  subst isNext
  exact soundNext.finish found (List.mem_append_right _ List.mem_cons_self) pending

theorem carries_setBatch {task : Nat} {after : IndexingBatch}
    (alone : ∀ other present, state.batches other = some present → other = task)
    (carries : after.Carries owner current document) :
    (state.setBatch task (some after)).Carries owner current document where
  only other present isThere := by
    obtain ⟨_, rfl⟩ := eq_of_batches_setBatch alone isThere
    exact carries.only
  present := carries.present.imp_right fun holds =>
    ⟨task, after, batches_setBatch_self state task _, holds⟩

theorem Sound.work (sound : state.Sound owner) {task : Nat} {waiting : IndexingBatch}
    (atWork : state.batches task = some waiting) (owns : ProjectId → Bool) :
    let after := { waiting with index := state.index }.step owner (state.store.source owns)
    Sound owner { state.setBatch task (some after) with index := after.index } := by
  intro after
  obtain ⟨content, chronicle, current, indexed⟩ := sound.indexed
  obtain ⟨proper, loads⟩ := sound.proper task waiting atWork
  have properHere : IndexingBatch.Proper { waiting with index := state.index } := proper
  have loadsHere : IndexingBatch.LoadsEntities owner { waiting with index := state.index } := loads
  have handed : IndexingBatch.HandsOn owner state.store { waiting with index := state.index }
      current after :=
    IndexingBatch.handsOn_step properHere indexed.opened indexed.describes owns loadsHere
  obtain ⟨further, extended, later, opened, describes, hands⟩ := handed
  have alone : ∀ other present, state.batches other = some present → other = task :=
    fun _ _ => sound.unique atWork
  refine ⟨sound.invariant, sound.opened, ?_, ?_,
    ⟨further, extended, later, opened, describes, ?_⟩, sound.saved, sound.served⟩
  · intro other batch present
    obtain ⟨rfl, _⟩ := eq_of_batches_setBatch alone present
    exact sound.working other waiting atWork
  · intro other batch present
    obtain ⟨_, rfl⟩ := eq_of_batches_setBatch alone present
    exact ⟨hands.proper, IndexingBatch.loadsEntities_step loadsHere _⟩
  · intro id inside entity loaded
    cases indexed.covered id inside entity loaded with
    | owed isClient requests same => exact .owed isClient requests same
    | pending waits => exact .pending waits
    | @awaited other batch present awaits =>
        obtain rfl := sound.unique atWork present
        obtain rfl := Option.some.inj (atWork.symm.trans present)
        rcases hands.awaited id entity loaded awaits with still | carries
        · exact .awaited (batches_setBatch_self state other _) still
        · have carriesAfter := carries_setBatch alone carries
          exact .carried ⟨carriesAfter.only, carriesAfter.present⟩
    | carried carries =>
        have carriesAfter := carries_setBatch alone
          (hands.carried id entity loaded ⟨carries.only task waiting atWork,
            carries.present.imp_right fun ⟨other, batch, present, holds⟩ => by
              obtain rfl := sound.unique atWork present
              obtain rfl := Option.some.inj (atWork.symm.trans present)
              exact holds⟩)
        exact .carried ⟨carriesAfter.only, carriesAfter.present⟩

/-- Whatever happens next, the upkeep stays sound. -/
theorem Sound.step (sound : state.Sound owner) {event : UpkeepEvent Agent} {next : Upkeep Agent}
    (stepped : state.step owner agent event = some next) : next.Sound owner := by
  cases event with
  | arrive entity =>
      cases stepped
      exact sound.arrive entity
  | save client =>
      simp only [Upkeep.step] at stepped
      split at stepped
      case h_1 entity found =>
        cases stepped
        exact sound.save found
      case h_2 => cases stepped
  | request client =>
      simp only [Upkeep.step] at stepped
      split at stepped
      case h_1 entity found =>
        obtain ⟨submitted, accepted, rfl⟩ := Option.map_eq_some_iff.1 stepped
        exact sound.request found accepted
      case h_2 => cases stepped
  | work task owns =>
      simp only [Upkeep.step] at stepped
      split at stepped
      case h_1 waiting atWork =>
        cases stepped
        exact sound.work atWork owns
      case h_2 => cases stepped
  | pool event => exact sound.onPool stepped

theorem Sound.run (sound : state.Sound owner) {events : List (UpkeepEvent Agent)}
    {next : Upkeep Agent} (followed : state.run owner agent events = some next) :
    next.Sound owner := by
  induction events generalizing state with
  | nil =>
      cases followed
      exact sound
  | cons event events ih =>
      simp only [Upkeep.run] at followed
      split at followed
      case h_1 stepped => exact ih (sound.step stepped) followed
      case h_2 => cases followed

/-- Where all clients have finished and the pool is idle, nothing is on its way. -/
theorem Covered.mem_current (covered : state.Covered owner current id document)
    (sound : state.Sound owner) (finished : ∀ client ∈ state.clients, client.phase = .finished)
    (idle : state.pool.isIdle = true) : document ∈ current := by
  have resting : ∀ task batch, state.batches task ≠ some batch := by
    intro task batch atWork
    obtain ⟨drained, working, _⟩ := sound.working task batch atWork
    have running := Pool.Coherent.mem_running working
    rw [sound.invariant.coherent.running_eq_nil idle] at running
    cases running
  cases covered with
  | @owed client inside requests same =>
      rw [finished client inside] at requests
      cases requests
  | pending waits =>
      rw [sound.invariant.pendingOf_eq_nil sound.opened idle] at waits
      cases waits
  | awaited atWork awaits => exact absurd atWork (resting _ _)
  | carried carries =>
      refine carries.present.resolve_right ?_
      rintro ⟨task, batch, atWork, _⟩
      exact resting task batch atWork

/-- Whatever clients, pool and batches do between each other, wherever all clients have finished
and the pool is idle the index holds, for every requested entity, the document of the version in
the store and no other one; and every client has been served. -/
theorem index_follows_store (first : EntityIndex) {directory : IndexDirectory}
    (unbuilt : directory.content? = none) (operations : List IndexOperation)
    {before : IndexContent} :
    let life := (IndexLife.begin first directory).run operations
    life.index.directory.openFor life.owner.layout = .ok before →
      ∀ (store : EntityStore) (size : Nat) (agent : Agent) (events : List (UpkeepEvent Agent))
        (state : Upkeep Agent),
        (start store life.index size).run life.owner agent events = some state →
        (∀ client ∈ state.clients, client.phase = .finished) → state.pool.isIdle = true →
          ∃ content version mark current,
            state.index.directory.openFor life.owner.layout = .ok content ∧
            content.Consists version mark current ∧
            (∀ id ∈ state.requested, ∀ entity, state.store.load id = some entity →
              life.owner.documentFor entity ∈ current) ∧
            ∀ client ∈ state.clients, client.entity.id ∈ state.requested ∧
              ∃ entity, state.store.load client.entity.id = some entity := by
  intro life opened store size agent events state followed finished idle
  have soundLife : life.Sound := (IndexLife.sound_begin first unbuilt).run operations
  obtain ⟨_, _, describes⟩ := (soundLife.keeps.openDirectory life.owner.configuration).2.2 before
    (congrArg Prod.snd (LocalIndex.openDirectory_ok opened))
  obtain ⟨current, described⟩ := describes.exists_current
  have sound : state.Sound life.owner := (sound_start opened described store size).run followed
  obtain ⟨content, chronicle, later, indexed⟩ := sound.indexed
  refine ⟨content, chronicle.version, chronicle.lastMark?, later, indexed.opened,
    indexed.describes.consists, fun id inside entity loaded => ?_, fun client inside => ?_⟩
  · exact (indexed.covered id inside entity loaded).mem_current sound finished idle
  · have isFinished := finished client inside
    exact ⟨sound.served client inside isFinished,
      sound.saved client inside (by rw [isFinished]; simp)⟩

/-- The second version of an issue is stored and requested while the batch that has loaded the
first one is at work. -/
def overtakingEvents : List (UpkeepEvent Unit) :=
  [.arrive ⟨5, 1, [("state", .text "open")]⟩, .save 0, .request 0,
   .pool (.register 0), .pool (.look 0), .work 0 (fun _ => true),
   .arrive ⟨5, 1, [("state", .text "closed")]⟩, .save 1, .request 1,
   .work 0 (fun _ => true), .pool (.complete 0), .pool (.release 0),
   .pool (.register 0), .pool (.look 0), .work 0 (fun _ => true), .work 0 (fun _ => true),
   .pool (.complete 0), .pool (.release 0)]

def overtaken : Upkeep Unit :=
  ((start EntityStore.empty IndexLife.issueLife.index 1).run IndexLife.issueLife.owner ()
    overtakingEvents).getD (start EntityStore.empty IndexLife.issueLife.index 1)

theorem overtaking_issue_is_indexed :
    let life := IndexLife.issueLife
    (start EntityStore.empty life.index 1).run life.owner () overtakingEvents = some overtaken ∧
      overtaken.requested = [5, 5] ∧
      ∃ content version mark current,
        overtaken.index.directory.openFor life.owner.layout = .ok content ∧
        content.Consists version mark current ∧
        life.owner.documentFor ⟨5, 1, [("state", .text "closed")]⟩ ∈ current := by
  intro life
  have unbuilt : IndexDirectory.missing.content? = none := rfl
  obtain ⟨before, opened, _⟩ := IndexLife.exists_issueContent
  have happens : ((start EntityStore.empty life.index 1).run life.owner ()
      overtakingEvents).isSome = true := by decide +kernel
  have followed : (start EntityStore.empty life.index 1).run life.owner () overtakingEvents =
      some overtaken := by
    obtain ⟨state, isState⟩ := Option.isSome_iff_exists.1 happens
    rw [overtaken, isState, Option.getD_some]
  have finished : ∀ client ∈ overtaken.clients, client.phase = .finished := by decide +kernel
  have idle : overtaken.pool.isIdle = true := by decide +kernel
  have requested : overtaken.requested = [5, 5] := by decide +kernel
  have stored : overtaken.store.load 5 = some ⟨5, 1, [("state", .text "closed")]⟩ := by
    decide +kernel
  obtain ⟨content, version, mark, current, openedAfter, consists, indexed, _⟩ :=
    index_follows_store IndexLife.issueOwner unbuilt IndexLife.issueOperations opened
      EntityStore.empty 1 () overtakingEvents overtaken followed finished idle
  refine ⟨followed, requested, content, version, mark, current, openedAfter, consists, ?_⟩
  exact indexed 5 (by simp [requested]) _ stored

end Upkeep

end EntitySearch
