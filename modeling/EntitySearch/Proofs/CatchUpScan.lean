import EntitySearch.Proofs.IndexLife
import EntitySearch.Proofs.ReplacedDocuments
import EntitySearch.Proofs.StoreOrder

/-!
# The catch-up scan

A scan fetches the store in batches, each from behind the progress mark that the
last commit put into the index.  Whatever the size of the batches, the scan ends,
every commit raises the mark, and what is committed up to a mark is exactly the
documents of the owned entities up to it.  What the scan leaves behind therefore
depends on the store and the ownership only.
-/

namespace EntitySearch

namespace EntityStore

/-- The documents of the owned entities behind a mark and up to another. -/
def ownedBetween (store : EntityStore) (owns : ProjectId → Bool) (owner : EntityIndex)
    (mark reached : EntityId) : List EntityDocument :=
  ((store.between mark reached).filter fun entity => owns entity.project).map owner.documentFor

/-- The documents of an index after a scan that went from a mark up to another. -/
def caughtUp (store : EntityStore) (owns : ProjectId → Bool) (owner : EntityIndex)
    (mark reached : EntityId) (current : List EntityDocument) : List EntityDocument :=
  overlay current (store.ownedBetween owns owner mark reached)

/-- The last mark is the greatest identifier behind the mark, or the mark itself if there is
none. -/
def IsLastMark (store : EntityStore) (mark last : Option EntityId) : Prop :=
  ((∀ entity ∈ store.toList, entity.id ≤ mark.getD 0) ∧ last = mark) ∨
    ∃ entity ∈ store.toList, mark.getD 0 < entity.id ∧ last = some entity.id ∧
      ∀ other ∈ store.toList, other.id ≤ entity.id

variable {store : EntityStore} {owns : ProjectId → Bool} {owner : EntityIndex}

theorem id_of_mem_ownedBetween {mark reached : EntityId} {document : EntityDocument}
    (inside : document ∈ store.ownedBetween owns owner mark reached) :
    mark < document.id ∧ document.id ≤ reached := by
  obtain ⟨entity, owned, rfl⟩ := List.mem_map.1 inside
  exact (mem_between.1 (List.mem_filter.1 owned).1).2

theorem nodup_ownedBetween (store : EntityStore) (owns : ProjectId → Bool) (owner : EntityIndex)
    (mark reached : EntityId) :
    ((store.ownedBetween owns owner mark reached).map (·.id)).Nodup := by
  have ascending := (store.ascending_toList.filter
    fun entity => decide (mark < entity.id) && decide (entity.id ≤ reached)).filter
      fun entity => owns entity.project
  rw [ownedBetween, List.map_map, List.Nodup, List.pairwise_map]
  exact ascending.imp fun below same => UInt64.ne_of_lt below same

theorem caughtUp_self (mark : EntityId) (current : List EntityDocument) :
    store.caughtUp owns owner mark mark current = current := by
  have nothing : store.ownedBetween owns owner mark mark = [] := by
    rw [List.eq_nil_iff_forall_not_mem]
    intro document inside
    obtain ⟨above, atMost⟩ := id_of_mem_ownedBetween inside
    exact absurd atMost (UInt64.not_le.2 above)
  rw [caughtUp, nothing, overlay_nil]

/-- A scan can be interrupted at any mark. -/
theorem caughtUp_caughtUp {mark middle reached : EntityId} (first : mark ≤ middle)
    (second : middle ≤ reached) (current : List EntityDocument) :
    overlay (store.caughtUp owns owner mark middle current)
        (store.ownedBetween owns owner middle reached) =
      store.caughtUp owns owner mark reached current := by
  have apart : ∀ earlier ∈ store.ownedBetween owns owner mark middle,
      ∀ later ∈ store.ownedBetween owns owner middle reached, later.id ≠ earlier.id := by
    intro earlier inFirst later inSecond same
    have atMost := (id_of_mem_ownedBetween inFirst).2
    have above := (id_of_mem_ownedBetween inSecond).1
    rw [same] at above
    exact absurd atMost (UInt64.not_le.2 above)
  have joined : store.ownedBetween owns owner mark middle ++
      store.ownedBetween owns owner middle reached =
        store.ownedBetween owns owner mark reached := by
    simp only [ownedBetween]
    rw [← store.between_append_between first second, List.filter_append, List.map_append]
  rw [caughtUp, overlay_overlay current apart, joined, caughtUp]

end EntityStore

namespace IndexingBatch

variable {store : EntityStore} {owns : ProjectId → Bool} {owner : EntityIndex}
  {version : Option UInt64} {mark reached : Option EntityId} {current : List EntityDocument}
  {batch : IndexingBatch} {now : IndexContent}

/-- What the phase of a scan says when the index is caught up to a mark. -/
def PhaseFits (owner : EntityIndex) (store : EntityStore) (reached : EntityId) : BatchPhase → Prop
  | .loading _ _ => False
  | .seeking => True
  | .fetching mark => mark = reached
  | .recording fetched =>
      fetched ≠ [] ∧
        fetched = store.queryAfter reached owner.settings.indexing.batchSize.toNat
  | .ended outcome => outcome = .ok () ∧ ∀ entity ∈ store.toList, entity.id ≤ reached

def stepsLeft (store : EntityStore) (reached : EntityId) : BatchPhase → Nat
  | .loading _ _ => 0
  | .seeking => 3 * store.remaining reached + 2
  | .fetching _ => 3 * store.remaining reached + 1
  | .recording _ => 3 * store.remaining reached
  | .ended _ => 0

/-- Whether the next step commits what a scan has fetched. -/
def commitsScan (batch : IndexingBatch) : Bool :=
  match batch.phase with
  | .recording _ => true
  | _ => false

/-- The committed content of a scanning batch is caught up from the mark of the beginning to
the mark that it has reached. -/
structure Scanned (store : EntityStore) (owns : ProjectId → Bool) (owner : EntityIndex)
    (version : Option UInt64) (mark : Option EntityId) (current : List EntityDocument)
    (batch : IndexingBatch) (now : IndexContent) (reached : Option EntityId) : Prop where
  opened : batch.index.directory.openFor owner.layout = .ok now
  described : ∃ chronicle : Chronicle, chronicle.version = version ∧
    chronicle.lastMark? = reached ∧ chronicle.DescribesAs now
      (store.caughtUp owns owner (mark.getD 0) (reached.getD 0) current)
  marked : reached = mark ∨
    mark.getD 0 < reached.getD 0 ∧ ∃ entity ∈ store.toList, reached = some entity.id
  phase : PhaseFits owner store (reached.getD 0) batch.phase

namespace Scanned

theorem progressMark (scanned : Scanned store owns owner version mark current batch now reached) :
    now.progressMark = reached.getD 0 := by
  obtain ⟨chronicle, _, same, describes⟩ := scanned.described
  rw [describes.progressMark, same]

theorem mark_le (scanned : Scanned store owns owner version mark current batch now reached) :
    mark.getD 0 ≤ reached.getD 0 := by
  rcases scanned.marked with same | ⟨above, _⟩
  · rw [same]
    exact UInt64.le_refl _
  · exact UInt64.le_of_lt above

theorem consists (scanned : Scanned store owns owner version mark current batch now reached) :
    now.Consists version reached
      (store.caughtUp owns owner (mark.getD 0) (reached.getD 0) current) := by
  obtain ⟨chronicle, sameVersion, sameMark, describes⟩ := scanned.described
  have consists := describes.consists
  rwa [sameVersion, sameMark] at consists

/-- What a step of a scan leaves: after a commit a greater mark, else the same content, and
always fewer steps to go. -/
def Advances (store : EntityStore) (owns : ProjectId → Bool) (owner : EntityIndex)
    (version : Option UInt64) (mark : Option EntityId) (current : List EntityDocument)
    (batch : IndexingBatch) (now : IndexContent) (reached : Option EntityId) : Prop :=
  ∃ later further,
    Scanned store owns owner version mark current (batch.step owner (store.source owns)) later
        further ∧
      stepsLeft store (further.getD 0) (batch.step owner (store.source owns)).phase <
        stepsLeft store (reached.getD 0) batch.phase ∧
      if batch.commitsScan then reached.getD 0 < further.getD 0 else later = now

theorem advances_seeking
    (scanned : Scanned store owns owner version mark current batch now reached)
    (isSeeking : batch.phase = .seeking) :
    Advances store owns owner version mark current batch now reached := by
  obtain ⟨index, told, opened⟩ := LocalIndex.readProgressMark_of_opened scanned.opened
  have stepped : batch.step owner (store.source owns) =
      { batch with index := index, phase := .fetching now.progressMark } := by
    simp only [step, isSeeking, told]
  refine ⟨now, reached, ?_, ?_, ?_⟩
  · rw [stepped]
    exact ⟨opened, scanned.described, scanned.marked, scanned.progressMark⟩
  · rw [stepped, isSeeking]
    simp [stepsLeft]
  · simp [commitsScan, isSeeking]

theorem advances_fetching
    (scanned : Scanned store owns owner version mark current batch now reached)
    (positive : 0 < owner.settings.indexing.batchSize) {begun : EntityId}
    (isFetching : batch.phase = .fetching begun) :
    Advances store owns owner version mark current batch now reached := by
  have fits := scanned.phase
  rw [isFetching] at fits
  obtain rfl : begun = reached.getD 0 := fits
  cases found : store.queryAfter (reached.getD 0) owner.settings.indexing.batchSize.toNat with
  | nil =>
      have stepped : batch.step owner (store.source owns) =
          { batch with phase := .ended (.ok ()) } := by
        simp only [step, isFetching, EntityStore.source, found]
      have nothingLeft : ∀ entity ∈ store.toList, entity.id ≤ reached.getD 0 :=
        le_mark_of_nil store (UInt64.lt_iff_toNat_lt.1 positive) found
      refine ⟨now, reached, ?_, ?_, ?_⟩
      · rw [stepped]
        exact ⟨scanned.opened, scanned.described, scanned.marked, rfl, nothingLeft⟩
      · rw [stepped, isFetching]
        simp [stepsLeft]
      · simp [commitsScan, isFetching]
  | cons entity fetched =>
      have stepped : batch.step owner (store.source owns) =
          { batch with phase := .recording (entity :: fetched) } := by
        simp only [step, isFetching, EntityStore.source, found]
      refine ⟨now, reached, ?_, ?_, ?_⟩
      · rw [stepped]
        exact ⟨scanned.opened, scanned.described, scanned.marked, by simp, found.symm⟩
      · rw [stepped, isFetching]
        simp [stepsLeft]
      · simp [commitsScan, isFetching]

/-- The commit of a fetch brings the documents of the owned entities up to its last
identifier. -/
theorem describesAs_scanChanges {chronicle : Chronicle} {begun middle : EntityId}
    {fetched : List Entity} (sameLayout : now.layout = owner.layout)
    (describes : chronicle.DescribesAs now (store.caughtUp owns owner begun middle current))
    (first : begun ≤ middle) (second : middle ≤ lastId fetched)
    (whole : fetched = store.between middle (lastId fetched)) :
    (chronicle.extend (scanChanges owner (store.source owns) fetched)).DescribesAs
      (now.commit (scanChanges owner (store.source owns) fetched))
      (store.caughtUp owns owner begun (lastId fetched) current) := by
  have ordinary := isOrdinary_scanChanges owner (store.source owns) fetched
  rw [← sameLayout] at ordinary
  have owned : ownedDocuments owner (store.source owns) fetched =
      store.ownedBetween owns owner middle (lastId fetched) :=
    congrArg (ownedDocuments owner (store.source owns)) whole
  have updated : (scanChanges owner (store.source owns) fetched).foldl Chronicle.updated
      (store.caughtUp owns owner begun middle current) =
        store.caughtUp owns owner begun (lastId fetched) current := by
    rw [scanChanges, owned, List.foldl_append,
      Chronicle.foldl_updated_upserts _ (store.nodup_ownedBetween owns owner _ _),
      EntityStore.caughtUp_caughtUp first second]
    exact Chronicle.updated_putProgressMark _ _
  have committed := describes.commit ordinary
  rwa [updated] at committed

theorem advances_recording
    (scanned : Scanned store owns owner version mark current batch now reached)
    {fetched : List Entity} (isRecording : batch.phase = .recording fetched) :
    Advances store owns owner version mark current batch now reached := by
  have fits := scanned.phase
  rw [isRecording] at fits
  obtain ⟨found, isFetch⟩ := fits
  obtain ⟨entity, inFetched, isLast⟩ := exists_lastId found
  have whole : fetched = store.between (reached.getD 0) (lastId fetched) := by
    have fetch := queryAfter_eq_between store (reached.getD 0)
      owner.settings.indexing.batchSize.toNat (isFetch ▸ found)
    rwa [← isFetch] at fetch
  obtain ⟨stored, above, _⟩ := EntityStore.mem_between.1 (whole ▸ inFetched)
  rw [isLast] at above
  obtain ⟨index, committed, opened⟩ := LocalIndex.transact_of_opened scanned.opened
    (scanChanges owner (store.source owns) fetched)
  have sameIndex : (batch.step owner (store.source owns)).index = index := by
    simp only [step, isRecording, index_commitScan, committed]
  have nextPhase : (batch.step owner (store.source owns)).phase =
      if owner.settings.indexing.batchSize.toNat ≤ fetched.length then .seeking
      else .ended (.ok ()) := by
    rw [scanChanges] at committed
    simp only [step, isRecording, commitScan, committed]
  refine ⟨now.commit (scanChanges owner (store.source owns) fetched), some (lastId fetched),
    ⟨?_, ?_, ?_, ?_⟩, ?_, ?_⟩
  · rw [sameIndex]
    exact opened
  · obtain ⟨chronicle, sameVersion, _, describes⟩ := scanned.described
    refine ⟨chronicle.extend (scanChanges owner (store.source owns) fetched), sameVersion,
      chronicle.lastMark?_extend_putProgressMark _ _, ?_⟩
    exact describesAs_scanChanges (IndexDirectory.openFor_eq_ok scanned.opened).1 describes
      scanned.mark_le (UInt64.le_of_lt above) whole
  · refine Or.inr ⟨UInt64.lt_of_le_of_lt scanned.mark_le above, entity, stored, ?_⟩
    rw [isLast]
  · rw [nextPhase]
    split
    case isTrue => trivial
    case isFalse short =>
      rw [isFetch] at short found
      rw [isFetch]
      exact ⟨rfl, le_lastId_of_short store found (Nat.not_le.1 short)⟩
  · have fewer := store.remaining_lt stored (isLast ▸ above)
    rw [isLast] at fewer
    rw [nextPhase, isRecording]
    split <;> simp only [stepsLeft, Option.getD_some] <;> omega
  · simpa [commitsScan, isRecording] using above

/-- A scan advances with every step until it ends. -/
theorem advances (scanned : Scanned store owns owner version mark current batch now reached)
    (positive : 0 < owner.settings.indexing.batchSize) (running : batch.hasEnded = false) :
    Advances store owns owner version mark current batch now reached := by
  cases phase : batch.phase with
  | loading waiting documents =>
      have fits := scanned.phase
      rw [phase] at fits
      exact fits.elim
  | seeking => exact scanned.advances_seeking phase
  | fetching begun => exact scanned.advances_fetching positive phase
  | recording fetched => exact scanned.advances_recording phase
  | ended outcome => simp [hasEnded, phase] at running

end Scanned

theorem step_of_hasEnded {source : EntitySource} (ended : batch.hasEnded = true) :
    batch.step owner source = batch := by
  unfold hasEnded at ended
  split at ended
  case h_1 outcome isEnded => simp only [step, isEnded]
  case h_2 => cases ended

theorem run_of_hasEnded {source : EntitySource} (ended : batch.hasEnded = true) (steps : Nat) :
    run owner source steps batch = batch := by
  cases steps with
  | zero => rfl
  | succ steps => simp [run, ended]

theorem run_of_running {source : EntitySource} (running : batch.hasEnded = false) (steps : Nat) :
    run owner source (steps + 1) batch = run owner source steps (batch.step owner source) := by
  simp [run, running]

theorem run_succ (owner : EntityIndex) (source : EntitySource) (batch : IndexingBatch)
    (steps : Nat) :
    run owner source (steps + 1) batch = (run owner source steps batch).step owner source := by
  induction steps generalizing batch with
  | zero =>
      cases ended : batch.hasEnded with
      | false => rw [run_of_running ended, run, run]
      | true => rw [run_of_hasEnded ended, run, step_of_hasEnded ended]
  | succ steps ih =>
      cases ended : batch.hasEnded with
      | false => rw [run_of_running ended, ih, run_of_running ended]
      | true => rw [run_of_hasEnded ended, run_of_hasEnded ended, step_of_hasEnded ended]

namespace Scanned

variable (scanned : Scanned store owns owner version mark current batch now reached)
  (positive : 0 < owner.settings.indexing.batchSize)

include scanned positive

/-- Whatever a scan has committed is caught up to the mark that it has reached. -/
theorem run (steps : Nat) :
    ∃ later further, Scanned store owns owner version mark current
      (batch.run owner (store.source owns) steps) later further := by
  induction steps with
  | zero => exact ⟨now, reached, scanned⟩
  | succ steps ih =>
      obtain ⟨later, further, scannedLater⟩ := ih
      rw [run_succ]
      cases ended : (batch.run owner (store.source owns) steps).hasEnded with
      | false =>
          obtain ⟨last, furthest, scannedLast, _⟩ := scannedLater.advances positive ended
          exact ⟨last, furthest, scannedLast⟩
      | true =>
          rw [step_of_hasEnded ended]
          exact ⟨later, further, scannedLater⟩

theorem hasEnded_run {steps : Nat} (enough : stepsLeft store (reached.getD 0) batch.phase ≤ steps) :
    (batch.run owner (store.source owns) steps).hasEnded = true := by
  induction steps generalizing batch now reached with
  | zero =>
      cases ended : batch.hasEnded with
      | true => exact ended
      | false =>
          obtain ⟨_, _, _, fewer, _⟩ := scanned.advances positive ended
          omega
  | succ steps ih =>
      cases ended : batch.hasEnded with
      | true => rw [run_of_hasEnded ended, ended]
      | false =>
          obtain ⟨later, further, scannedLater, fewer, _⟩ := scanned.advances positive ended
          rw [run_of_running ended]
          exact ih scannedLater (by omega)

end Scanned

end IndexingBatch

namespace EntityStore

theorem exists_isLastMark (store : EntityStore) (mark : Option EntityId) :
    ∃ last, store.IsLastMark mark last := by
  by_cases found : store.toList.filter (fun entity => decide (mark.getD 0 < entity.id)) = []
  · refine ⟨mark, Or.inl ⟨fun entity stored => UInt64.not_lt.1 fun above => ?_, rfl⟩⟩
    have notBehind := List.filter_eq_nil_iff.1 found entity stored
    exact notBehind (decide_eq_true above)
  · obtain ⟨entity, behind, isLast⟩ := IndexingBatch.exists_lastId found
    obtain ⟨stored, above⟩ := List.mem_filter.1 behind
    refine ⟨some entity.id, Or.inr ⟨entity, stored, of_decide_eq_true above, rfl, ?_⟩⟩
    intro other isStored
    rcases UInt64.lt_or_le (mark.getD 0) other.id with isBehind | atMost
    · rw [isLast]
      exact IndexingBatch.le_lastId (List.mem_filter.2 ⟨isStored, decide_eq_true isBehind⟩)
    · exact UInt64.le_trans atMost (UInt64.le_of_lt (of_decide_eq_true above))

theorem IsLastMark.unique {store : EntityStore} {mark first second : Option EntityId}
    (isFirst : store.IsLastMark mark first) (isSecond : store.IsLastMark mark second) :
    first = second := by
  rcases isFirst with ⟨noneAbove, rfl⟩ | ⟨entity, stored, above, rfl, greatest⟩
  · rcases isSecond with ⟨_, rfl⟩ | ⟨other, isStored, otherAbove, _⟩
    · rfl
    · exact absurd (noneAbove other isStored) (UInt64.not_le.2 otherAbove)
  · rcases isSecond with ⟨noneAbove, _⟩ | ⟨other, isStored, _, rfl, otherGreatest⟩
    · exact absurd (noneAbove entity stored) (UInt64.not_le.2 above)
    · rw [UInt64.le_antisymm (otherGreatest entity stored) (greatest other isStored)]

end EntityStore

namespace IndexingBatch

variable {store : EntityStore} {owns : ProjectId → Bool} {owner : EntityIndex}
  {version : Option UInt64} {mark reached : Option EntityId} {current : List EntityDocument}
  {batch : IndexingBatch} {now : IndexContent}

theorem Scanned.isLastMark
    (scanned : Scanned store owns owner version mark current batch now reached)
    (ended : batch.hasEnded = true) :
    batch.phase = .ended (.ok ()) ∧ store.IsLastMark mark reached := by
  unfold hasEnded at ended
  split at ended
  case h_2 => cases ended
  case h_1 outcome isEnded =>
    have fits := scanned.phase
    rw [isEnded] at fits
    obtain ⟨isOk, nothingLeft⟩ := fits
    refine ⟨by rw [isEnded, isOk], ?_⟩
    rcases scanned.marked with same | ⟨above, entity, stored, isReached⟩
    · rw [same] at nothingLeft
      exact Or.inl ⟨nothingLeft, same⟩
    · rw [isReached] at above nothingLeft
      exact Or.inr ⟨entity, stored, above, isReached, nothingLeft⟩

theorem start_scan (index : LocalIndex) (tally : IndexTally) :
    start index tally [.scan] = ⟨index, tally, true, .seeking⟩ := by
  have noIds : Scheduling.entityIds [.scan] = [] := by simp [Scheduling.entityIds]
  simp [start, noIds, afterLoading]

theorem scanned_start (owner : EntityIndex) {chronicle : Chronicle} {index : LocalIndex}
    (opened : index.directory.openFor owner.layout = .ok now)
    (describes : chronicle.DescribesAs now current) (store : EntityStore)
    (owns : ProjectId → Bool) (tally : IndexTally) :
    Scanned store owns owner chronicle.version chronicle.lastMark? current
      (start index tally [.scan]) now chronicle.lastMark? := by
  rw [start_scan]
  exact ⟨opened, ⟨chronicle, rfl, rfl, by rwa [EntityStore.caughtUp_self]⟩, Or.inl rfl, trivial⟩

/-- With as many steps as it can take, a scan comes to its end, with the last mark. -/
theorem Scanned.ends {index : LocalIndex} {tally : IndexTally} {begunAt : Option EntityId}
    (begun : Scanned store owns owner version mark current (start index tally [.scan]) now begunAt)
    (positive : 0 < owner.settings.indexing.batchSize) :
    let whole := (start index tally [.scan]).run owner (store.source owns)
      (stepBound 1 store.size)
    whole.phase = .ended (.ok ()) ∧ ∃ later last,
      Scanned store owns owner version mark current whole later last ∧
        store.IsLastMark mark last := by
  intro whole
  obtain ⟨later, last, scanned⟩ := begun.run positive (stepBound 1 store.size)
  have bound := store.remaining_le_size (begunAt.getD 0)
  have enough : stepsLeft store (begunAt.getD 0) (start index tally [.scan]).phase ≤
      stepBound 1 store.size := by
    rw [start_scan, stepsLeft, stepBound]
    omega
  obtain ⟨ended, isLast⟩ := scanned.isLastMark (begun.hasEnded_run positive enough)
  exact ⟨ended, later, last, scanned, isLast⟩

/-- Whatever has been committed to an index, a scan of an unchanging store under an unchanging
ownership ends, and the mark at its end is the greatest identifier of the store behind the mark
at its beginning.  Every commit on the way raises the mark, and what is committed up to a mark
is the documents of the owned entities up to it, in place of those with their identifiers.  None
of this depends on the size of the batches. -/
theorem scan_catches_up (first : EntityIndex) {directory : IndexDirectory}
    (unbuilt : directory.content? = none) (operations : List IndexOperation)
    {before : IndexContent} :
    let life := (IndexLife.begin first directory).run operations
    life.index.directory.openFor life.owner.layout = .ok before →
      ∃ version mark current, before.Consists version mark current ∧
        before.progressMark = mark.getD 0 ∧
        ∀ (store : EntityStore) (owns : ProjectId → Bool), ∃ last, store.IsLastMark mark last ∧
          ∀ (settings : Settings) (tally : IndexTally), 0 < settings.indexing.batchSize →
            let owner : EntityIndex := { life.owner with settings := settings }
            let scan := fun steps =>
              (start life.index tally [.scan]).run owner (store.source owns) steps
            (scan (stepBound 1 store.size)).phase = .ended (.ok ()) ∧
              ∀ steps, ∃ now reached,
                (scan steps).index.directory.openFor owner.layout = .ok now ∧
                now.progressMark = reached.getD 0 ∧ mark.getD 0 ≤ reached.getD 0 ∧
                now.Consists version reached
                  (store.caughtUp owns life.owner (mark.getD 0) (reached.getD 0) current) ∧
                ((scan steps).hasEnded = true → reached = last) ∧
                ∃ later, (scan (steps + 1)).index.directory.openFor owner.layout = .ok later ∧
                  if (scan steps).commitsScan then now.progressMark < later.progressMark
                  else later = now := by
  intro life opened
  have sound : life.Sound := (IndexLife.sound_begin first unbuilt).run operations
  have openedDirectory := LocalIndex.openDirectory_ok opened
  obtain ⟨_, _, describes⟩ := (sound.keeps.openDirectory life.owner.configuration).2.2 before
    (congrArg Prod.snd openedDirectory)
  obtain ⟨current, described⟩ := describes.exists_current
  refine ⟨life.chronicle.version, life.chronicle.lastMark?, current, described.consists,
    described.progressMark, fun store owns => ?_⟩
  obtain ⟨last, isLast⟩ := store.exists_isLastMark life.chronicle.lastMark?
  refine ⟨last, isLast, fun settings tally positive => ?_⟩
  intro owner scan
  -- `Scanned` holds of the first state and carries through every step of the scan.
  have begun : Scanned store owns owner life.chronicle.version life.chronicle.lastMark? current
      (start life.index tally [.scan]) before life.chronicle.lastMark? :=
    scanned_start owner opened described store owns tally
  constructor
  · exact (begun.ends positive).1
  · intro steps
    obtain ⟨now, reached, scanned⟩ := begun.run positive steps
    refine ⟨now, reached, scanned.opened, scanned.progressMark, scanned.mark_le,
      scanned.consists, fun ended => (scanned.isLastMark ended).2.unique isLast, ?_⟩
    have next := run_succ owner (store.source owns) (start life.index tally [.scan]) steps
    cases ended : (scan steps).hasEnded with
    | true =>
        have idle : (scan steps).commitsScan = false := by
          rw [commitsScan, (scanned.isLastMark ended).1]
        refine ⟨now, ?_, ?_⟩
        · exact (congrArg (·.index.directory.openFor owner.layout)
            (next.trans (step_of_hasEnded ended))).trans scanned.opened
        · simp [idle]
    | false =>
        obtain ⟨later, further, scannedLater, _, raised⟩ := scanned.advances positive ended
        refine ⟨later, ?_, ?_⟩
        · exact (congrArg (·.index.directory.openFor owner.layout) next).trans
            scannedLater.opened
        · rw [scanned.progressMark, scannedLater.progressMark]
          exact raised

def issueStore : EntityStore :=
  (((EntityStore.empty.save ⟨1, 1, []⟩).save ⟨3, 1, []⟩).save ⟨4, 2, []⟩).save ⟨6, 1, []⟩

theorem scan_of_issues :
    let life := IndexLife.issueLife
    ∃ before, life.index.directory.openFor life.owner.layout = .ok before ∧
      before.progressMark = 2 ∧
      ∃ version mark current, before.Consists version mark current ∧
        ∀ size ∈ [1, 2, 5000],
          let owner : EntityIndex := { life.owner with settings.indexing.batchSize := size }
          ∃ now,
            ((start life.index IndexTally.zero [.scan]).run owner (issueStore.source (· == 1))
              (stepBound 1 issueStore.size)).index.directory.openFor owner.layout = .ok now ∧
            now.progressMark = 6 ∧
            now.Consists version (some 6)
              (overlay current [life.owner.documentFor ⟨3, 1, []⟩,
                life.owner.documentFor ⟨6, 1, []⟩]) := by
  intro life
  have unbuilt : IndexDirectory.missing.content? = none := rfl
  obtain ⟨before, opened, atTwo⟩ := IndexLife.exists_issueContent
  obtain ⟨version, mark, current, consists, sameMark, scans⟩ :=
    scan_catches_up IndexLife.issueOwner unbuilt IndexLife.issueOperations opened
  refine ⟨before, opened, atTwo, version, mark, current, consists, ?_⟩
  intro size listed owner
  obtain ⟨last, isLast, everySize⟩ := scans issueStore (· == 1)
  have positive : 0 < owner.settings.indexing.batchSize := by
    simp only [List.mem_cons, List.not_mem_nil, or_false] at listed
    rcases listed with rfl | rfl | rfl <;> decide
  obtain ⟨ended, along⟩ := everySize owner.settings IndexTally.zero positive
  obtain ⟨now, reached, openedNow, atReached, _, consistsNow, atEnd, _⟩ :=
    along (stepBound 1 issueStore.size)
  have behind : mark.getD 0 < 6 := by
    rw [← sameMark, atTwo]
    decide
  have isSix : last = some 6 :=
    isLast.unique (Or.inr ⟨⟨6, 1, []⟩, by decide, behind, rfl, by decide⟩)
  have isReached : reached = some 6 := by
    rw [atEnd (by rw [hasEnded, ended]), isSix]
  rw [← sameMark, atTwo, isReached] at consistsNow
  rw [isReached] at atReached
  exact ⟨now, openedNow, atReached, consistsNow⟩

end IndexingBatch

end EntitySearch
