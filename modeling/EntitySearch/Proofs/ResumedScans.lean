import EntitySearch.Proofs.InterruptedBatches

/-!
# Resumed scans

What a failed batch leaves behind is caught up to the mark that it has put: the
owned entities of the store between the mark from before and that one are indexed.
Every later attempt starts from there, whether it fails or not, so a scan that comes
to its end has passed over nothing, and its mark is that of a scan that never
failed.
-/

namespace EntitySearch

namespace IndexingBatch

variable {owner : EntityIndex} {store : EntityStore} {owns : ProjectId → Bool}
  {works : List Scheduling.Work} {before now : IndexContent}

/-! ### Scan batches and their marks -/

theorem layout_scanBatches {begun : IndexContent} {batches : List (List Entity)}
    (scans : ScanBatches owner store owns begun batches now) : now.layout = begun.layout := by
  induction scans with
  | none => rfl
  | next _ _ _ ih => exact ih

theorem progressMark_scanBatches {begun : IndexContent} {batches : List (List Entity)}
    (scans : ScanBatches owner store owns begun batches now)
    (sameLayout : begun.layout = owner.layout) :
    now.progressMark = (batches.getLast?.map lastId).getD begun.progressMark := by
  cases scans with
  | none => rfl
  | next earlier =>
      have accepted := (layout_scanBatches earlier).trans sameLayout
      rw [List.getLast?_concat]
      exact IndexContent.progressMark_commit_putProgressMark accepted _ _

/-- A change that a batch makes: it puts the document of a stored entity, or a mark. -/
inductive FromStore (owner : EntityIndex) (store : EntityStore) : IndexChange → Prop
  | upsert {entity} (stored : entity ∈ store.toList) :
      FromStore owner store (.upsert (owner.documentFor entity))
  | putProgressMark (mark : EntityId) : FromStore owner store (.putProgressMark mark)

theorem FromStore.isOrdinary {change : IndexChange} (fromStore : FromStore owner store change) :
    change.IsOrdinary owner.layout := by
  cases fromStore with
  | upsert => exact .upsert _
  | putProgressMark mark => exact .putProgressMark mark

/-- The document of a stored entity gives way to itself only. -/
theorem FromStore.keeps {change : IndexChange} (fromStore : FromStore owner store change)
    {current : List EntityDocument} {entity : Entity} (stored : entity ∈ store.toList)
    (present : owner.documentFor entity ∈ current ∨ change = .upsert (owner.documentFor entity)) :
    owner.documentFor entity ∈ Chronicle.updated current change := by
  rw [Chronicle.mem_updated]
  cases fromStore with
  | @upsert other otherStored =>
      by_cases same : other.id = entity.id
      · have load := EntityStore.load_of_mem otherStored
        rw [same, EntityStore.load_of_mem stored] at load
        cases load
        exact Or.inl rfl
      · refine present.elim (fun inside => Or.inr ⟨inside, ?_⟩) Or.inl
        exact beq_false_of_ne same
  | putProgressMark mark =>
      exact present.elim (fun inside => Or.inr ⟨inside, rfl⟩) Or.inl

theorem mem_foldl_updated {changes : List IndexChange}
    (fromStore : ∀ change ∈ changes, FromStore owner store change)
    {current : List EntityDocument} {entity : Entity} (stored : entity ∈ store.toList)
    (present : owner.documentFor entity ∈ current ∨
      .upsert (owner.documentFor entity) ∈ changes) :
    owner.documentFor entity ∈ changes.foldl Chronicle.updated current := by
  induction changes generalizing current with
  | nil => exact present.resolve_right (by simp)
  | cons change changes ih =>
      have first := fromStore change List.mem_cons_self
      apply ih fun other inside => fromStore other (List.mem_cons_of_mem _ inside)
      rcases present with inside | staged
      · exact Or.inl (first.keeps stored (Or.inl inside))
      · rcases List.mem_cons.1 staged with same | later
        · exact Or.inl (first.keeps stored (Or.inr same.symm))
        · exact Or.inr later

theorem fromStore_loaded (owner : EntityIndex) (store : EntityStore) (ids : List EntityId) :
    ∀ change ∈ (loadedDocuments owner store ids).map IndexChange.upsert,
      FromStore owner store change := by
  intro change inside
  obtain ⟨document, isLoaded, rfl⟩ := List.mem_map.1 inside
  obtain ⟨entity, found, rfl⟩ := List.mem_map.1 isLoaded
  obtain ⟨id, -, load⟩ := List.mem_filterMap.1 found
  exact .upsert (EntityStore.mem_toList_of_load load)

theorem fromStore_scanChanges {fetched : List Entity}
    (stored : ∀ entity ∈ fetched, entity ∈ store.toList) :
    ∀ change ∈ scanChanges owner (store.source owns) fetched, FromStore owner store change := by
  intro change inside
  rcases List.mem_append.1 inside with upserted | marked
  · obtain ⟨document, owned, rfl⟩ := List.mem_map.1 upserted
    obtain ⟨entity, isOwned, rfl⟩ := List.mem_map.1 owned
    exact .upsert (stored entity (List.mem_filter.1 isOwned).1)
  · rw [List.mem_singleton.1 marked]
    exact .putProgressMark _

/-- Behind the mark and up to another one, the owned entities of the store are indexed. -/
structure CaughtUpTo (owner : EntityIndex) (store : EntityStore) (owns : ProjectId → Bool)
    (mark : Option EntityId) (now : IndexContent) (reached : Option EntityId) : Prop where
  sameLayout : now.layout = owner.layout
  described : ∃ chronicle current, chronicle.lastMark? = reached ∧
    Chronicle.DescribesAs chronicle now current ∧
    ∀ entity ∈ store.toList, owns entity.project = true → mark.getD 0 < entity.id →
      entity.id ≤ reached.getD 0 → owner.documentFor entity ∈ current
  marked : reached = mark ∨
    mark.getD 0 < reached.getD 0 ∧ ∃ entity ∈ store.toList, reached = some entity.id

namespace CaughtUpTo

variable {mark reached : Option EntityId}

theorem progressMark (caught : CaughtUpTo owner store owns mark now reached) :
    now.progressMark = reached.getD 0 := by
  obtain ⟨chronicle, current, same, describes, -⟩ := caught.described
  rw [describes.progressMark, same]

theorem mark_le (caught : CaughtUpTo owner store owns mark now reached) :
    mark.getD 0 ≤ reached.getD 0 := by
  rcases caught.marked with same | ⟨above, -⟩
  · rw [same]
    exact UInt64.le_refl _
  · exact UInt64.le_of_lt above

/-- The transaction of the requested entities leaves everything caught up. -/
theorem withEntities (caught : CaughtUpTo owner store owns mark now reached)
    (works : List Scheduling.Work) :
    CaughtUpTo owner store owns mark (withEntities owner store works now) reached := by
  unfold IndexingBatch.withEntities
  split
  case h_1 => exact caught
  case h_2 id ids requested =>
    have fromStore := fromStore_loaded owner store (id :: ids)
    obtain ⟨chronicle, current, same, describes, covered⟩ := caught.described
    have staged : ∀ change ∈ (loadedDocuments owner store (id :: ids)).map IndexChange.upsert,
        change.IsOrdinary now.layout := fun change inside =>
      caught.sameLayout ▸ (fromStore change inside).isOrdinary
    refine ⟨caught.sameLayout, ⟨_, _, ?_, describes.commit staged, ?_⟩, caught.marked⟩
    · have unmarked : ((loadedDocuments owner store (id :: ids)).map
          IndexChange.upsert).filterMap IndexChange.mark? = [] := by
        simp [IndexChange.mark?]
      rw [Chronicle.lastMark?, Chronicle.extend, List.filterMap_append, unmarked, List.append_nil]
      exact same
    · intro entity stored owned above atMost
      exact mem_foldl_updated fromStore stored (Or.inl (covered entity stored owned above atMost))

/-- A scan batch catches up to its last entity. -/
theorem scanBatch (caught : CaughtUpTo owner store owns mark now reached) {fetched : List Entity}
    (found : fetched ≠ [])
    (isFetch : fetched =
      store.queryAfter now.progressMark owner.settings.indexing.batchSize.toNat) :
    CaughtUpTo owner store owns mark (now.commit (scanChanges owner (store.source owns) fetched))
      (some (lastId fetched)) := by
  rw [caught.progressMark] at isFetch
  have whole : fetched = store.between (reached.getD 0) (lastId fetched) := by
    have fetch := queryAfter_eq_between store _ _ (isFetch ▸ found)
    rwa [← isFetch] at fetch
  have above : reached.getD 0 < lastId fetched := by
    have further := lt_lastId store (isFetch ▸ found)
    rwa [← isFetch] at further
  have stored : ∀ entity ∈ fetched, entity ∈ store.toList := fun entity inside =>
    (EntityStore.mem_between.1 (whole ▸ inside)).1
  have fromStore : ∀ change ∈ scanChanges owner (store.source owns) fetched,
      FromStore owner store change := fromStore_scanChanges stored
  obtain ⟨chronicle, current, same, describes, covered⟩ := caught.described
  have staged : ∀ change ∈ scanChanges owner (store.source owns) fetched,
      change.IsOrdinary now.layout := fun change inside =>
    caught.sameLayout ▸ (fromStore change inside).isOrdinary
  refine ⟨caught.sameLayout, ⟨_, _, ?_, describes.commit staged, ?_⟩, ?_⟩
  · exact chronicle.lastMark?_extend_putProgressMark _ _
  · intro entity isStored owned further atMost
    apply mem_foldl_updated fromStore isStored
    rcases UInt64.lt_or_le (reached.getD 0) entity.id with behind | before
    · have isFetched : entity ∈ fetched :=
        whole ▸ EntityStore.mem_between.2 ⟨isStored, behind, atMost⟩
      refine Or.inr (List.mem_append_left _ (List.mem_map_of_mem ?_))
      exact List.mem_map_of_mem (List.mem_filter.2 ⟨isFetched, owned⟩)
    · exact Or.inl (covered entity isStored owned further before)
  · obtain ⟨entity, inside, isLast⟩ := exists_lastId found
    exact Or.inr ⟨UInt64.lt_of_le_of_lt caught.mark_le above, entity, stored entity inside,
      congrArg some isLast.symm⟩

theorem scanBatches (caught : CaughtUpTo owner store owns mark before reached)
    {batches : List (List Entity)} (scans : ScanBatches owner store owns before batches now) :
    ∃ further, CaughtUpTo owner store owns mark now further := by
  induction scans with
  | none => exact ⟨reached, caught⟩
  | next _ found isFetch ih =>
      obtain ⟨further, earlier⟩ := ih
      exact ⟨_, earlier.scanBatch found isFetch⟩

/-- What a batch leaves, wherever it fails, is caught up to some mark. -/
theorem leavesWhole (caught : CaughtUpTo owner store owns mark before reached)
    {batches : List (List Entity)}
    (leaves : LeavesWhole owner store owns works before batches now) :
    ∃ further, CaughtUpTo owner store owns mark now further := by
  cases leaves with
  | untouched => exact ⟨reached, caught⟩
  | committed scans => exact (caught.withEntities works).scanBatches scans

theorem isLastMark (caught : CaughtUpTo owner store owns mark now reached)
    (nothingLeft : ∀ entity ∈ store.toList, entity.id ≤ now.progressMark) :
    store.IsLastMark mark reached := by
  rw [caught.progressMark] at nothingLeft
  rcases caught.marked with same | ⟨above, entity, stored, isReached⟩
  · rw [same] at nothingLeft
    exact Or.inl ⟨nothingLeft, same⟩
  · rw [isReached] at above nothingLeft
    exact Or.inr ⟨entity, stored, above, isReached, nothingLeft⟩

end CaughtUpTo

/-- An attempt at a batch: its works, and what goes wrong in its steps. -/
structure Attempt where
  works : List Scheduling.Work
  tally : IndexTally
  troubles : List Trouble

def attempt (owner : EntityIndex) (source : EntitySource) (index : LocalIndex)
    (attempt : Attempt) : LocalIndex :=
  ((start index attempt.tally attempt.works).runAmid owner source attempt.troubles).index

/-- Whatever attempts are made, what is committed stays caught up to some mark. -/
theorem CaughtUpTo.attempts {index : LocalIndex} {mark reached : Option EntityId}
    (caught : CaughtUpTo owner store owns mark before reached)
    (opened : index.directory.openFor owner.layout = .ok before)
    (positive : 0 < owner.settings.indexing.batchSize) (attempts : List Attempt) :
    ∃ now further,
      (attempts.foldl (attempt owner (store.source owns)) index).directory.openFor owner.layout =
          .ok now ∧ CaughtUpTo owner store owns mark now further := by
  induction attempts generalizing index before reached with
  | nil => exact ⟨before, reached, opened, caught⟩
  | cons first attempts ih =>
      obtain ⟨now, midway⟩ := (Midway.start owner store owns first.works opened
        first.tally).runAmid positive first.troubles
      obtain ⟨batches, leaves⟩ := midway.phase.leavesWhole
      obtain ⟨further, caughtNow⟩ := caught.leavesWhole leaves
      exact ih caughtNow midway.opened

theorem CaughtUpTo.begin {chronicle : Chronicle} {current : List EntityDocument}
    (sameLayout : before.layout = owner.layout)
    (describes : chronicle.DescribesAs before current) (store : EntityStore)
    (owns : ProjectId → Bool) :
    CaughtUpTo owner store owns chronicle.lastMark? before chronicle.lastMark? where
  sameLayout := sameLayout
  described := by
    refine ⟨chronicle, current, rfl, describes, fun entity _ _ above atMost => ?_⟩
    exact absurd atMost (UInt64.not_le.2 above)
  marked := Or.inl rfl

theorem CaughtUpTo.progressMark_leavesWhole {mark reached : Option EntityId}
    (caught : CaughtUpTo owner store owns mark before reached) {batches : List (List Entity)}
    (leaves : LeavesWhole owner store owns works before batches now) :
    now.progressMark = (batches.getLast?.map lastId).getD before.progressMark := by
  cases leaves with
  | untouched => rfl
  | committed scans =>
      have loaded := caught.withEntities works
      rw [progressMark_scanBatches scans loaded.sameLayout, loaded.progressMark,
        caught.progressMark]

/-- A scan that nothing hinders, with as many steps as it can take. -/
def wholeScan (owner : EntityIndex) (store : EntityStore) (owns : ProjectId → Bool)
    (index : LocalIndex) (tally : IndexTally) : IndexingBatch :=
  (start index tally [.scan]).run owner (store.source owns) (stepBound 1 store.size)

/-- A scan that nothing hinders comes to its end, with the last mark. -/
theorem wholeScan_ends {chronicle : Chronicle} {index : LocalIndex}
    {current : List EntityDocument}
    (opened : index.directory.openFor owner.layout = .ok before)
    (describes : chronicle.DescribesAs before current)
    (positive : 0 < owner.settings.indexing.batchSize) (store : EntityStore)
    (owns : ProjectId → Bool) (tally : IndexTally) :
    (wholeScan owner store owns index tally).phase = .ended (.ok ()) ∧
      ∃ now last, (wholeScan owner store owns index tally).index.directory.openFor owner.layout =
          .ok now ∧
        store.IsLastMark chronicle.lastMark? last ∧ now.progressMark = last.getD 0 := by
  have begun := scanned_start owner opened describes store owns tally
  obtain ⟨ended, now, last, scanned, isLast⟩ := begun.ends positive
  exact ⟨ended, now, last, scanned.opened, isLast, scanned.progressMark⟩

/-- What can be opened of a described index is caught up to its own mark. -/
theorem exists_caughtUpTo {index : LocalIndex} (described : index.IsDescribed)
    (opened : index.directory.openFor owner.layout = .ok before) (store : EntityStore)
    (owns : ProjectId → Bool) :
    ∃ chronicle current, Chronicle.DescribesAs chronicle before current ∧
      CaughtUpTo owner store owns chronicle.lastMark? before chronicle.lastMark? := by
  have openedDirectory := LocalIndex.openDirectory_ok opened
  obtain ⟨-, sameLayout, chronicle, describes⟩ :=
    (described.openDirectory owner.configuration).2 before (congrArg Prod.snd openedDirectory)
  obtain ⟨current, describesAs⟩ := describes.exists_current
  exact ⟨chronicle, current, describesAs, .begin sameLayout describesAs store owns⟩

/-- A scan that comes to its end, after whatever attempts, has indexed all owned entities behind
the mark from before them and has put the last mark. -/
theorem CaughtUpTo.ended {index : LocalIndex} {mark reached last : Option EntityId}
    (caught : CaughtUpTo owner store owns mark before reached)
    (opened : index.directory.openFor owner.layout = .ok before)
    (positive : 0 < owner.settings.indexing.batchSize) (isLast : store.IsLastMark mark last)
    {later : Attempt} (asked : later.works.contains .scan = true)
    (ended : ((start index later.tally later.works).runAmid owner (store.source owns)
      later.troubles).phase = .ended (.ok ())) :
    ∃ now, (attempt owner (store.source owns) index later).directory.openFor owner.layout =
        .ok now ∧
      now.progressMark = last.getD 0 ∧
      ∃ version mark' current, now.Consists version mark' current ∧
        ∀ entity ∈ store.toList, owns entity.project = true → mark.getD 0 < entity.id →
          owner.documentFor entity ∈ current := by
  obtain ⟨now, midway⟩ := (Midway.start owner store owns later.works opened
    later.tally).runAmid positive later.troubles
  obtain ⟨batches, leaves⟩ := midway.phase.leavesWhole
  obtain ⟨further, caughtNow⟩ := caught.leavesWhole leaves
  have fits := midway.phase
  rw [ended] at fits
  have nothingLeft := fits.2 rfl asked
  have atEnd := (caughtNow.isLastMark nothingLeft).unique isLast
  refine ⟨now, midway.opened, ?_, ?_⟩
  · rw [caughtNow.progressMark, atEnd]
  · obtain ⟨chronicle, current, -, describes, covered⟩ := caughtNow.described
    refine ⟨_, _, current, describes.consists, fun entity stored owned above => ?_⟩
    apply covered entity stored owned above
    rw [← caughtNow.progressMark]
    exact nothingLeft entity stored

/-- Wherever a batch fails, it leaves whole transactions behind, with the mark of the last scan
batch among them.  After any number of such attempts a scan that nothing hinders comes to its end;
and any one that does has indexed all owned entities of the store behind the mark from before the
attempts, and has put the mark that a scan would have put then. -/
theorem scan_resumes_after_failures (owner : EntityIndex)
    (positive : 0 < owner.settings.indexing.batchSize) {index : LocalIndex}
    (described : index.IsDescribed) (store : EntityStore) (owns : ProjectId → Bool) :
    (∀ failed : Attempt,
      let after := attempt owner (store.source owns) index failed
      (∀ failure, index.directory.openFor owner.layout = .error failure →
        after.directory = index.directory) ∧
      ∀ before, index.directory.openFor owner.layout = .ok before →
        ∃ batches now, after.directory.openFor owner.layout = .ok now ∧
          LeavesWhole owner store owns failed.works before batches now ∧
          now.progressMark = (batches.getLast?.map lastId).getD before.progressMark) ∧
    ∀ before, index.directory.openFor owner.layout = .ok before →
      ∃ last : EntityId,
        (∀ tally, ∃ now, (wholeScan owner store owns index tally).index.directory.openFor
          owner.layout = .ok now ∧ now.progressMark = last) ∧
        ∀ failed : List Attempt,
          let left := failed.foldl (attempt owner (store.source owns)) index
          (∀ tally, (wholeScan owner store owns left tally).phase = .ended (.ok ())) ∧
          ∀ later : Attempt, later.works.contains .scan = true →
            ((start left later.tally later.works).runAmid owner (store.source owns)
              later.troubles).phase = .ended (.ok ()) →
            ∃ now, (attempt owner (store.source owns) left later).directory.openFor owner.layout =
                .ok now ∧
              now.progressMark = last ∧
              ∃ version mark current, now.Consists version mark current ∧
                ∀ entity ∈ store.toList, owns entity.project = true →
                  before.progressMark < entity.id → owner.documentFor entity ∈ current := by
  refine ⟨fun failed => ⟨fun failure refused => ?_, fun before opened => ?_⟩,
    fun before opened => ?_⟩
  · rw [← index_start index failed.tally failed.works] at refused
    have unchanged := directory_runAmid (store.source owns) refused failed.troubles
    rw [index_start] at unchanged
    exact unchanged
  · obtain ⟨_, _, -, caught⟩ := exists_caughtUpTo described opened store owns
    obtain ⟨now, midway⟩ := (Midway.start owner store owns failed.works opened
      failed.tally).runAmid positive failed.troubles
    obtain ⟨batches, leaves⟩ := midway.phase.leavesWhole
    exact ⟨batches, now, midway.opened, leaves, caught.progressMark_leavesWhole leaves⟩
  · obtain ⟨chronicle, current, describes, caught⟩ :=
      exists_caughtUpTo described opened store owns
    obtain ⟨last, isLast⟩ := store.exists_isLastMark chronicle.lastMark?
    refine ⟨last.getD 0, fun tally => ?_, fun failed => ?_⟩
    · obtain ⟨-, now, reached, openedNow, isReached, marked⟩ :=
        wholeScan_ends opened describes positive store owns tally
      rw [isReached.unique isLast] at marked
      exact ⟨now, openedNow, marked⟩
    · obtain ⟨now, reached, openedNow, caughtNow⟩ := caught.attempts opened positive failed
      refine ⟨fun tally => ?_, fun later asked ended => ?_⟩
      · obtain ⟨_, _, -, describesNow, -⟩ := caughtNow.described
        exact (wholeScan_ends openedNow describesNow positive store owns tally).1
      · rw [caught.progressMark]
        exact caughtNow.ended openedNow positive isLast asked ended

/-- A batch of issues that is to index one of them and to scan; the commit of its first scan batch
fails behind its end. -/
def failingAttempt : Attempt where
  works := [.entity 4, .scan]
  tally := .zero
  troubles := [.none, .none, .none, .none, .unsettled (.engine .corruptedData)]

theorem scan_of_issues_resumes :
    let owner : EntityIndex :=
      { IndexLife.issueOwner with settings.indexing.batchSize := 1 }
    let left := attempt owner (issueStore.source (· == 1)) IndexLife.issueLife.index failingAttempt
    let later : Attempt :=
      ⟨[.scan], .zero, List.replicate (stepBound 1 issueStore.size) .none⟩
    ∃ now, (attempt owner (issueStore.source (· == 1)) left later).directory.openFor owner.layout =
        .ok now ∧
      ∃ version mark current, now.Consists version mark current ∧
        owner.documentFor ⟨3, 1, []⟩ ∈ current ∧ owner.documentFor ⟨6, 1, []⟩ ∈ current := by
  intro owner left later
  have unbuilt : IndexDirectory.missing.content? = none := rfl
  have sound := (IndexLife.sound_begin IndexLife.issueOwner unbuilt).run IndexLife.issueOperations
  have positive : 0 < owner.settings.indexing.batchSize := by decide
  obtain ⟨before, opened, atTwo⟩ := IndexLife.exists_issueContent
  obtain ⟨last, -, resumes⟩ := (scan_resumes_after_failures owner positive
    sound.keeps.isDescribed issueStore (· == 1)).2 before opened
  obtain ⟨ends, complete⟩ := resumes [failingAttempt]
  have ended : ((start left later.tally later.works).runAmid owner (issueStore.source (· == 1))
      later.troubles).phase = .ended (.ok ()) := by
    rw [runAmid_none]
    exact ends .zero
  obtain ⟨now, openedNow, -, version, mark, current, consists, indexed⟩ :=
    complete later rfl ended
  refine ⟨now, openedNow, version, mark, current, consists, ?_, ?_⟩
  · exact indexed ⟨3, 1, []⟩ (by decide) rfl (by rw [atTwo]; decide)
  · exact indexed ⟨6, 1, []⟩ (by decide) rfl (by rw [atTwo]; decide)

end IndexingBatch

end EntitySearch
