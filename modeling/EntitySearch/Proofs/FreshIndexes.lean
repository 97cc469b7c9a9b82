import EntitySearch.Proofs.CatchUpScan
import EntitySearch.Proofs.CurrentIndex

/-!
# Scanning into a fresh index

A fresh index has no progress mark, which a scan takes for zero, and a scan fetches
what is strictly behind the mark.  The first scan of a fresh index therefore brings
the documents of all owned entities but the one whose identifier is zero, and no
later scan brings that one either.
-/

namespace EntitySearch

namespace EntityStore

variable {store : EntityStore} {owns : ProjectId → Bool} {owner : EntityIndex}

/-- The owned entities that a scan from the first mark on can come to. -/
def reachableEntities (store : EntityStore) (owns : ProjectId → Bool) : List Entity :=
  store.toList.filter fun entity => owns entity.project && entity.id != 0

theorem IsLastMark.le_last {mark last : Option EntityId} (isLast : store.IsLastMark mark last) :
    ∀ entity ∈ store.toList, entity.id ≤ last.getD 0 := by
  rcases isLast with ⟨noneBehind, same⟩ | ⟨entity, _, _, same, greatest⟩
  · rwa [same]
  · rwa [same]

theorem ownedBetween_zero (owner : EntityIndex) {last : EntityId}
    (atMost : ∀ entity ∈ store.toList, entity.id ≤ last) :
    store.ownedBetween owns owner 0 last =
      (store.reachableEntities owns).map owner.documentFor := by
  rw [ownedBetween, between, reachableEntities, List.filter_filter]
  refine congrArg (List.map owner.documentFor) (List.filter_congr fun entity stored => ?_)
  have behindZero : decide (0 < entity.id) = (entity.id != 0) := by
    rw [Bool.eq_iff_iff, decide_eq_true_iff, bne_iff_ne, UInt64.pos_iff_ne_zero]
  simp [behindZero, atMost entity stored]

/-- Nothing that a scan brings has the identifier zero. -/
theorem mem_caughtUp_of_zero {mark reached : EntityId} {current : List EntityDocument}
    {document : EntityDocument} (isZero : document.id = 0) :
    document ∈ store.caughtUp owns owner mark reached current ↔ document ∈ current := by
  have notBrought : ∀ other ∈ store.ownedBetween owns owner mark reached, other.id ≠ 0 := by
    intro other inside
    exact UInt64.pos_iff_ne_zero.1 (UInt64.lt_of_le_of_lt UInt64.zero_le
      (id_of_mem_ownedBetween inside).1)
  rw [caughtUp, mem_overlay, isZero]
  constructor
  · rintro (brought | ⟨present, _⟩)
    · exact absurd isZero (notBrought document brought)
    · exact present
  · exact fun present => Or.inr ⟨present, notBrought⟩

end EntityStore

namespace IndexingBatch

variable {store : EntityStore} {owns : ProjectId → Bool} {owner : EntityIndex}
  {version : Option UInt64} {mark reached : Option EntityId} {current : List EntityDocument}
  {batch : IndexingBatch} {now : IndexContent}

theorem Scanned.entities
    (scanned : Scanned store owns owner version mark current batch now reached) :
    ((now.ofKind .entity).map (·.document)).Perm
      ((store.caughtUp owns owner (mark.getD 0) (reached.getD 0) current).map (·.document)) := by
  obtain ⟨chronicle, _, _, describes⟩ := scanned.described
  obtain ⟨configuration, accepted⟩ := describes.accepted
  exact describes.shown.ofKind accepted describes.ordinary .entity

/-- After a start that builds the index anew, a scan ends with the documents of the owned
entities with a positive identifier, whatever the size of the batches. -/
theorem scan_of_fresh_index (owner : EntityIndex) {index : LocalIndex}
    (free : index.directory ≠ .blocked)
    (stale : LocalIndex.storedVersion? owner.layout index.directory ≠
      some owner.configuration.version)
    (positive : 0 < owner.settings.indexing.batchSize) (store : EntityStore)
    (owns : ProjectId → Bool) (tally : IndexTally) :
    let whole := (start (index.start owner.spec).1 tally [.scan]).run owner (store.source owns)
      (stepBound 1 store.size)
    whole.phase = .ended (.ok ()) ∧
      ∃ now, whole.index.directory.openFor owner.layout = .ok now ∧
        ((now.ofKind .entity).map (·.document)).Perm
          ((store.reachableEntities owns).map fun entity =>
            (owner.documentFor entity).document) := by
  intro whole
  have fresh : LocalIndex.EndsCurrent owner.configuration owner.configuration.version _
      (index.start owner.spec).1 _ := LocalIndex.endsCurrent_of_stale free stale
  have opened := IndexDirectory.openFor_readable fresh.sameLayout
  rw [← fresh.readable] at opened
  have describes : Chronicle.DescribesAs ⟨some owner.configuration.version, []⟩ _ [] :=
    ⟨⟨owner.configuration, rfl⟩, by simp [Chronicle.IsOrdinary],
      IndexSpec.shows_rebuilt owner.configuration owner.configuration.version⟩
  have begun : Scanned store owns owner (some owner.configuration.version) none []
      (start (index.start owner.spec).1 tally [.scan]) _ none :=
    scanned_start owner opened describes store owns tally
  -- the scan has come to the greatest identifier, so its interval holds all positive ones
  obtain ⟨ended, now, last, scanned, isLast⟩ := begun.ends positive
  refine ⟨ended, now, scanned.opened, ?_⟩
  have entities := scanned.entities
  rwa [EntityStore.caughtUp, overlay, List.filter_nil, List.nil_append, Option.getD_none,
    EntityStore.ownedBetween_zero owner isLast.le_last, List.map_map] at entities

/-- No scan of any index brings or takes a document whose identifier is zero. -/
theorem scan_leaves_zero (owner : EntityIndex) {chronicle : Chronicle} {index : LocalIndex}
    (opened : index.directory.openFor owner.layout = .ok now)
    (describes : chronicle.DescribesAs now current)
    (positive : 0 < owner.settings.indexing.batchSize) (store : EntityStore)
    (owns : ProjectId → Bool) (tally : IndexTally) (steps : Nat) :
    let scan := (start index tally [.scan]).run owner (store.source owns) steps
    ∃ later mark documents, scan.index.directory.openFor owner.layout = .ok later ∧
      later.Consists chronicle.version mark documents ∧
      ∀ document, document.id = 0 → (document ∈ documents ↔ document ∈ current) := by
  intro scan
  obtain ⟨later, mark, scanned⟩ :=
    (scanned_start owner opened describes store owns tally).run positive steps
  exact ⟨later, mark, _, scanned.opened, scanned.consists,
    fun document isZero => EntityStore.mem_caughtUp_of_zero isZero⟩

/-- Of the issues zero and one, the first scan of a fresh index brings only the second. -/
theorem issue_zero_is_left_out :
    let owner := IndexLife.issueOwner
    let store := (EntityStore.empty.save ⟨0, 1, []⟩).save ⟨1, 1, []⟩
    ∃ now, ((start ((LocalIndex.closed .missing).start owner.spec).1 IndexTally.zero [.scan]).run
        owner (store.source (· == 1)) (stepBound 1 store.size)).index.directory.openFor
          owner.layout = .ok now ∧
      ((now.ofKind .entity).map (·.document)).Perm
        [(owner.documentFor ⟨1, 1, []⟩).document] := by
  intro owner store
  have free : (LocalIndex.closed .missing).directory ≠ .blocked := nofun
  have stale : LocalIndex.storedVersion? owner.layout (LocalIndex.closed .missing).directory ≠
      some owner.configuration.version := by
    decide +kernel
  exact (scan_of_fresh_index owner free stale (by decide) store (· == 1) IndexTally.zero).2

end IndexingBatch

end EntitySearch
