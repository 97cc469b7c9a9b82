import EntitySearch.Service.IndexingBatch

/-!
# Reading a store in order

A store holds the last version of every entity that was saved, and lists them in
ascending order of their identifiers.  What a fetch takes from behind a mark is
therefore everything up to the last identifier of the fetch, and the ranges of
successive fetches join.
-/

namespace EntitySearch

namespace EntityStore

/-- What a batch reads as long as the store and the ownership stay the same. -/
def source (store : EntityStore) (owns : ProjectId → Bool) : EntitySource where
  load id := .ok (store.load id)
  queryAfter mark limit := .ok (store.queryAfter mark limit)
  owns := owns

theorem id_of_load {store : EntityStore} {id : EntityId} {entity : Entity}
    (loaded : store.load id = some entity) : entity.id = id :=
  store.keyed (id, entity) (store.table.mem_entries_iff.2 loaded)

theorem load_of_mem {store : EntityStore} {entity : Entity} (stored : entity ∈ store.toList) :
    store.load entity.id = some entity := by
  obtain ⟨⟨key, value⟩, inside, rfl⟩ := List.mem_map.1 stored
  have sameKey : value.id = key := store.keyed (key, value) inside
  have found := store.table.mem_entries_iff.1 inside
  rw [← sameKey] at found
  exact found

theorem mem_toList_of_load {store : EntityStore} {id : EntityId} {entity : Entity}
    (loaded : store.load id = some entity) : entity ∈ store.toList :=
  List.mem_map_of_mem (f := Prod.snd) (store.table.mem_entries_iff.2 loaded)

theorem load_save_self (store : EntityStore) (entity : Entity) :
    (store.save entity).load entity.id = some entity :=
  Table.get?_set_self _ _ _

theorem load_save_of_ne (store : EntityStore) {entity : Entity} {id : EntityId}
    (different : id ≠ entity.id) : (store.save entity).load id = store.load id :=
  Table.get?_set_of_ne _ different _

theorem ascending_toList (store : EntityStore) :
    store.toList.Pairwise fun first second => first.id < second.id := by
  rw [toList, Table.values, List.pairwise_map]
  refine store.table.ascending.imp_of_mem fun {first second} inFirst inSecond below => ?_
  rw [store.keyed first inFirst, store.keyed second inSecond]
  exact below

/-- The entities whose identifiers are greater than one and at most the other. -/
def between (store : EntityStore) (mark reached : EntityId) : List Entity :=
  store.toList.filter fun entity => decide (mark < entity.id) && decide (entity.id ≤ reached)

theorem mem_between {store : EntityStore} {mark reached : EntityId} {entity : Entity} :
    entity ∈ store.between mark reached ↔
      entity ∈ store.toList ∧ mark < entity.id ∧ entity.id ≤ reached := by
  simp [between]

theorem filter_le_append_filter_lt {entities : List Entity}
    (ascending : entities.Pairwise fun first second => first.id < second.id) (middle : EntityId) :
    entities.filter (fun entity => decide (entity.id ≤ middle)) ++
      entities.filter (fun entity => decide (middle < entity.id)) = entities := by
  induction entities with
  | nil => rfl
  | cons entity entities ih =>
      obtain ⟨below, laterAscending⟩ := List.pairwise_cons.1 ascending
      by_cases inside : entity.id ≤ middle
      · have notAbove : ¬ middle < entity.id := UInt64.not_lt.2 inside
        simp [inside, notAbove, ih laterAscending]
      · have above := UInt64.not_le.1 inside
        have noneInside : entities.filter (fun entity => decide (entity.id ≤ middle)) = [] := by
          rw [List.filter_eq_nil_iff]
          intro later isLater
          have := UInt64.lt_trans above (below later isLater)
          simpa using this
        have allAbove : entities.filter (fun entity => decide (middle < entity.id)) = entities := by
          rw [List.filter_eq_self]
          intro later isLater
          simpa using UInt64.lt_trans above (below later isLater)
        simp [inside, above, noneInside, allAbove]

theorem between_append_between (store : EntityStore) {mark middle reached : EntityId}
    (first : mark ≤ middle) (second : middle ≤ reached) :
    store.between mark middle ++ store.between middle reached = store.between mark reached := by
  have ascending : (store.between mark reached).Pairwise fun first second =>
      first.id < second.id := store.ascending_toList.filter _
  rw [← filter_le_append_filter_lt ascending middle]
  simp only [between, List.filter_filter]
  congr 1
  · apply List.filter_congr
    intro entity _
    rw [Bool.eq_iff_iff]
    simp only [Bool.and_eq_true, decide_eq_true_eq]
    constructor
    · rintro ⟨above, inside⟩
      exact ⟨inside, above, UInt64.le_trans inside second⟩
    · rintro ⟨inside, above, _⟩
      exact ⟨above, inside⟩
  · apply List.filter_congr
    intro entity _
    rw [Bool.eq_iff_iff]
    simp only [Bool.and_eq_true, decide_eq_true_eq]
    constructor
    · rintro ⟨above, inside⟩
      exact ⟨above, UInt64.lt_of_le_of_lt first above, inside⟩
    · rintro ⟨above, _, inside⟩
      exact ⟨above, inside⟩

/-- The number of entities whose identifiers are greater than a mark. -/
def remaining (store : EntityStore) (mark : EntityId) : Nat :=
  store.toList.countP fun entity => mark < entity.id

/-- Nothing that is behind a stored entity is forgotten, and the entity itself is passed. -/
theorem remaining_lt (store : EntityStore) {mark : EntityId} {entity : Entity}
    (stored : entity ∈ store.toList) (above : mark < entity.id) :
    store.remaining entity.id < store.remaining mark := by
  have ascending : (store.toList.filter fun other => decide (mark < other.id)).Pairwise
      fun first second => first.id < second.id := store.ascending_toList.filter _
  have split := congrArg List.length (filter_le_append_filter_lt ascending entity.id)
  have behind : (store.toList.filter fun other => decide (mark < other.id)).filter
      (fun other => decide (entity.id < other.id)) =
        store.toList.filter fun other => decide (entity.id < other.id) := by
    rw [List.filter_filter]
    apply List.filter_congr
    intro other _
    rw [Bool.eq_iff_iff]
    simp only [Bool.and_eq_true, decide_eq_true_eq]
    exact ⟨And.left, fun further => ⟨further, UInt64.lt_trans above further⟩⟩
  have passed : 0 < ((store.toList.filter fun other => decide (mark < other.id)).filter
      fun other => decide (other.id ≤ entity.id)).length := by
    apply List.length_pos_of_mem (a := entity)
    simpa using ⟨stored, above⟩
  rw [List.length_append, behind] at split
  simp only [remaining, List.countP_eq_length_filter]
  omega

theorem remaining_le_size (store : EntityStore) (mark : EntityId) :
    store.remaining mark ≤ store.size := by
  have bound := List.countP_le_length (p := fun entity : Entity => mark < entity.id)
    (l := store.toList)
  simpa [remaining, size, toList, Table.values, Table.size] using bound

end EntityStore

namespace IndexingBatch

open EntityStore

theorem larger_id (last id : EntityId) : max last id = if last ≤ id then id else last := rfl

/-- A running maximum is attained, and it is above where it started and above every entity. -/
theorem foldl_max_id (fetched : List Entity) (start : EntityId) :
    let last := fetched.foldl (fun last entity => max last entity.id) start
    start ≤ last ∧ (∀ entity ∈ fetched, entity.id ≤ last) ∧
      (last = start ∨ ∃ entity ∈ fetched, entity.id = last) := by
  induction fetched generalizing start with
  | nil => simp
  | cons entity fetched ih =>
      obtain ⟨aboveLarger, aboveAll, attained⟩ := ih (max start entity.id)
      have larger := larger_id start entity.id
      have bounds : start ≤ max start entity.id ∧ entity.id ≤ max start entity.id ∧
          (max start entity.id = start ∨ max start entity.id = entity.id) := by
        rw [larger]
        split
        case isTrue below => exact ⟨below, UInt64.le_refl _, Or.inr rfl⟩
        case isFalse above =>
          exact ⟨UInt64.le_refl _, UInt64.le_of_lt (UInt64.not_le.1 above), Or.inl rfl⟩
      obtain ⟨startBelow, entityBelow, either⟩ := bounds
      refine ⟨UInt64.le_trans startBelow aboveLarger, ?_, ?_⟩
      · intro other inside
        rcases List.mem_cons.1 inside with here | later
        · rw [here]
          exact UInt64.le_trans entityBelow aboveLarger
        · exact aboveAll other later
      · rcases attained with atStart | ⟨other, later, same⟩
        · rcases either with isStart | isEntity
          · exact Or.inl (atStart.trans isStart)
          · exact Or.inr ⟨entity, List.mem_cons_self, (atStart.trans isEntity).symm⟩
        · exact Or.inr ⟨other, List.mem_cons_of_mem _ later, same⟩

theorem le_lastId {fetched : List Entity} {entity : Entity} (inside : entity ∈ fetched) :
    entity.id ≤ lastId fetched :=
  (foldl_max_id fetched 0).2.1 entity inside

theorem exists_lastId {fetched : List Entity} (found : fetched ≠ []) :
    ∃ entity ∈ fetched, entity.id = lastId fetched := by
  rcases (foldl_max_id fetched 0).2.2 with isZero | attained
  · obtain ⟨entity, later, rfl⟩ := List.exists_cons_of_ne_nil found
    have atMost : entity.id ≤ 0 := by
      have below := le_lastId (List.mem_cons_self (a := entity) (l := later))
      rwa [lastId, isZero] at below
    refine ⟨entity, List.mem_cons_self, ?_⟩
    rw [lastId, isZero]
    exact UInt64.le_antisymm atMost UInt64.zero_le
  · exact attained

/-- What a fetch finds is everything behind the mark up to its last identifier. -/
theorem queryAfter_eq_between (store : EntityStore) (mark : EntityId) (limit : Nat)
    (found : store.queryAfter mark limit ≠ []) :
    store.queryAfter mark limit =
      store.between mark (lastId (store.queryAfter mark limit)) := by
  have behind : (store.toList.filter fun entity => decide (mark < entity.id)).Pairwise
      fun first second => first.id < second.id := store.ascending_toList.filter _
  obtain ⟨last, isFetched, isLast⟩ := exists_lastId found
  have whole := List.take_append_drop limit
    (store.toList.filter fun entity => decide (mark < entity.id))
  have fetched : (store.toList.filter fun entity => decide (mark < entity.id)).take limit =
      store.queryAfter mark limit := rfl
  rw [fetched] at whole
  generalize (store.toList.filter fun entity => decide (mark < entity.id)).drop limit = unfetched
    at whole
  rw [← whole] at behind
  have below := (List.pairwise_append.1 behind).2.2
  have fetchedKept : (store.queryAfter mark limit).filter
      (fun entity => decide (entity.id ≤ lastId (store.queryAfter mark limit))) =
      store.queryAfter mark limit := by
    rw [List.filter_eq_self]
    intro entity inside
    simpa using le_lastId inside
  have unfetchedLeft : unfetched.filter
      (fun entity => decide (entity.id ≤ lastId (store.queryAfter mark limit))) = [] := by
    rw [List.filter_eq_nil_iff]
    intro entity inside
    have above := below last isFetched entity inside
    rw [isLast] at above
    simpa using above
  calc
    store.queryAfter mark limit =
        (store.queryAfter mark limit ++ unfetched).filter
          (fun entity => decide (entity.id ≤ lastId (store.queryAfter mark limit))) := by
      rw [List.filter_append, fetchedKept, unfetchedLeft, List.append_nil]
    _ = store.between mark (lastId (store.queryAfter mark limit)) := by
      rw [whole, List.filter_filter, between]
      apply List.filter_congr
      intro entity _
      exact Bool.and_comm _ _

theorem mem_queryAfter_of_short (store : EntityStore) {mark : EntityId} {limit : Nat}
    (short : (store.queryAfter mark limit).length < limit) {entity : Entity}
    (stored : entity ∈ store.toList) (above : mark < entity.id) :
    entity ∈ store.queryAfter mark limit := by
  have behind : entity ∈ store.toList.filter fun entity => decide (mark < entity.id) := by
    simpa using ⟨stored, above⟩
  rw [EntityStore.queryAfter, List.length_take] at short
  rw [EntityStore.queryAfter, List.take_of_length_le (by omega)]
  exact behind

theorem lt_lastId (store : EntityStore) {mark : EntityId} {limit : Nat}
    (found : store.queryAfter mark limit ≠ []) :
    mark < lastId (store.queryAfter mark limit) := by
  obtain ⟨entity, inside, isLast⟩ := exists_lastId found
  rw [queryAfter_eq_between store mark limit found] at inside
  rw [← isLast]
  exact (mem_between.1 inside).2.1

theorem le_mark_of_nil (store : EntityStore) {mark : EntityId} {limit : Nat}
    (positive : 0 < limit) (none : store.queryAfter mark limit = []) :
    ∀ entity ∈ store.toList, entity.id ≤ mark := by
  intro entity stored
  refine UInt64.not_lt.1 fun above => ?_
  have short : (store.queryAfter mark limit).length < limit := by
    rw [none]
    exact positive
  have fetched := mem_queryAfter_of_short store short stored above
  rw [none] at fetched
  cases fetched

/-- A short fetch comes to the end of the store. -/
theorem le_lastId_of_short (store : EntityStore) {mark : EntityId} {limit : Nat}
    (found : store.queryAfter mark limit ≠ [])
    (short : (store.queryAfter mark limit).length < limit) :
    ∀ entity ∈ store.toList, entity.id ≤ lastId (store.queryAfter mark limit) := by
  intro entity stored
  refine UInt64.not_lt.1 fun further => ?_
  have above := UInt64.lt_trans (lt_lastId store found) further
  exact absurd further (UInt64.not_lt.2
    (le_lastId (mem_queryAfter_of_short store short stored above)))

end IndexingBatch

end EntitySearch
