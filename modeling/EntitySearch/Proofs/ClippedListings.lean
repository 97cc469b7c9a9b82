import EntitySearch.Proofs.RankedMerge

/-!
# Clipped listings

A node lists its hits with the better scores first; among equal scores its order
is its own.  When every node clips its listing at the end of a page, the pages
are slices of one ranking exactly if every hit of the ranking stands, on some
node, no further from the front than in the ranking.
-/

namespace EntitySearch

/-- A listing has every entity once, its scores are numbers, and the better ones come
first. -/
structure IsListing (hits : List ScoredHit) : Prop where
  distinct : (hits.map (·.1)).Nodup
  numbers : AreNumbers hits
  descending : hits.Pairwise fun earlier later => later.2.rank ≤ earlier.2.rank

def clipped (size : Nat) (nodes : List (List ScoredHit)) : List ScoredHit :=
  nodes.flatMap (·.take size)

/-- Some node lists the hit at the place or before it. -/
def StandsWithin (nodes : List (List ScoredHit)) (place : Nat) (hit : ScoredHit) : Prop :=
  ∃ node ∈ nodes, hit ∈ node.take (place + 1)

/-- Every hit of a ranking stands within its place on some node. -/
def IsCovered (nodes : List (List ScoredHit)) (ranked : List ScoredHit) (limit : Nat) : Prop :=
  ∀ place hit, place < limit → ranked[place]? = some hit → StandsWithin nodes place hit

theorem mem_clipped {size : Nat} {nodes : List (List ScoredHit)} {hit : ScoredHit} :
    hit ∈ clipped size nodes ↔ ∃ node ∈ nodes, hit ∈ node.take size :=
  List.mem_flatMap

theorem clipped_subset {size limit : Nat} (within : size ≤ limit)
    (nodes : List (List ScoredHit)) : clipped size nodes ⊆ clipped limit nodes := by
  intro hit inside
  obtain ⟨node, isNode, isNear⟩ := mem_clipped.1 inside
  exact mem_clipped.2 ⟨node, isNode, (List.take_subset_take_left node within) isNear⟩

theorem StandsWithin.mem_clipped {nodes : List (List ScoredHit)} {place size : Nat}
    {hit : ScoredHit} (stands : StandsWithin nodes place hit) (within : place < size) :
    hit ∈ clipped size nodes := by
  obtain ⟨node, isNode, isNear⟩ := stands
  exact EntitySearch.mem_clipped.2
    ⟨node, isNode, (List.take_subset_take_left node within) isNear⟩

/-- A hit of a ranking that is not clipped away leaves the front of the ranking as it is. -/
theorem take_eq_of_isCovered {nodes : List (List ScoredHit)} {ranked front : List ScoredHit}
    {size limit : Nat} (whole : IsRanking (clipped limit nodes) ranked)
    (part : IsRanking (clipped size nodes) front) (within : size ≤ limit)
    (covered : IsCovered nodes ranked limit) : front.take size = ranked.take size := by
  refine whole.take_eq part (clipped_subset within nodes) fun hit isNear => ?_
  obtain ⟨place, atPlace⟩ := List.mem_iff_getElem?.1 isNear
  rw [List.getElem?_take] at atPlace
  split at atPlace
  · rename_i inside
    exact (covered place hit (by omega) atPlace).mem_clipped inside
  · cases atPlace

/-- In a ranking, hits with a better score than one near the front are near the front too. -/
theorem IsRanking.mem_take_of_better {reported ranked : List ScoredHit}
    (ranks : IsRanking reported ranked) {size : Nat} {hit better : ScoredHit}
    (isNear : hit ∈ ranked.take size) (isRanked : better ∈ ranked)
    (above : hit.2.rank < better.2.rank) : better ∈ ranked.take size := by
  have sorted := ranks.sorted
  rw [← List.take_append_drop size ranked] at sorted isRanked
  rcases List.mem_append.1 isRanked with near | behind
  · exact near
  · have before := (List.pairwise_append.1 sorted).2.2 hit isNear better behind
    have notBelow := rank_le_of_ranksBefore before
    omega

/-- A hit that a listing has further back has as many hits before it that are not worse. -/
theorem IsListing.rank_le_of_take {listing : List ScoredHit} (lists : IsListing listing)
    {size : Nat} {hit earlier : ScoredHit} (inside : hit ∈ listing)
    (notNear : hit ∉ listing.take size) (isNear : earlier ∈ listing.take size) :
    hit.2.rank ≤ earlier.2.rank := by
  have descending := lists.descending
  rw [← List.take_append_drop size listing] at descending inside
  rcases List.mem_append.1 inside with near | behind
  · exact absurd near notNear
  · exact (List.pairwise_append.1 descending).2.2 earlier isNear hit behind

theorem length_take_of_not_mem {listing : List ScoredHit} {hit : ScoredHit} {size : Nat}
    (inside : hit ∈ listing) (notNear : hit ∉ listing.take size) :
    (listing.take size).length = size := by
  rw [List.length_take]
  rcases Nat.lt_or_ge listing.length size with short | enough
  · rw [List.take_of_length_le (Nat.le_of_lt short)] at notNear
    exact absurd inside notNear
  · exact Nat.min_eq_left enough

theorem IsListing.nodup_take {listing : List ScoredHit} (lists : IsListing listing)
    {hit : ScoredHit} (inListing : hit ∈ listing) {size : Nat}
    (notNear : hit ∉ listing.take size) : (hit.1 :: (listing.take size).map (·.1)).Nodup := by
  refine List.nodup_cons.2 ⟨fun isEarlier => ?_,
    lists.distinct.sublist ((List.take_sublist _ _).map _)⟩
  obtain ⟨earlier, inEarlier, sameId⟩ := List.mem_map.1 isEarlier
  have same := List.inj_on_of_nodup_map lists.distinct (List.mem_of_mem_take inEarlier)
    inListing sameId
  exact notNear (same ▸ inEarlier)

/-- If the clipped listings yield the same entities up to a place, then the hit at the place
stands within it on some node. -/
theorem standsWithin_of_same_entities {nodes : List (List ScoredHit)}
    (listings : ∀ node ∈ nodes, IsListing node) {ranked front : List ScoredHit}
    {place limit : Nat} (whole : IsRanking (clipped limit nodes) ranked)
    (part : IsRanking (clipped (place + 1) nodes) front) (within : place < limit)
    (sameEntities : (front.take (place + 1)).map (·.1) = (ranked.take (place + 1)).map (·.1))
    {hit : ScoredHit} (atPlace : ranked[place]? = some hit) : StandsWithin nodes place hit := by
  by_contra outside
  have inRanked : hit ∈ ranked := List.mem_of_getElem? atPlace
  have bestReported := (whole.members hit).1 inRanked
  obtain ⟨listing, isNode, isClipped⟩ := mem_clipped.1 bestReported.1
  have inListing := List.mem_of_mem_take isClipped
  have lists := listings listing isNode
  have notNear : hit ∉ listing.take (place + 1) :=
    fun near => outside ⟨listing, isNode, near⟩
  -- The entity is in front of the clipped ranking, but only with a worse score.
  have inEntities : hit.1 ∈ (ranked.take (place + 1)).map (·.1) := by
    refine List.mem_map.2 ⟨hit, ?_, rfl⟩
    refine List.mem_iff_getElem?.2 ⟨place, ?_⟩
    rw [List.getElem?_take_of_lt (Nat.lt_succ_self place)]
    exact atPlace
  rw [← sameEntities] at inEntities
  obtain ⟨worse, worseNear, sameEntity⟩ := List.mem_map.1 inEntities
  have worseBest := (part.members worse).1 (List.mem_of_mem_take worseNear)
  have worseReported : worse ∈ clipped limit nodes := clipped_subset within nodes worseBest.1
  have notBetter := bestReported.2 worse worseReported sameEntity
  have isWorse : worse.2.rank < hit.2.rank := by
    rcases Int.lt_or_eq_of_le notBetter with below | equal
    · exact below
    · have same : worse = hit := Prod.ext sameEntity (Numeric.Single.eq_of_rank_eq equal)
      rw [same] at worseBest
      exact absurd (mem_clipped.1 worseBest.1) outside
  -- All that the listing has before the hit is in front of it too, and that is too much.
  have earlierInFront : ∀ earlier ∈ listing.take (place + 1),
      earlier.1 ∈ (front.take (place + 1)).map (·.1) := by
    intro earlier isEarlier
    obtain ⟨best, inFront, sameId⟩ :=
      part.complete earlier (mem_clipped.2 ⟨listing, isNode, isEarlier⟩)
    have notWorse := lists.rank_le_of_take inListing notNear isEarlier
    have bestFront := (part.members best).1 inFront
    have atLeast := bestFront.2 earlier (mem_clipped.2 ⟨listing, isNode, isEarlier⟩) sameId.symm
    have bestNear := part.mem_take_of_better worseNear inFront (by omega)
    exact List.mem_map.2 ⟨best, bestNear, sameId⟩
  have long := length_take_of_not_mem inListing notNear
  have allInFront : hit.1 :: (listing.take (place + 1)).map (·.1) ⊆
      (front.take (place + 1)).map (·.1) := by
    intro id inside
    rcases List.mem_cons.1 inside with same | isEarlier
    · rw [same, ← sameEntity]
      exact List.mem_map_of_mem worseNear
    · obtain ⟨earlier, inEarlier, sameId⟩ := List.mem_map.1 isEarlier
      rw [← sameId]
      exact earlierInFront earlier inEarlier
  have tooMany :=
    (List.subperm_of_subset (lists.nodup_take inListing notNear) allInFront).length_le
  simp only [List.length_cons, List.length_map, long, List.length_take] at tooMany
  omega

def entitiesOn (ranked : List ScoredHit) (offset count : Nat) : List EntityId :=
  ((ranked.drop offset).take count).map (·.1)

theorem entitiesOn_zero (ranked : List ScoredHit) (offset : Nat) :
    entitiesOn ranked offset 0 = [] := by
  rw [entitiesOn, List.take_zero, List.map_nil]

theorem entitiesOn_eq (ranked : List ScoredHit) (offset count : Nat) :
    entitiesOn ranked offset count =
      ((ranked.take (offset + count)).drop offset).map (·.1) := by
  rw [entitiesOn, List.drop_take, Nat.add_sub_cancel_left]

/-- The pages that are made of clipped listings are slices of one list exactly if the
ranking is covered. -/
theorem slices_iff_isCovered {nodes : List (List ScoredHit)}
    (listings : ∀ node ∈ nodes, IsListing node) {limit : Nat} {ranked : Nat → List ScoredHit}
    (ranks : ∀ size, 0 < size → size ≤ limit →
      IsRanking (clipped size nodes) (ranked size)) :
    (∀ offset count size, offset + count ≤ size → size ≤ limit →
        entitiesOn (ranked (offset + count)) offset count =
          ((entitiesOn (ranked size) 0 size).drop offset).take count) ↔
      IsCovered nodes (ranked limit) limit := by
  constructor
  · intro slices place hit within atPlace
    have page := slices 0 (place + 1) limit (by omega) (Nat.le_refl limit)
    have sameEntities : ((ranked (place + 1)).take (place + 1)).map (·.1) =
        ((ranked limit).take (place + 1)).map (·.1) := by
      rw [entitiesOn_eq, entitiesOn_eq, Nat.zero_add, Nat.zero_add, List.drop_zero,
        List.drop_zero, List.drop_zero, ← List.map_take, List.take_take,
        Nat.min_eq_left within] at page
      exact page
    exact standsWithin_of_same_entities listings (ranks limit (by omega) (Nat.le_refl limit))
      (ranks (place + 1) (Nat.succ_pos place) within) within sameEntities atPlace
  · intro covered offset count size inside within
    rcases Nat.eq_zero_or_pos count with none | some
    · rw [none, entitiesOn_zero, List.take_zero]
    · have whole := ranks limit (by omega) (Nat.le_refl limit)
      have pageFront := take_eq_of_isCovered whole
        (ranks (offset + count) (by omega) (by omega)) (by omega) covered
      have listFront := take_eq_of_isCovered whole (ranks size (by omega) within) within covered
      calc
        entitiesOn (ranked (offset + count)) offset count =
            (((ranked (offset + count)).take (offset + count)).drop offset).map (·.1) :=
          entitiesOn_eq _ _ _
        _ = (((ranked limit).take (offset + count)).drop offset).map (·.1) := by
          rw [pageFront]
        _ = ((((ranked limit).take size).take (offset + count)).drop offset).map (·.1) := by
          rw [List.take_take, Nat.min_eq_left inside]
        _ = ((entitiesOn (ranked size) 0 size).drop offset).take count := by
          rw [entitiesOn, List.drop_zero, listFront, ← List.map_drop, ← List.map_take,
            List.drop_take, Nat.add_sub_cancel_left]

theorem IsRanking.mem_take_of_before {reported ranked : List ScoredHit}
    (ranks : IsRanking reported ranked) {place : Nat} {hit earlier : ScoredHit}
    (atPlace : ranked[place]? = some hit) (isRanked : earlier ∈ ranked)
    (before : ranksBefore earlier hit = true) (different : earlier ≠ hit) :
    earlier ∈ ranked.take place := by
  obtain ⟨inside, isHit⟩ := List.getElem?_eq_some_iff.1 atPlace
  have sorted := ranks.sorted
  rw [← List.take_append_drop place ranked] at sorted isRanked
  rcases List.mem_append.1 isRanked with isNear | behind
  · exact isNear
  · have behindSorted := (List.pairwise_append.1 sorted).2.1
    rw [List.drop_eq_getElem_cons inside, isHit] at behindSorted behind
    rcases List.mem_cons.1 behind with same | later
    · exact absurd same different
    · have after := (List.pairwise_cons.1 behindSorted).1 earlier later
      exact absurd (ranksBefore_antisymm before after) different

/-- Where every listing has equal scores in ascending order of the entities, nothing of a
ranking is clipped away. -/
theorem isCovered_of_sorted {nodes : List (List ScoredHit)}
    (sorted : ∀ node ∈ nodes,
      node.Pairwise fun earlier later => ranksBefore earlier later = true)
    (listings : ∀ node ∈ nodes, IsListing node) {ranked : List ScoredHit} {limit : Nat}
    (whole : IsRanking (clipped limit nodes) ranked) : IsCovered nodes ranked limit := by
  intro place hit within atPlace
  have bestReported := (whole.members hit).1 (List.mem_of_getElem? atPlace)
  obtain ⟨listing, isNode, isClipped⟩ := mem_clipped.1 bestReported.1
  refine ⟨listing, isNode, ?_⟩
  by_contra notNear
  have lists := listings listing isNode
  have inListing := List.mem_of_mem_take isClipped
  have long := length_take_of_not_mem inListing notNear
  have allBefore : (listing.take (place + 1)).map (·.1) ⊆ (ranked.take place).map (·.1) := by
    intro id inside
    obtain ⟨earlier, isEarlier, sameId⟩ := List.mem_map.1 inside
    have isReported : earlier ∈ clipped limit nodes :=
      clipped_subset within nodes (mem_clipped.2 ⟨listing, isNode, isEarlier⟩)
    obtain ⟨best, isRanked, sameEntity⟩ := whole.complete earlier isReported
    have notWorse := ((whole.members best).1 isRanked).2 earlier isReported sameEntity.symm
    have behindEarlier : ranksBefore earlier hit = true := by
      have nodeSorted := sorted listing isNode
      rw [← List.take_append_drop (place + 1) listing] at nodeSorted inListing
      rcases List.mem_append.1 inListing with isNear | behind
      · exact absurd isNear notNear
      · exact (List.pairwise_append.1 nodeSorted).2.2 earlier isEarlier hit behind
    have differentEntity : best.1 ≠ hit.1 := by
      intro same
      have sameHit := List.inj_on_of_nodup_map lists.distinct (List.mem_of_mem_take isEarlier)
        (List.mem_of_mem_take isClipped) (sameEntity.symm.trans same)
      exact notNear (sameHit ▸ isEarlier)
    have before := ranksBefore_trans _ _ _
      (ranksBefore_of_same_entity sameEntity notWorse) behindEarlier
    have isNear := whole.mem_take_of_before atPlace isRanked before
      (fun same => differentEntity (congrArg Prod.fst same))
    exact List.mem_map.2 ⟨best, isNear, sameEntity.trans sameId⟩
  have distinctEntities := (List.nodup_cons.1 (lists.nodup_take inListing notNear)).2
  have tooMany := (List.subperm_of_subset distinctEntities allBefore).length_le
  simp only [List.length_map, long, List.length_take] at tooMany
  omega

end EntitySearch
