import EntitySearch.Cluster.Coordination
import EntitySearch.Proofs.ClippedListings

/-!
# The ranking of all nodes

Each node has a ranking of its own hits, and the ranking of all nodes has every
entity once, with its best score.  To find a page of the latter it is enough that
each node answers with its own first hits, as many as the page and all pages
before it hold.  The best score of an entity may then be cut away on one node
while a worse score of the entity arrives from another; so many hits stand before
the entity on the first node that it belongs behind the page either way.  Zeros of
both signs for one entity spoil this: merging may keep either of them, and the
ranking tells them apart.
-/

namespace EntitySearch

open Numeric (Single)

/-- A node that is asked for so many hits answers with the first ones of its own: the better
scores come first, and among equal scores the smaller identifiers. -/
def IsFront (size : Nat) (own front : ScoredEntities) : Prop :=
  ∃ listing : List ScoredHit, listing.Perm own.entries ∧
    (listing.Pairwise fun earlier later => ranksBefore earlier later = true) ∧
    ∀ hit, hit ∈ front.entries ↔ hit ∈ listing.take size

/-- Among the answers are these hits, one answer for each node, and none with other hits. -/
def BringsFronts (answers : List ClusterResponse) (fronts : List ScoredEntities) : Prop :=
  ∃ others : List ClusterResponse, answers.Perm (fronts.map .scores ++ others) ∧
    ∀ other ∈ others, ∀ hits, other ≠ .scores hits

/-- An answer without scores contributes nothing. -/
theorem hits_eq_nil {answer : ClusterResponse} (unscored : ∀ hits, answer ≠ .scores hits) :
    answer.hits = [] := by
  cases answer with
  | count number => rfl
  | scores hits => exact absurd rfl (unscored hits)
  | done => rfl

theorem BringsFronts.mem_hits_iff {answers : List ClusterResponse}
    {fronts : List ScoredEntities} (brings : BringsFronts answers fronts) (hit : ScoredHit) :
    hit ∈ answers.flatMap ClusterResponse.hits ↔ ∃ front ∈ fronts, hit ∈ front.entries := by
  obtain ⟨others, same, unscored⟩ := brings
  simp only [List.mem_flatMap, same.mem_iff, List.mem_append, List.mem_map]
  constructor
  · rintro ⟨answer, ⟨front, isFront, rfl⟩ | isOther, inside⟩
    · exact ⟨front, isFront, inside⟩
    · rw [hits_eq_nil (unscored answer isOther)] at inside
      cases inside
  · rintro ⟨front, isFront, inside⟩
    exact ⟨.scores front, Or.inl ⟨front, isFront, rfl⟩, inside⟩

/-- A node's own hits in the order of a ranking are a listing. -/
theorem isListing_of_perm {own : ScoredEntities} {listing : List ScoredHit}
    (numbers : AreNumbers own.entries) (same : listing.Perm own.entries)
    (sorted : listing.Pairwise fun earlier later => ranksBefore earlier later = true) :
    IsListing listing where
  distinct := ((same.map (·.1)).nodup_iff).2 own.nodup_keys
  numbers := fun hit inside => numbers hit (same.mem_iff.1 inside)
  descending := sorted.imp rank_le_of_ranksBefore

/-- The listings whose fronts the nodes answer with. -/
theorem exists_listings {size : Nat} {holdings fronts : List ScoredEntities}
    (answered : List.Forall₂ (IsFront size) holdings fronts)
    (numbers : ∀ own ∈ holdings, AreNumbers own.entries) :
    ∃ nodes : List (List ScoredHit), (∀ node ∈ nodes, IsListing node) ∧
      (∀ node ∈ nodes, node.Pairwise fun earlier later => ranksBefore earlier later = true) ∧
      (∀ hit, hit ∈ nodes.flatten ↔ ∃ own ∈ holdings, hit ∈ own.entries) ∧
      ∀ hit, hit ∈ clipped size nodes ↔ ∃ front ∈ fronts, hit ∈ front.entries := by
  induction answered with
  | nil => exact ⟨[], by simp [clipped]⟩
  | @cons own front holdings fronts isFront _ ih =>
      obtain ⟨listing, same, sorted, atFront⟩ := isFront
      obtain ⟨nodes, listings, allSorted, whole, part⟩ :=
        ih fun other inside => numbers other (List.mem_cons_of_mem _ inside)
      refine ⟨listing :: nodes, ?_, ?_, fun hit => ?_, fun hit => ?_⟩
      · exact List.forall_mem_cons.2
          ⟨isListing_of_perm (numbers own List.mem_cons_self) same sorted, listings⟩
      · exact List.forall_mem_cons.2 ⟨sorted, allSorted⟩
      · simp only [List.flatten_cons, List.mem_append, same.mem_iff, whole, List.mem_cons,
          exists_eq_or_imp]
      · rw [clipped, List.flatMap_cons, List.mem_append, ← atFront hit]
        simp only [List.mem_cons, exists_eq_or_imp]
        exact or_congr_right (part hit)

theorem clipped_of_length_le {size : Nat} {nodes : List (List ScoredHit)}
    (long : nodes.flatten.length ≤ size) : clipped size nodes = nodes.flatten := by
  rw [clipped, List.flatten_eq_flatMap]
  refine List.flatMap_congr fun node isNode => ?_
  have shorter := (List.sublist_flatten_of_mem isNode).length_le
  exact List.take_of_length_le (Nat.le_trans shorter long)

variable {reported kept ranked front : List ScoredHit}

theorem IsRanking.length_le (whole : IsRanking reported ranked) (part : IsRanking kept front)
    (subset : kept ⊆ reported) : front.length ≤ ranked.length := by
  have entities : front.map (·.1) ⊆ ranked.map (·.1) := by
    intro id inside
    obtain ⟨hit, inFront, rfl⟩ := List.mem_map.1 inside
    obtain ⟨best, inRanked, sameEntity⟩ :=
      whole.complete hit (subset ((part.members hit).1 inFront).1)
    exact List.mem_map.2 ⟨best, inRanked, sameEntity⟩
  have shorter := (List.subperm_of_subset part.distinct entities).length_le
  simpa only [List.length_map] using shorter

/-- Two lists with the same front have the same pages within it, and all pages where neither
goes on behind it. -/
theorem entitiesOn_of_take_eq {size offset count : Nat}
    (sameFront : front.take size = ranked.take size)
    (within : offset + count ≤ size ∨ front.length ≤ size ∧ ranked.length ≤ size) :
    entitiesOn front offset count = entitiesOn ranked offset count := by
  rcases within with inside | ⟨short, shortWhole⟩
  · have samePage := congrArg (List.take (offset + count)) sameFront
    rw [List.take_take, List.take_take, Nat.min_eq_left inside] at samePage
    rw [entitiesOn_eq, entitiesOn_eq, samePage]
  · rw [List.take_of_length_le short, List.take_of_length_le shortWhole] at sameFront
    rw [sameFront]

/-- A node of the cluster is asked for all hits up to the end of the page, and the number of
entities that can be told apart is the bound of what it can be asked for. -/
theorem within_windowEnd {offset limit : UInt64}
    (countable : offset.toNat + limit.toNat < UInt64.size ∨ ranked.length < UInt64.size)
    (shorter : front.length ≤ ranked.length) :
    offset.toNat + limit.toNat ≤ (windowEnd offset limit).toNat ∨
      front.length ≤ (windowEnd offset limit).toNat ∧
        ranked.length ≤ (windowEnd offset limit).toNat := by
  unfold windowEnd
  split
  · rename_i inside
    rw [UInt64.toNat_add]
    exact Or.inl (Nat.le_of_eq (Nat.mod_eq_of_lt inside).symm)
  · rename_i outside
    have few := countable.resolve_left outside
    have greatest : (-1 : UInt64).toNat = UInt64.size - 1 := by decide
    rw [greatest]
    omega

/-- The hits of all nodes are comparable if no entity has zeros of both signs. -/
theorem areComparable_of_holdings {holdings : List ScoredEntities}
    (finite : ∀ own ∈ holdings, ∀ hit ∈ own.entries, hit.2.isFinite = true)
    (unmixed : ∀ first ∈ holdings, ∀ second ∈ holdings, ∀ id,
      ¬(first.get? id = some (.ofMagnitude true 0) ∧
        second.get? id = some (.ofMagnitude false 0))) :
    AreComparable (holdings.flatMap (·.entries)) where
  numbers := by
    intro hit inside
    obtain ⟨own, isOwn, isHit⟩ := List.mem_flatMap.1 inside
    exact Single.isNaN_of_isFinite (finite own isOwn hit isHit)
  unmixed := by
    intro first isFirst second isSecond sameEntity firstZero secondZero
    obtain ⟨firstOwn, isFirstOwn, inFirst⟩ := List.mem_flatMap.1 isFirst
    obtain ⟨secondOwn, isSecondOwn, inSecond⟩ := List.mem_flatMap.1 isSecond
    have atFirst := (Table.mem_entries_iff _).1 inFirst
    have atSecond := (Table.mem_entries_iff _).1 inSecond
    rw [← sameEntity, Single.eq_of_magnitude_eq_zero secondZero] at atSecond
    rw [Single.eq_of_magnitude_eq_zero firstZero] at atFirst
    rw [Single.eq_of_magnitude_eq_zero firstZero, Single.eq_of_magnitude_eq_zero secondZero]
    cases firstSign : first.2.negative with
    | false =>
        cases secondSign : second.2.negative with
        | false => rfl
        | true =>
            rw [firstSign] at atFirst
            rw [secondSign] at atSecond
            exact (unmixed _ isSecondOwn _ isFirstOwn first.1 ⟨atSecond, atFirst⟩).elim
    | true =>
        cases secondSign : second.2.negative with
        | false =>
            rw [firstSign] at atFirst
            rw [secondSign] at atSecond
            exact (unmixed _ isFirstOwn _ isSecondOwn first.1 ⟨atFirst, atSecond⟩).elim
        | true => rfl

/-- A page of clipped listings is the page of the ranking that covers them. -/
theorem rankWindow_of_clipped {nodes : List (List ScoredHit)} {limitOfAll : Nat}
    {offset limit : UInt64} {visited : List ScoredHit} {merged : ScoredEntities}
    (whole : IsRanking (clipped limitOfAll nodes) ranked)
    (wide : (windowEnd offset limit).toNat ≤ limitOfAll)
    (covered : IsCovered nodes ranked limitOfAll)
    (visitedHits : ∀ hit, hit ∈ visited ↔ hit ∈ clipped (windowEnd offset limit).toNat nodes)
    (comparable : AreComparable visited) (merges : IsMerge visited merged)
    (countable : offset.toNat + limit.toNat < UInt64.size ∨ ranked.length < UInt64.size) :
    rankWindow merged offset limit = entitiesOn ranked offset.toNat limit.toNat := by
  have part := (merges.isRanking comparable).congr visitedHits
  have sameFront := take_eq_of_isCovered whole part wide covered
  have shorter := whole.length_le part (clipped_subset wide nodes)
  exact entitiesOn_of_take_eq sameFront (within_windowEnd countable shorter)

/-- Whatever finite scores the nodes hold, if no entity has zeros of both signs: there is one
ranking of all hits, and every page of the merged answers is a slice of it when every node
answers with the first of its own hits, as many as the page ends at.  The order in which the
hits are visited does not matter, answers without scores contribute nothing, and neither do
failures.  (A page behind the last number can be asked for only of a ranking that is not longer
than numbers reach.) -/
theorem page_of_fronts_is_slice (holdings : List ScoredEntities)
    (finite : ∀ own ∈ holdings, ∀ hit ∈ own.entries, hit.2.isFinite = true)
    (unmixed : ∀ first ∈ holdings, ∀ second ∈ holdings, ∀ id,
      ¬(first.get? id = some (.ofMagnitude true 0) ∧
        second.get? id = some (.ofMagnitude false 0))) :
    ∃ whole, IsRanking (holdings.flatMap (·.entries)) whole ∧
      ∀ (offset limit : UInt64) (fronts : List ScoredEntities) (answers : List ClusterResponse),
        offset.toNat + limit.toNat < UInt64.size ∨ whole.length < UInt64.size →
        List.Forall₂ (IsFront (windowEnd offset limit).toNat) holdings fronts →
        BringsFronts answers fronts →
          rankWindow (mergeScores answers) offset limit =
              ((whole.drop offset.toNat).take limit.toNat).map (·.1) ∧
            (∀ gathered : Gathered, gathered.responses.values.Perm answers →
              gathered.page offset limit =
                ((whole.drop offset.toNat).take limit.toNat).map (·.1)) ∧
            ∀ visited merged, visited.Perm (answers.flatMap ClusterResponse.hits) →
              IsMerge visited merged →
                rankWindow merged offset limit =
                  ((whole.drop offset.toNat).take limit.toNat).map (·.1) := by
  have comparable := areComparable_of_holdings finite unmixed
  have whole := (isMerge_mergeScores (holdings.map .scores)).isRanking (by
    rw [List.flatMap_map]
    exact comparable)
  rw [List.flatMap_map] at whole
  refine ⟨_, whole, fun offset limit fronts answers countable answered brings => ?_⟩
  generalize ranking (mergeScores (holdings.map ClusterResponse.scores)) = ranked at *
  obtain ⟨nodes, listings, sorted, reported, clippedFronts⟩ := exists_listings answered
    fun own isOwn hit inside =>
      comparable.numbers hit (List.mem_flatMap.2 ⟨own, isOwn, inside⟩)
  let limitOfAll := (windowEnd offset limit).toNat + nodes.flatten.length
  have wholeOfNodes : IsRanking (clipped limitOfAll nodes) ranked := by
    refine whole.congr fun hit => ?_
    rw [clipped_of_length_le (Nat.le_add_left _ _), reported]
    exact List.mem_flatMap
  have covered := isCovered_of_sorted sorted listings wholeOfNodes
  -- The hits are visited in any order, so the page is found for every order at once.
  have pages : ∀ visited merged, visited.Perm (answers.flatMap ClusterResponse.hits) →
      IsMerge visited merged →
        rankWindow merged offset limit = entitiesOn ranked offset.toNat limit.toNat := by
    intro visited merged same merges
    have visitedHits : ∀ hit, hit ∈ visited ↔
        hit ∈ clipped (windowEnd offset limit).toNat nodes := by
      intro hit
      rw [same.mem_iff, brings.mem_hits_iff, clippedFronts]
    refine rankWindow_of_clipped wholeOfNodes (Nat.le_add_right _ _) covered visitedHits
      (comparable.of_subset fun hit inside => ?_) merges countable
    have isListed : hit ∈ nodes.flatten := by
      obtain ⟨node, isNode, isNear⟩ := mem_clipped.1 ((visitedHits hit).1 inside)
      exact List.mem_flatten.2 ⟨node, isNode, List.mem_of_mem_take isNear⟩
    exact List.mem_flatMap.2 ((reported hit).1 isListed)
  refine ⟨pages _ _ (List.Perm.refl _) (isMerge_mergeScores answers), fun gathered same => ?_,
    pages⟩
  exact pages _ _ (same.flatMap_right _) (isMerge_mergeScores _)

/-- A node holds the entities 1 and 2, and another one holds 2 with a worse score. -/
def twoHoldings : List ScoredEntities :=
  [Table.ofList [(1, .ofNat 5), (2, .ofNat 4)], Table.ofList [(2, .ofNat 3)]]

/-- The first node answers without the best score of the entity 2. -/
def twoFronts : List ScoredEntities :=
  [Table.ofList [(1, .ofNat 5)], Table.ofList [(2, .ofNat 3)]]

theorem page_of_two_fronts :
    let answers := [.done] ++ twoFronts.map ClusterResponse.scores
    ∃ whole, IsRanking (twoHoldings.flatMap (·.entries)) whole ∧
      rankWindow (mergeScores answers) 0 1 = (whole.take 1).map (·.1) := by
  intro answers
  have finite : ∀ own ∈ twoHoldings, ∀ hit ∈ own.entries, hit.2.isFinite = true := by
    decide +kernel
  have unmixed : ∀ first ∈ twoHoldings, ∀ second ∈ twoHoldings, ∀ id,
      ¬(first.get? id = some (.ofMagnitude true 0) ∧
        second.get? id = some (.ofMagnitude false 0)) := by
    rintro first isFirst second _ id ⟨isNegative, _⟩
    have signed : ∀ own ∈ twoHoldings, ∀ hit ∈ own.entries, hit.2 ≠ .ofMagnitude true 0 := by
      decide +kernel
    exact signed first isFirst _ ((Table.mem_entries_iff _).2 isNegative) rfl
  obtain ⟨whole, ranks, pages⟩ := page_of_fronts_is_slice twoHoldings finite unmixed
  have firstFront : IsFront 1 (Table.ofList [(1, .ofNat 5), (2, .ofNat 4)])
      (Table.ofList [(1, .ofNat 5)]) :=
    ⟨[(1, .ofNat 5), (2, .ofNat 4)], List.Perm.refl _, by decide +kernel, fun _ => Iff.rfl⟩
  have secondFront : IsFront 1 (Table.ofList [(2, .ofNat 3)]) (Table.ofList [(2, .ofNat 3)]) :=
    ⟨[(2, .ofNat 3)], List.Perm.refl _, by decide +kernel, fun _ => Iff.rfl⟩
  have answered : List.Forall₂ (IsFront (windowEnd 0 1).toNat) twoHoldings twoFronts :=
    .cons firstFront (.cons secondFront .nil)
  have brings : BringsFronts answers twoFronts := by
    refine ⟨[.done], List.perm_append_comm, fun other isOther hits same => ?_⟩
    rw [List.mem_singleton.1 isOther] at same
    cases same
  exact ⟨whole, ranks, (pages 0 1 twoFronts answers (Or.inl (by decide)) answered brings).1⟩

/-- A node holds the entity 1 with a negative zero, and another one holds it with a positive zero
and the entity 2 as well. -/
def mixedHoldings : List ScoredEntities :=
  [Table.ofList [(1, .ofMagnitude true 0)],
    Table.ofList [(1, .ofMagnitude false 0), (2, .ofMagnitude false 0)]]

/-- Both nodes answer with all they hold.  The entity 1 leads the ranking, but the merge that
comes to its negative zero first puts it behind the entity 2. -/
theorem page_of_mixed_zeros :
    (∀ own ∈ mixedHoldings, ∀ hit ∈ own.entries, hit.2.isFinite = true) ∧
      List.Forall₂ (IsFront (windowEnd 0 2).toNat) mixedHoldings mixedHoldings ∧
      BringsFronts (mixedHoldings.map .scores) mixedHoldings ∧
      IsRanking (mixedHoldings.flatMap (·.entries))
        [(1, .ofMagnitude false 0), (2, .ofMagnitude false 0)] ∧
      rankWindow (mergeScores (mixedHoldings.map .scores)) 0 2 = [2, 1] ∧
      rankWindow (mergeScores (mixedHoldings.reverse.map .scores)) 0 2 = [1, 2] := by
  have firstFront : IsFront 2 (Table.ofList [(1, .ofMagnitude true 0)])
      (Table.ofList [(1, .ofMagnitude true 0)]) :=
    ⟨[(1, .ofMagnitude true 0)], List.Perm.refl _, by decide +kernel, fun _ => Iff.rfl⟩
  have secondFront : IsFront 2
      (Table.ofList [(1, .ofMagnitude false 0), (2, .ofMagnitude false 0)])
      (Table.ofList [(1, .ofMagnitude false 0), (2, .ofMagnitude false 0)]) :=
    ⟨[(1, .ofMagnitude false 0), (2, .ofMagnitude false 0)], List.Perm.refl _, by decide +kernel,
      fun _ => Iff.rfl⟩
  have pageOf : ∀ {answers : List ClusterResponse} (ranked : List ScoredHit),
      (ranked.Pairwise fun earlier later => ranksBefore earlier later = true) →
        ranked.Perm (mergeScores answers).entries →
          rankWindow (mergeScores answers) 0 2 = ((ranked.drop 0).take 2).map (·.1) := by
    intro answers ranked sorted perm
    rw [rankWindow, ranking_eq_of_perm sorted perm]
    rfl
  refine ⟨by decide +kernel, .cons firstFront (.cons secondFront .nil),
    ⟨[], List.Perm.refl _, fun other isOther => absurd isOther List.not_mem_nil⟩, ?ranks, ?behind,
    ?ahead⟩
  case ranks =>
    exact .of_noWorse (by decide +kernel) (by decide +kernel) (by decide +kernel)
      (by decide +kernel)
  case behind =>
    exact pageOf [(2, .ofMagnitude false 0), (1, .ofMagnitude true 0)]
      (by decide +kernel) (by decide +kernel)
  case ahead =>
    exact pageOf [(1, .ofMagnitude false 0), (2, .ofMagnitude false 0)]
      (by decide +kernel) (by decide +kernel)

end EntitySearch
