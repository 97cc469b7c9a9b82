import EntitySearch.Cluster.Ranking
import EntitySearch.Proofs.TableEntries
import Mathlib.Data.List.Nodup
import Mathlib.Data.List.Perm.Subperm

/-!
# Merging ranked answers

The merged answers hold every reported entity once, with its best score, and the
ranking lists them in one order that does not depend on how they arrived, provided
that no entity is reported with zeros of both signs.  When each node cuts its list,
the front of the ranking survives exactly where every entity of it stands near
enough to the front on some node that reports its best score.
-/

namespace EntitySearch

open Numeric (Single)

namespace Numeric.Single

/-- The place in the order tells the number. -/
theorem eq_of_rank_eq {first second : Single} (same : first.rank = second.rank) :
    first = second := by
  obtain ⟨firstNegative, firstMagnitude, firstBound⟩ := first
  obtain ⟨secondNegative, secondMagnitude, secondBound⟩ := second
  cases firstNegative <;> cases secondNegative <;> simp [rank] at same ⊢ <;> omega

theorem eq_of_magnitude_eq_zero {value : Single} (zero : value.magnitude = 0) :
    value = ofMagnitude value.negative 0 := by
  obtain ⟨negative, magnitude, _⟩ := value
  cases zero
  rfl

theorem larger_eq_or (first second : Single) :
    first.larger second = first ∨ first.larger second = second := by
  unfold larger
  split
  · exact Or.inr rfl
  · exact Or.inl rfl

theorem MayBeLarger.eq_or {first second larger : Single}
    (isLarger : first.MayBeLarger second larger) : larger = first ∨ larger = second := by
  rcases isLarger with rfl | ⟨_, _, same⟩
  · exact larger_eq_or first second
  · exact Or.inr same

/-- Among numbers that are not zeros of both signs the larger one has the higher place. -/
theorem MayBeLarger.rank_le {first second larger : Single}
    (isLarger : first.MayBeLarger second larger) (firstNumber : first.isNaN = false)
    (secondNumber : second.isNaN = false)
    (oneZero : first.magnitude = 0 → second.magnitude = 0 → first = second) :
    first.rank ≤ larger.rank ∧ second.rank ≤ larger.rank := by
  rcases isLarger with rfl | ⟨firstZero, secondZero, rfl⟩
  · by_cases zeros : first.magnitude = 0 ∧ second.magnitude = 0
    · rw [oneZero zeros.1 zeros.2]
      rcases larger_eq_or second second with same | same <;> rw [same] <;> simp
    · have notBoth : (second.magnitude == 0 && first.magnitude == 0) = false := by
        simp only [Bool.and_eq_false_iff, beq_eq_false_iff_ne]
        exact Decidable.not_and_iff_or_not.1 fun both => zeros both.symm
      simp only [larger, exceeds, firstNumber, secondNumber, notBoth, Bool.not_false,
        Bool.true_and, Bool.false_or, decide_eq_true_eq]
      split <;> omega
  · rw [oneZero firstZero secondZero]
    exact ⟨Int.le_refl _, Int.le_refl _⟩

theorem isNaN_of_isFinite {value : Single} (finite : value.isFinite = true) :
    value.isNaN = false := by
  simp only [isFinite, decide_eq_true_eq] at finite
  simp only [isNaN, decide_eq_false_iff_not]
  omega

end Numeric.Single

/-- An entity with a score, as a node reports it. -/
abbrev ScoredHit := EntityId × Single

/-- The hit is among the reported ones, and no report of its entity has a better score. -/
def IsBest (reported : List ScoredHit) (hit : ScoredHit) : Prop :=
  hit ∈ reported ∧ ∀ other ∈ reported, other.1 = hit.1 → other.2.rank ≤ hit.2.rank

def AreNumbers (reported : List ScoredHit) : Prop :=
  ∀ hit ∈ reported, hit.2.isNaN = false

/-- The reported scores are numbers, and no entity is reported with zeros of both signs. -/
structure AreComparable (reported : List ScoredHit) : Prop where
  numbers : AreNumbers reported
  unmixed : ∀ first ∈ reported, ∀ second ∈ reported, first.1 = second.1 →
    first.2.magnitude = 0 → second.2.magnitude = 0 → first.2 = second.2

theorem AreComparable.of_subset {reported kept : List ScoredHit}
    (comparable : AreComparable reported) (subset : kept ⊆ reported) : AreComparable kept where
  numbers := fun hit inside => comparable.numbers hit (subset inside)
  unmixed := fun first isFirst second isSecond =>
    comparable.unmixed first (subset isFirst) second (subset isSecond)

theorem AreComparable.of_unsigned {reported : List ScoredHit} (numbers : AreNumbers reported)
    (unsigned : ∀ hit ∈ reported, hit.2.negative = false) : AreComparable reported where
  numbers := numbers
  unmixed := by
    intro first isFirst second isSecond _ firstZero secondZero
    apply Single.eq_of_rank_eq
    simp [Single.rank, unsigned first isFirst, unsigned second isSecond, firstZero, secondZero]

/-- The merged scores are the best ones of the reported entities. -/
def KeepsBest (merged : ScoredEntities) (reported : List ScoredHit) : Prop :=
  ∀ id, match merged.get? id with
    | none => ∀ hit ∈ reported, hit.1 ≠ id
    | some score => IsBest reported (id, score)

theorem IsBest.unique {reported : List ScoredHit} {first second : ScoredHit}
    (firstBest : IsBest reported first) (secondBest : IsBest reported second)
    (sameEntity : first.1 = second.1) : first = second := by
  have atMost := secondBest.2 first firstBest.1 sameEntity
  have atLeast := firstBest.2 second secondBest.1 sameEntity.symm
  have sameScore := Single.eq_of_rank_eq (Int.le_antisymm atMost atLeast)
  exact Prod.ext sameEntity sameScore

theorem IsBest.of_subset {reported kept : List ScoredHit} {hit : ScoredHit}
    (best : IsBest reported hit) (subset : kept ⊆ reported) (inside : hit ∈ kept) :
    IsBest kept hit :=
  ⟨inside, fun other isOther same => best.2 other (subset isOther) same⟩

theorem keepsBest_nil : KeepsBest Table.empty [] := by
  intro id hit inside
  cases inside

/-- A further hit is kept where it is the first of its entity or the best. -/
theorem KeepsBest.exists_best {merged next : ScoredEntities} {reported : List ScoredHit}
    {hit : ScoredHit} (keeps : KeepsBest merged reported) (kept : MayKeep merged hit next)
    (comparable : AreComparable (reported ++ [hit])) :
    ∃ score, next = merged.set hit.1 score ∧ IsBest (reported ++ [hit]) (hit.1, score) := by
  have isLast : hit ∈ reported ++ [hit] := List.mem_append_right _ List.mem_cons_self
  have before := keeps hit.1
  unfold MayKeep at kept
  cases present : merged.get? hit.1 with
  | none =>
      rw [present] at kept before
      refine ⟨hit.2, kept, isLast, fun other inside sameEntity => ?_⟩
      rcases List.mem_append.1 inside with earlier | last
      · exact absurd sameEntity (before other earlier)
      · exact Int.le_of_eq (congrArg (fun hit => hit.2.rank) (List.mem_singleton.1 last))
  | some best =>
      rw [present] at kept before
      obtain ⟨score, isLarger, same⟩ := kept
      obtain ⟨isReported, isBest⟩ := before
      have isEarlier : (hit.1, best) ∈ reported ++ [hit] := List.mem_append_left _ isReported
      obtain ⟨atLeastBest, atLeastHit⟩ := isLarger.rank_le
        (comparable.numbers _ isEarlier) (comparable.numbers _ isLast)
        (comparable.unmixed _ isEarlier _ isLast rfl)
      refine ⟨score, same, ?_, fun other inside sameEntity => ?_⟩
      · rcases isLarger.eq_or with rfl | rfl
        · exact isEarlier
        · exact isLast
      · rcases List.mem_append.1 inside with earlier | last
        · exact Int.le_trans (isBest other earlier sameEntity) atLeastBest
        · rw [List.mem_singleton.1 last]
          exact atLeastHit

theorem KeepsBest.visit {merged next : ScoredEntities} {reported : List ScoredHit}
    {hit : ScoredHit} (keeps : KeepsBest merged reported) (kept : MayKeep merged hit next)
    (comparable : AreComparable (reported ++ [hit])) : KeepsBest next (reported ++ [hit]) := by
  obtain ⟨score, rfl, isHit⟩ := keeps.exists_best kept comparable
  intro id
  by_cases same : id = hit.1
  · subst same
    rw [Table.get?_set_self]
    exact isHit
  · have before := keeps id
    rw [Table.get?_set_of_ne merged same]
    cases present : merged.get? id with
    | none =>
        rw [present] at before
        intro other inside
        rcases List.mem_append.1 inside with earlier | last
        · exact before other earlier
        · rw [List.mem_singleton.1 last]
          exact Ne.symm same
    | some best =>
        rw [present] at before
        refine ⟨List.mem_append_left _ before.1, fun other inside sameEntity => ?_⟩
        rcases List.mem_append.1 inside with earlier | last
        · exact before.2 other earlier sameEntity
        · rw [List.mem_singleton.1 last] at sameEntity
          exact absurd sameEntity.symm same

theorem IsMerge.keepsBest {reported : List ScoredHit} {merged : ScoredEntities}
    (merges : IsMerge reported merged) (comparable : AreComparable reported) :
    KeepsBest merged reported := by
  induction merges with
  | empty => exact keepsBest_nil
  | visit before kept ih =>
      exact (ih (comparable.of_subset (List.subset_append_left _ _))).visit kept comparable

/-- A merge holds exactly the best hits. -/
theorem IsMerge.mem_entries_iff {reported : List ScoredHit} {merged : ScoredEntities}
    (merges : IsMerge reported merged) (comparable : AreComparable reported) (hit : ScoredHit) :
    hit ∈ merged.entries ↔ IsBest reported hit := by
  have atEntity := merges.keepsBest comparable hit.1
  rw [show hit = (hit.1, hit.2) from rfl, Table.mem_entries_iff]
  cases present : merged.get? hit.1 with
  | none =>
      rw [present] at atEntity
      simp only [reduceCtorEq, false_iff]
      intro best
      exact atEntity hit best.1 rfl
  | some score =>
      rw [present] at atEntity
      constructor
      · intro same
        cases same
        exact atEntity
      · intro best
        exact congrArg (fun other : ScoredHit => some other.2) (atEntity.unique best rfl)

theorem mayKeep_keepBest (merged : ScoredEntities) (hit : ScoredHit) :
    MayKeep merged hit (keepBest merged hit) := by
  rw [MayKeep, keepBest, Table.alter]
  cases merged.get? hit.1 with
  | none => rfl
  | some best => exact ⟨_, Or.inl rfl, rfl⟩

theorem isMerge_foldl {before : List ScoredHit} {merged : ScoredEntities}
    (merges : IsMerge before merged) (hits : List ScoredHit) :
    IsMerge (before ++ hits) (hits.foldl keepBest merged) := by
  induction hits generalizing before merged with
  | nil => simpa using merges
  | cons hit hits ih =>
      have next := ih (merges.visit (mayKeep_keepBest merged hit))
      rw [List.append_assoc] at next
      exact next

theorem isMerge_mergeScores (answers : List ClusterResponse) :
    IsMerge (answers.flatMap ClusterResponse.hits) (mergeScores answers) :=
  isMerge_foldl .empty _

/-- Whether one hit stands before the other does not depend on how they arrived. -/
theorem ranksBefore_iff (first second : ScoredHit) :
    ranksBefore first second = true ↔
      second.2.rank < first.2.rank ∨ first.2.rank = second.2.rank ∧ first.1 ≤ second.1 := by
  simp [ranksBefore]

theorem rank_le_of_ranksBefore {first second : ScoredHit}
    (before : ranksBefore first second = true) : second.2.rank ≤ first.2.rank := by
  rcases (ranksBefore_iff first second).1 before with better | ⟨same, _⟩ <;> omega

theorem ranksBefore_trans (first second third : ScoredHit)
    (firstBefore : ranksBefore first second = true)
    (secondBefore : ranksBefore second third = true) : ranksBefore first third = true := by
  rw [ranksBefore_iff] at *
  rcases firstBefore with better | ⟨same, below⟩
  · rcases secondBefore with laterBetter | ⟨laterSame, _⟩
    · exact Or.inl (by omega)
    · exact Or.inl (by omega)
  · rcases secondBefore with laterBetter | ⟨laterSame, laterBelow⟩
    · exact Or.inl (by omega)
    · exact Or.inr ⟨by omega, UInt64.le_trans below laterBelow⟩

theorem ranksBefore_total (first second : ScoredHit) :
    (ranksBefore first second || ranksBefore second first) = true := by
  rw [Bool.or_eq_true, ranksBefore_iff, ranksBefore_iff]
  rcases Int.lt_trichotomy first.2.rank second.2.rank with below | same | above
  · exact Or.inr (Or.inl below)
  · rcases UInt64.le_total first.1 second.1 with below | above
    · exact Or.inl (Or.inr ⟨same, below⟩)
    · exact Or.inr (Or.inr ⟨same.symm, above⟩)
  · exact Or.inl (Or.inl above)

theorem ranksBefore_antisymm {first second : ScoredHit}
    (firstBefore : ranksBefore first second = true)
    (secondBefore : ranksBefore second first = true) : first = second := by
  rw [ranksBefore_iff] at firstBefore secondBefore
  rcases firstBefore with better | ⟨same, below⟩
  · rcases secondBefore with otherBetter | ⟨otherSame, _⟩ <;> omega
  · rcases secondBefore with otherBetter | ⟨_, otherBelow⟩
    · omega
    · exact Prod.ext (UInt64.le_antisymm below otherBelow) (Single.eq_of_rank_eq same)

/-- Of one entity the better score stands first. -/
theorem ranksBefore_of_same_entity {better worse : ScoredHit} (sameEntity : better.1 = worse.1)
    (notBetter : worse.2.rank ≤ better.2.rank) : ranksBefore better worse = true := by
  rw [ranksBefore_iff]
  rcases Int.lt_or_eq_of_le notBetter with below | equal
  · exact Or.inl below
  · exact Or.inr ⟨equal.symm, UInt64.le_of_eq sameEntity⟩

theorem pairwise_ranking (hits : ScoredEntities) :
    (ranking hits).Pairwise fun first second => ranksBefore first second = true :=
  List.pairwise_mergeSort ranksBefore_trans ranksBefore_total _

theorem mem_ranking (hits : ScoredEntities) (hit : ScoredHit) :
    hit ∈ ranking hits ↔ hit ∈ hits.entries :=
  (List.mergeSort_perm _ _).mem_iff

theorem nodup_ranking (hits : ScoredEntities) : ((ranking hits).map (·.1)).Nodup := by
  have sameEntities : ((ranking hits).map (·.1)).Perm (hits.entries.map (·.1)) :=
    (List.mergeSort_perm _ _).map _
  rw [sameEntities.nodup_iff, List.Nodup, List.pairwise_map]
  exact hits.ascending.imp fun below same => UInt64.ne_of_lt below same

theorem ranking_eq_of_perm {hits : ScoredEntities} {ranked : List ScoredHit}
    (sorted : ranked.Pairwise fun earlier later => ranksBefore earlier later = true)
    (perm : ranked.Perm hits.entries) : ranking hits = ranked :=
  ((List.mergeSort_perm _ _).trans perm.symm).eq_of_pairwise
    (fun _ _ _ _ forward backward => ranksBefore_antisymm forward backward)
    (pairwise_ranking hits) sorted

/-- A sorted list without repetition is told by its members. -/
theorem eq_of_same_hits {first second : List ScoredHit}
    (firstSorted : first.Pairwise fun earlier later => ranksBefore earlier later = true)
    (secondSorted : second.Pairwise fun earlier later => ranksBefore earlier later = true)
    (firstDistinct : first.Nodup) (secondDistinct : second.Nodup)
    (sameHits : ∀ hit, hit ∈ first ↔ hit ∈ second) : first = second :=
  ((List.perm_ext_iff_of_nodup firstDistinct secondDistinct).2 sameHits).eq_of_pairwise
    (fun _ _ _ _ forward backward => ranksBefore_antisymm forward backward)
    firstSorted secondSorted

/-- A list ranks the reported hits: it has the best hit of every reported entity, in order. -/
structure IsRanking (reported ranked : List ScoredHit) : Prop where
  sorted : ranked.Pairwise fun earlier later => ranksBefore earlier later = true
  distinct : (ranked.map (·.1)).Nodup
  members : ∀ hit, hit ∈ ranked ↔ IsBest reported hit
  complete : ∀ hit ∈ reported, ∃ best ∈ ranked, best.1 = hit.1

/-- The ranking of a merge ranks what is reported, whichever of two zeros was kept. -/
theorem IsMerge.isRanking {reported : List ScoredHit} {merged : ScoredEntities}
    (merges : IsMerge reported merged) (comparable : AreComparable reported) :
    IsRanking reported (ranking merged) where
  sorted := pairwise_ranking _
  distinct := nodup_ranking _
  members := by
    intro hit
    rw [mem_ranking, merges.mem_entries_iff comparable]
  complete := by
    intro hit inside
    have atEntity := merges.keepsBest comparable hit.1
    cases present : merged.get? hit.1 with
    | none =>
        rw [present] at atEntity
        exact absurd rfl (atEntity hit inside)
    | some score =>
        refine ⟨(hit.1, score), ?_, rfl⟩
        rw [mem_ranking, Table.mem_entries_iff]
        exact present

namespace IsRanking

variable {reported kept ranked front : List ScoredHit}

/-- Reported hits in order are a ranking if there is one for each entity, and no worse than any
report of it. -/
theorem of_noWorse (sorted : ranked.Pairwise fun earlier later => ranksBefore earlier later = true)
    (distinct : (ranked.map (·.1)).Nodup) (subset : ∀ hit ∈ ranked, hit ∈ reported)
    (noWorse : ∀ hit ∈ reported, ∃ best ∈ ranked, best.1 = hit.1 ∧ hit.2.rank ≤ best.2.rank) :
    IsRanking reported ranked where
  sorted := sorted
  distinct := distinct
  members := by
    intro hit
    constructor
    · refine fun inside => ⟨subset hit inside, fun other isOther same => ?_⟩
      obtain ⟨best, isRanked, sameEntity, above⟩ := noWorse other isOther
      have sameHit := List.inj_on_of_nodup_map distinct isRanked inside (sameEntity.trans same)
      exact sameHit ▸ above
    · intro isBest
      obtain ⟨best, isRanked, sameEntity, above⟩ := noWorse hit isBest.1
      have below := isBest.2 best (subset best isRanked) sameEntity
      have sameScore := Single.eq_of_rank_eq (Int.le_antisymm above below)
      exact (Prod.ext sameEntity.symm sameScore : hit = best) ▸ isRanked
  complete := fun hit inside =>
    (noWorse hit inside).imp fun _ best => ⟨best.1, best.2.1⟩

/-- The reported hits themselves, in order, are their ranking if no entity is reported twice. -/
theorem of_perm (sorted : ranked.Pairwise fun earlier later => ranksBefore earlier later = true)
    (distinct : (ranked.map (·.1)).Nodup) (perm : ranked.Perm reported) :
    IsRanking reported ranked :=
  of_noWorse sorted distinct (fun _ inside => perm.mem_iff.1 inside) fun hit inside =>
    ⟨hit, perm.mem_iff.2 inside, rfl, Int.le_refl _⟩

theorem congr {other : List ScoredHit} (whole : IsRanking reported ranked)
    (same : ∀ hit, hit ∈ reported ↔ hit ∈ other) : IsRanking other ranked where
  sorted := whole.sorted
  distinct := whole.distinct
  members := by
    intro hit
    rw [whole.members]
    simp only [IsBest, same]
  complete := fun hit inside => whole.complete hit ((same hit).2 inside)

theorem nodup (whole : IsRanking reported ranked) : ranked.Nodup :=
  List.Nodup.of_map _ whole.distinct

theorem unique (first : IsRanking reported ranked) (second : IsRanking reported front) :
    ranked = front :=
  eq_of_same_hits first.sorted second.sorted first.nodup second.nodup fun hit =>
    (first.members hit).trans (second.members hit).symm

/-- Behind the hits at the front that were kept, a merge of kept hits has only hits that
belong behind them. -/
theorem ranksBefore_of_not_mem (whole : IsRanking reported ranked) (part : IsRanking kept front)
    (subset : kept ⊆ reported) {size : Nat} (near : ∀ hit ∈ ranked.take size, hit ∈ kept)
    {hit : ScoredHit} (inFront : hit ∈ front) (notNear : hit ∉ ranked.take size) :
    ∃ best ∈ ranked.drop size, ∀ earlier ∈ ranked.take size,
      ranksBefore earlier best = true ∧ ranksBefore earlier hit = true := by
  have bestKept := (part.members hit).1 inFront
  obtain ⟨best, inRanked, sameEntity⟩ := whole.complete hit (subset bestKept.1)
  have bestReported := (whole.members best).1 inRanked
  have behind : best ∈ ranked.drop size := by
    rw [← List.take_append_drop size ranked] at inRanked
    rcases List.mem_append.1 inRanked with isNear | isBehind
    · have same := (bestReported.of_subset subset (near best isNear)).unique bestKept sameEntity
      exact absurd (same ▸ isNear) notNear
    · exact isBehind
  refine ⟨best, behind, fun earlier isEarlier => ?_⟩
  have sorted := whole.sorted
  rw [← List.take_append_drop size ranked] at sorted
  have before := (List.pairwise_append.1 sorted).2.2 earlier isEarlier best behind
  have notBetter := bestReported.2 hit (subset bestKept.1) sameEntity.symm
  exact ⟨before, ranksBefore_trans _ _ _ before (ranksBefore_of_same_entity sameEntity notBetter)⟩

/-- Where the first hits of a ranking are all kept, the kept hits have the same front. -/
theorem take_eq (whole : IsRanking reported ranked) (part : IsRanking kept front)
    (subset : kept ⊆ reported) {size : Nat} (near : ∀ hit ∈ ranked.take size, hit ∈ kept) :
    front.take size = ranked.take size := by
  have inFront : ∀ hit ∈ ranked.take size, hit ∈ front := by
    intro hit isNear
    have best := (whole.members hit).1 (List.mem_of_mem_take isNear)
    exact (part.members hit).2 (best.of_subset subset (near hit isNear))
  let behind := front.filter fun hit => decide (hit ∉ ranked.take size)
  have split : front = ranked.take size ++ behind := by
    refine eq_of_same_hits part.sorted ?_ part.nodup ?_ ?_
    · refine List.pairwise_append.2 ⟨whole.sorted.sublist (List.take_sublist _ _),
        part.sorted.filter _, fun earlier isEarlier later isLater => ?_⟩
      obtain ⟨isInFront, notNear⟩ := List.mem_filter.1 isLater
      obtain ⟨_, _, before⟩ :=
        whole.ranksBefore_of_not_mem part subset near isInFront (of_decide_eq_true notNear)
      exact (before earlier isEarlier).2
    · refine List.nodup_append.2 ⟨whole.nodup.sublist (List.take_sublist _ _),
        part.nodup.filter _, fun hit isNear other isBehind same => ?_⟩
      have notNear := of_decide_eq_true (List.mem_filter.1 isBehind).2
      exact notNear (same ▸ isNear)
    · intro hit
      rw [List.mem_append, List.mem_filter, decide_eq_true_iff]
      constructor
      · intro isInFront
        by_cases isNear : hit ∈ ranked.take size
        · exact Or.inl isNear
        · exact Or.inr ⟨isInFront, isNear⟩
      · rintro (isNear | ⟨isInFront, _⟩)
        · exact inFront hit isNear
        · exact isInFront
  rcases Nat.lt_or_ge ranked.length size with short | long
  · -- The whole ranking is kept, so nothing stands behind it.
    have noneBehind : behind = [] := by
      rw [List.eq_nil_iff_forall_not_mem]
      intro hit isBehind
      obtain ⟨isInFront, notNear⟩ := List.mem_filter.1 isBehind
      obtain ⟨best, isDropped, _⟩ :=
        whole.ranksBefore_of_not_mem part subset near isInFront (of_decide_eq_true notNear)
      rw [List.drop_eq_nil_of_le (Nat.le_of_lt short)] at isDropped
      cases isDropped
    rw [split, noneBehind, List.append_nil, List.take_take, Nat.min_self]
  · have exactly : (ranked.take size).length = size := by
      rw [List.length_take, Nat.min_eq_left long]
    rw [split, List.take_left' exactly]

end IsRanking

end EntitySearch
