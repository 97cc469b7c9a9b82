import EntitySearch.Proofs.BooleanOperators
import EntitySearch.Proofs.ClippedListings
import EntitySearch.Proofs.IndexChronicle
import EntitySearch.Proofs.PlanSigns
import EntitySearch.Search.Hits

/-!
# Listings of nodes

What a node lists for a query are the entities of its best hits, each once.  To a
search it answers with the front of its listing.
-/

namespace EntitySearch

open Numeric (Single)

namespace IndexContent

/-- The entities of the ranked hits with their scores. -/
def listing (content : IndexContent) (plan : QueryPlan) : List ScoredHit :=
  (content.rankedHits plan).filterMap fun hit => hit.entity?.map (·, hit.score)

/-- Where no document has a better score than an earlier one, the listing is in the order of
the documents. -/
theorem listing_of_pairwise {content : IndexContent} {plan : QueryPlan}
    (sorted : ((content.hits plan).filter (!·.score.isNaN)).Pairwise
      fun earlier later => earlier.precedes later = true) :
    content.listing plan = ((content.hits plan).filter (!·.score.isNaN)).filterMap
      fun hit => hit.entity?.map (·, hit.score) := by
  rw [listing, rankedHits, List.mergeSort_of_pairwise sorted]

end IndexContent

namespace Hit

variable {layout : Layout}

def isNoWorse (first second : Hit layout) : Bool :=
  decide (second.score.rank ≤ first.score.rank)

theorem isNoWorse_trans (first second third : Hit layout) :
    first.isNoWorse second = true → second.isNoWorse third = true →
      first.isNoWorse third = true := by
  simp only [isNoWorse, decide_eq_true_eq]
  omega

theorem isNoWorse_total (first second : Hit layout) :
    (first.isNoWorse second || second.isNoWorse first) = true := by
  simp only [isNoWorse, Bool.or_eq_true, decide_eq_true_eq]
  omega

/-- Among numbers without a sign a hit precedes another if it has no worse score. -/
theorem precedes_eq {first second : Hit layout} (firstUnsigned : first.score.IsUnsigned)
    (secondUnsigned : second.score.IsUnsigned) (firstNumber : first.score.isNaN = false)
    (secondNumber : second.score.isNaN = false) :
    first.precedes second = first.isNoWorse second := by
  rw [Single.IsUnsigned] at firstUnsigned secondUnsigned
  simp only [precedes, isNoWorse, Single.exceeds, firstNumber, secondNumber, Single.rank,
    firstUnsigned, secondUnsigned]
  by_cases worse : first.score.magnitude < second.score.magnitude
  · have notZero : (second.score.magnitude == 0) = false := by
      rw [beq_eq_false_iff_ne]
      omega
    simp [worse, notZero]
  · simp [worse]
    omega

end Hit

namespace IndexContent

variable {content : IndexContent} {plan : QueryPlan}

theorem mem_rankedHits {hit : Hit content.layout} :
    hit ∈ content.rankedHits plan ↔ hit ∈ content.hits plan ∧ hit.score.isNaN = false := by
  rw [rankedHits, (List.mergeSort_perm _ _).mem_iff, List.mem_filter, Bool.not_eq_true']

theorem isUnsigned_score_of_mem (unsigned : plan.IsUnsigned) {hit : Hit content.layout}
    (inside : hit ∈ content.hits plan) : hit.score.IsUnsigned := by
  obtain ⟨stored, _, rfl⟩ := List.mem_map.1 inside
  exact QueryPlan.isUnsigned_score content stored.postings plan _ unsigned
    (Single.isUnsigned_ofNat 1)

theorem rankedHits_eq_mergeSort (unsigned : plan.IsUnsigned) :
    content.rankedHits plan =
      ((content.hits plan).filter (!·.score.isNaN)).mergeSort Hit.isNoWorse := by
  have sameOrder : ∀ first ∈ (content.hits plan).filter (!·.score.isNaN),
      ∀ second ∈ (content.hits plan).filter (!·.score.isNaN),
        first.precedes second = (id first).isNoWorse (id second) := by
    intro first isFirst second isSecond
    rw [List.mem_filter, Bool.not_eq_true'] at isFirst isSecond
    exact Hit.precedes_eq (isUnsigned_score_of_mem unsigned isFirst.1)
      (isUnsigned_score_of_mem unsigned isSecond.1) isFirst.2 isSecond.2
  have sorted := List.map_mergeSort sameOrder
  rw [List.map_id, List.map_id] at sorted
  exact sorted

theorem pairwise_rankedHits (unsigned : plan.IsUnsigned) :
    (content.rankedHits plan).Pairwise fun earlier later =>
      later.score.rank ≤ earlier.score.rank := by
  rw [rankedHits_eq_mergeSort unsigned]
  exact (List.pairwise_mergeSort Hit.isNoWorse_trans Hit.isNoWorse_total _).imp of_decide_eq_true

end IndexContent

namespace Translator

/-- What a translated plan matches is marked as the document of an entity. -/
theorem hasTerm_of_isMatch {translator : Translator} {query : String} {plan : QueryPlan}
    (accepted : translator.translate query = .ok plan) {layout : Layout}
    {stored : StoredDocument layout} (isMatch : plan.isMatch stored.postings = true) :
    stored.content.hasTerm CoreField.kind (.text DocumentKind.entity.name) = true := by
  unfold translate planOf at accepted
  split at accepted
  · cases accepted
  · split at accepted
    · cases accepted
    · split at accepted
      · cases accepted
        cases isMatch
      · cases accepted
        rw [QueryPlan.isMatch_demand, Bool.and_eq_true] at isMatch
        have entities := isMatch.2
        rw [QueryPlan.isAllowed, QueryPlan.isAllowed, Bool.and_true,
          isMatch_entitiesOnly] at entities
        exact entities

end Translator

namespace Chronicle

variable {chronicle : Chronicle} {content : IndexContent} {translator : Translator}
  {query : String} {plan : QueryPlan}

/-- A plan matches among the documents of entities. -/
theorem matching_sublist (accepted : translator.translate query = .ok plan) :
    (content.matching plan).Sublist (content.ofKind .entity) := by
  have narrowed : content.matching plan =
      (content.ofKind .entity).filter fun stored => plan.isMatch stored.postings := by
    rw [IndexContent.matching, IndexContent.ofKind, List.filter_filter]
    apply List.filter_congr
    intro stored _
    cases isMatch : plan.isMatch stored.postings with
    | false => rfl
    | true => rw [Translator.hasTerm_of_isMatch accepted isMatch, Bool.and_self]
  rw [narrowed]
  exact List.filter_sublist

theorem entity_of_current (ordinary : chronicle.IsOrdinary content.layout)
    {document : EntityDocument} (survives : chronicle.Survives document) :
    document.document.storedUnsigned? CoreField.entity = some document.id := by
  obtain ⟨entity, rfl⟩ := ordinary.documentFor survives
  rw [Document.storedUnsigned?, content.layout.entity_documentFor entity]
  rfl

theorem Describes.entities (describes : chronicle.Describes content) :
    ∃ ids : List EntityId, ids.Nodup ∧
      ((content.ofKind .entity).map fun stored =>
        stored.document.storedUnsigned? CoreField.entity).Perm (ids.map some) := by
  obtain ⟨configuration, isLayout⟩ := describes.accepted
  obtain ⟨current, shows⟩ := describes.shown
  refine ⟨current.map (·.id), shows.distinct, ?_⟩
  have sameDocuments : ((content.ofKind .entity).map (·.document)).Perm
      (current.map (·.document)) := shows.ofKind isLayout describes.ordinary .entity
  have sameEntities := sameDocuments.map (·.storedUnsigned? CoreField.entity)
  rw [List.map_map, List.map_map] at sameEntities
  have ids : current.map ((·.storedUnsigned? CoreField.entity) ∘ (·.document)) =
      (current.map (·.id)).map some := by
    rw [List.map_map]
    apply List.map_congr_left
    intro document isCurrent
    exact entity_of_current describes.ordinary ((shows.surviving document).1 isCurrent)
  rw [ids] at sameEntities
  exact sameEntities

end Chronicle

namespace IndexContent

variable {chronicle : Chronicle} {content : IndexContent} {translator : Translator}
  {query : String} {plan : QueryPlan}

/-- An entity with the score of a hit; every hit of a translated plan has an entity. -/
def entry (hit : Hit content.layout) : ScoredHit :=
  (hit.entity?.getD 0, hit.score)

open scoped List in
theorem subperm_entities (accepted : translator.translate query = .ok plan) :
    ((content.rankedHits plan).map Hit.entity?).Subperm
      ((content.ofKind .entity).map fun stored =>
        stored.document.storedUnsigned? CoreField.entity) := by
  have sorted : content.rankedHits plan ~ (content.hits plan).filter (!·.score.isNaN) :=
    List.mergeSort_perm _ _
  have numbers : ((content.hits plan).filter (!·.score.isNaN)).map Hit.entity? <+
      (content.hits plan).map Hit.entity? := List.filter_sublist.map _
  have hits : (content.hits plan).map Hit.entity? =
      (content.matching plan).map fun stored =>
        stored.document.storedUnsigned? CoreField.entity := by
    rw [IndexContent.hits, List.map_map]
    rfl
  rw [hits] at numbers
  exact (sorted.map _).subperm.trans
    (numbers.trans ((Chronicle.matching_sublist accepted).map _)).subperm

theorem isSome_entity? (describes : chronicle.Describes content)
    (accepted : translator.translate query = .ok plan) {hit : Hit content.layout}
    (inside : hit ∈ content.rankedHits plan) : hit.entity?.isSome = true := by
  obtain ⟨ids, _, entities⟩ := describes.entities
  have isEntity := (subperm_entities accepted).subset (List.mem_map_of_mem inside)
  obtain ⟨id, _, same⟩ := List.mem_map.1 (entities.subset isEntity)
  rw [← same]
  rfl

theorem filterMap_eq_map_entry {hits : List (Hit content.layout)}
    (entities : ∀ hit ∈ hits, hit.entity?.isSome = true) :
    (hits.filterMap fun hit => hit.entity?.map (·, hit.score)) = hits.map entry := by
  rw [← List.filterMap_eq_map]
  apply List.filterMap_congr
  intro hit inside
  obtain ⟨id, isEntity⟩ := Option.isSome_iff_exists.1 (entities hit inside)
  simp [entry, isEntity]

theorem listing_eq_map (describes : chronicle.Describes content)
    (accepted : translator.translate query = .ok plan) :
    content.listing plan = (content.rankedHits plan).map entry :=
  filterMap_eq_map_entry fun _ inside => isSome_entity? describes accepted inside

/-- The listing of a content that a chronicle describes is one. -/
theorem isListing_listing (describes : chronicle.Describes content)
    (accepted : translator.translate query = .ok plan) :
    IsListing (content.listing plan) where
  distinct := by
    obtain ⟨ids, idsDistinct, entities⟩ := describes.entities
    have entitiesDistinct : ((content.rankedHits plan).map Hit.entity?).Nodup := by
      obtain ⟨arranged, isPerm, isPart⟩ := subperm_entities accepted
      rw [← isPerm.nodup_iff]
      refine List.Nodup.sublist isPart ?_
      rw [entities.nodup_iff]
      exact idsDistinct.map (Option.some_injective _)
    have sameIds : (content.listing plan).map (·.1) =
        ((content.rankedHits plan).map Hit.entity?).filterMap id := by
      rw [listing, List.map_filterMap, List.filterMap_map]
      apply List.filterMap_congr
      intro hit _
      rw [Function.comp_apply, id, Option.map_map]
      exact congrFun Option.map_id _
    rw [sameIds]
    refine entitiesDistinct.filterMap fun first second shared isFirst isSecond => ?_
    rw [id, Option.mem_def] at isFirst isSecond
    rw [isFirst, isSecond]
  numbers := by
    intro hit inside
    rw [listing_eq_map describes accepted] at inside
    obtain ⟨ranked, isRanked, rfl⟩ := List.mem_map.1 inside
    exact (mem_rankedHits.1 isRanked).2
  descending := by
    rw [listing_eq_map describes accepted, List.pairwise_map]
    exact pairwise_rankedHits (Translator.isUnsigned_translate accepted)

/-- The scores in a listing have no sign. -/
theorem isUnsigned_of_mem_listing (describes : chronicle.Describes content)
    (accepted : translator.translate query = .ok plan) {hit : ScoredHit}
    (inside : hit ∈ content.listing plan) : hit.2.IsUnsigned := by
  rw [listing_eq_map describes accepted] at inside
  obtain ⟨ranked, isRanked, rfl⟩ := List.mem_map.1 inside
  exact isUnsigned_score_of_mem (Translator.isUnsigned_translate accepted)
    (mem_rankedHits.1 isRanked).1

theorem length_rankedHits_le (content : IndexContent) (plan : QueryPlan) :
    (content.rankedHits plan).length ≤ content.live.length := by
  rw [rankedHits, List.length_mergeSort]
  refine Nat.le_trans (List.length_filter_le _ _) ?_
  rw [hits, List.length_map, matching]
  exact List.length_filter_le _ _

/-- The clamp of a limit does not show in the answer. -/
theorem take_clampedLimit (content : IndexContent) (plan : QueryPlan) {limit : Nat}
    (positive : 0 < limit) :
    (content.rankedHits plan).take (content.clampedLimit limit) =
      (content.rankedHits plan).take limit := by
  have atMost := content.length_rankedHits_le plan
  rcases Nat.lt_or_ge content.live.length limit with few | many
  · rw [List.take_of_length_le, List.take_of_length_le]
    · omega
    · rw [clampedLimit]
      omega
  · congr 1
    rw [clampedLimit]
    omega

/-- To a search a content answers with the front of its listing. -/
theorem bestScores_eq (describes : chronicle.Describes content)
    (accepted : translator.translate query = .ok plan) {limit : Nat} (positive : 0 < limit) :
    content.bestScores plan limit = Table.ofList ((content.listing plan).take limit) := by
  have entities : ∀ hit ∈ (content.rankedHits plan).take limit, hit.entity?.isSome = true :=
    fun hit inside => isSome_entity? describes accepted (List.mem_of_mem_take inside)
  rw [bestScores, content.take_clampedLimit plan positive, filterMap_eq_map_entry entities,
    listing_eq_map describes accepted, List.map_take]

end IndexContent

end EntitySearch
