import EntitySearch.Proofs.DeploymentLife
import EntitySearch.Proofs.IndexLife
import EntitySearch.Proofs.SearchRounds

/-!
# Pagination

The pages of a search are slices of one ranking exactly if every hit of the
ranking stands, on some node, no further from the front than in the ranking.
For each page the nodes are asked for as many hits as it and all pages before it
hold; a node orders equal scores as its documents came, the ranking by
identifier, so a smaller identifier that came late can be missing on a page.
-/

namespace EntitySearch

namespace Deployment

variable {deployment : Deployment} {service : Service} {query : String}

theorem toNat_windowEnd {offset limit : UInt64}
    (within : offset.toNat + limit.toNat < UInt64.size) :
    (windowEnd offset limit).toNat = offset.toNat + limit.toNat := by
  rw [windowEnd, if_pos within, UInt64.toNat_add]
  exact Nat.mod_eq_of_lt within

/-- A page is a slice of the ranking of its own round. -/
theorem rankedPage_eq (deployment : Deployment) (service : Service) (query : String)
    (offset limit : UInt64) :
    (deployment.rankedPage service query offset limit).2 =
      entitiesOn (deployment.rankedRound service query (windowEnd offset limit))
        offset.toNat limit.toNat := by
  unfold rankedPage
  split
  · rename_i none
    rw [none]
    exact (entitiesOn_zero _ _).symm
  · rfl

theorem AnswersSteadily.rankedPage_eq {offset limit : UInt64} {ranked : List ScoredHit}
    (answers : deployment.AnswersSteadily service query (windowEnd offset limit))
    (chronicles : deployment.ShowsChronicles service.index.name)
    (positive : windowEnd offset limit ≠ 0)
    (ranks : IsRanking (clipped (windowEnd offset limit).toNat
      (deployment.listings service.index.name query)) ranked) :
    (deployment.rankedPage service query offset limit).2 =
      entitiesOn ranked offset.toNat limit.toNat := by
  rw [Deployment.rankedPage_eq, (answers.isRanking chronicles positive).unique ranks]

/-- Searches of an index see the same in both deployments. -/
structure SeesSame (first second : Deployment) (indexName : String) : Prop where
  cluster : first.cluster = second.cluster
  visible : first.visible indexName = second.visible indexName

theorem SeesSame.listings {first second : Deployment} {indexName : String}
    (same : first.SeesSame second indexName) (query : String) :
    first.listings indexName query = second.listings indexName query := by
  rw [Deployment.listings, Deployment.listings, same.cluster, same.visible]

theorem IsDescribed.showsChronicles (described : deployment.IsDescribed) (indexName : String) :
    deployment.ShowsChronicles indexName := by
  intro number index content isVisible
  obtain ⟨⟨id, found⟩, isFound, same⟩ := Option.map_eq_some_iff.1 isVisible
  have shown : found.snapshot = some content := congrArg Prod.snd same
  exact described.snapshots id found content (present_of_serviceAt? isFound) shown

/-- The greatest number of hits that can be asked for. -/
def wholeSize : Nat := UInt64.size - 1

theorem lt_size {size : Nat} (within : size ≤ wholeSize) : size < UInt64.size :=
  Nat.lt_of_le_of_lt within (by decide)

theorem toNat_ofNat {size : Nat} (within : size ≤ wholeSize) :
    (UInt64.ofNat size).toNat = size :=
  UInt64.toNat_ofNat_of_lt' (lt_size within)

theorem ofNat_ne_zero {size : Nat} (positive : 0 < size) (within : size ≤ wholeSize) :
    UInt64.ofNat size ≠ 0 := by
  intro none
  have same := congrArg UInt64.toNat none
  rw [toNat_ofNat within] at same
  exact Nat.ne_of_gt positive same

/-- For a page the nodes are asked for as many hits as it and all before it hold. -/
theorem windowEnd_ofNat {offset limit : UInt64} {size : Nat} (within : size ≤ wholeSize)
    (ends : offset.toNat + limit.toNat = size) : windowEnd offset limit = UInt64.ofNat size := by
  apply UInt64.toNat_inj.1
  rw [toNat_ofNat within, ← ends]
  exact toNat_windowEnd (by rw [ends]; exact lt_size within)

/-- In deployments that see the same, the pages of one are slices of the lists of the other
exactly if the ranking of all hits is covered by the listings of the nodes. -/
theorem pages_iff_isCovered {earlier later : Deployment}
    (chronicles : earlier.ShowsChronicles service.index.name)
    (same : later.SeesSame earlier service.index.name)
    (earlierAnswers : ∀ limit, limit ≠ 0 → earlier.AnswersSteadily service query limit)
    (laterAnswers : ∀ limit, limit ≠ 0 → later.AnswersSteadily service query limit) :
    (∀ offset limit size : UInt64, offset.toNat + limit.toNat ≤ size.toNat →
        (later.rankedPage service query offset limit).2 =
          ((earlier.rankedPage service query 0 size).2.drop offset.toNat).take limit.toNat) ↔
      IsCovered (earlier.listings service.index.name query)
        (earlier.rankedRound service query (UInt64.ofNat wholeSize)) wholeSize := by
  have listings := isListing_listings chronicles query
  have laterChronicles : later.ShowsChronicles service.index.name := by
    intro number index content isVisible
    rw [same.visible] at isVisible
    exact chronicles number index content isVisible
  have ranks : ∀ size, 0 < size → size ≤ wholeSize →
      IsRanking (clipped size (earlier.listings service.index.name query))
        (earlier.rankedRound service query (UInt64.ofNat size)) := by
    intro size positive within
    have nonzero := ofNat_ne_zero positive within
    have ranked := (earlierAnswers _ nonzero).isRanking chronicles nonzero
    rw [toNat_ofNat within] at ranked
    exact ranked
  have sameRound : ∀ size, 0 < size → size ≤ wholeSize →
      later.rankedRound service query (UInt64.ofNat size) =
        earlier.rankedRound service query (UInt64.ofNat size) := by
    intro size positive within
    have nonzero := ofNat_ne_zero positive within
    have ranked := (laterAnswers _ nonzero).isRanking laterChronicles nonzero
    rw [toNat_ofNat within, same.listings] at ranked
    exact ranked.unique (ranks size positive within)
  have laterPage : ∀ offset limit : UInt64, offset.toNat + limit.toNat ≤ wholeSize →
      (later.rankedPage service query offset limit).2 =
        entitiesOn (earlier.rankedRound service query
          (UInt64.ofNat (offset.toNat + limit.toNat))) offset.toNat limit.toNat := by
    intro offset limit within
    rw [rankedPage_eq, windowEnd_ofNat within rfl]
    rcases Nat.eq_zero_or_pos limit.toNat with none | some
    · rw [none, entitiesOn_zero, entitiesOn_zero]
    · rw [sameRound _ (Nat.add_pos_right _ some) within]
  have earlierList : ∀ size : UInt64, (earlier.rankedPage service query 0 size).2 =
      entitiesOn (earlier.rankedRound service query (UInt64.ofNat size.toNat)) 0 size.toNat := by
    intro size
    have ends : (0 : UInt64).toNat + size.toNat = size.toNat := Nat.zero_add size.toNat
    rw [rankedPage_eq, windowEnd_ofNat (Nat.le_pred_of_lt size.toNat_lt_size) ends]
    rfl
  rw [← slices_iff_isCovered listings ranks]
  constructor
  · intro slices offset count size inside within
    have page := slices (UInt64.ofNat offset) (UInt64.ofNat count) (UInt64.ofNat size)
    rw [laterPage, earlierList, toNat_ofNat within, toNat_ofNat (by omega),
      toNat_ofNat (by omega)] at page
    · exact page inside
    · rw [toNat_ofNat (by omega), toNat_ofNat (by omega)]
      omega
  · intro slices offset limit size inside
    have within : size.toNat ≤ wholeSize := Nat.le_pred_of_lt size.toNat_lt_size
    rw [laterPage offset limit (Nat.le_trans inside within), earlierList]
    exact slices offset.toNat limit.toNat size.toNat inside within

/-- Pages and lists that are asked for while nothing changes: the pages are slices of the
lists exactly if every hit of the ranking of all hits stands, on some node, no further from
the front than in the ranking. -/
theorem pages_are_slices_iff (operations : List DeploymentOperation) {earlier later : Deployment}
    (reached : empty.run operations = earlier)
    (same : later.SeesSame earlier service.index.name)
    (earlierAnswers : ∀ limit, limit ≠ 0 → earlier.AnswersSteadily service query limit)
    (laterAnswers : ∀ limit, limit ≠ 0 → later.AnswersSteadily service query limit) :
    (∀ offset limit size : UInt64, offset.toNat + limit.toNat ≤ size.toNat →
        (later.rankedPage service query offset limit).2 =
          ((earlier.rankedPage service query 0 size).2.drop offset.toNat).take limit.toNat) ↔
      IsCovered (earlier.listings service.index.name query)
        (earlier.rankedRound service query (UInt64.ofNat wholeSize)) wholeSize := by
  have described := isDescribed_empty.run operations
  rw [reached] at described
  exact pages_iff_isCovered (described.showsChronicles _) same earlierAnswers laterAnswers

/-- Where every node lists equal scores in the order of the identifiers, all pages are
slices. -/
theorem pages_of_sorted_listings (operations : List DeploymentOperation)
    {earlier later : Deployment} (reached : empty.run operations = earlier)
    (same : later.SeesSame earlier service.index.name)
    (earlierAnswers : ∀ limit, limit ≠ 0 → earlier.AnswersSteadily service query limit)
    (laterAnswers : ∀ limit, limit ≠ 0 → later.AnswersSteadily service query limit)
    (sorted : ∀ listing ∈ earlier.listings service.index.name query,
      listing.Pairwise fun first second => ranksBefore first second = true)
    {offset limit size : UInt64} (inside : offset.toNat + limit.toNat ≤ size.toNat) :
    (later.rankedPage service query offset limit).2 =
      ((earlier.rankedPage service query 0 size).2.drop offset.toNat).take limit.toNat := by
  have described := isDescribed_empty.run operations
  rw [reached] at described
  have chronicles := described.showsChronicles service.index.name
  refine (pages_iff_isCovered chronicles same earlierAnswers laterAnswers).2 ?_ offset limit size
    inside
  have nonzero : UInt64.ofNat wholeSize ≠ 0 := ofNat_ne_zero (by decide) (Nat.le_refl _)
  have ranked := (earlierAnswers _ nonzero).isRanking chronicles nonzero
  rw [toNat_ofNat (Nat.le_refl _)] at ranked
  exact isCovered_of_sorted sorted (isListing_listings chronicles query) ranked

/-- A node with three issues, of which the first was indexed again. -/
def reindexedIssues : Deployment :=
  empty.run
    [.join "a" 1, .install IndexLife.issueOwner "issue" "a", .work 1 .start,
      .work 1 (.transact (.ok [.upsert ⟨1, 1, [("state", .text "open")]⟩,
        .upsert ⟨2, 1, [("state", .text "open")]⟩, .upsert ⟨3, 1, [("state", .text "open")]⟩])),
      .work 1 (.transact (.ok [.upsert ⟨1, 1, [("state", .text "open")]⟩])), .work 1 .refresh]

/-- The node lists the issues in the order of their documents. -/
def reindexedListing : List ScoredHit :=
  [(2, .ofNat 1), (3, .ofNat 1), (1, .ofNat 1)]

theorem listings_reindexedIssues :
    reindexedIssues.listings "issue" "*:*" = [reindexedListing] := by
  have members : reindexedIssues.cluster.members = ["a"] := by decide +kernel
  have handler : handlerOf reindexedIssues.cluster "a" = some 0 := rfl
  have shown : (reindexedIssues.visible "issue" 0).bind (fun found =>
      found.2.bind fun content => (found.1.plan "*:*").toOption.map fun plan =>
        let numbers := (content.hits plan).filter (!·.score.isNaN)
        (decide (numbers.Pairwise fun earlier later => earlier.precedes later = true),
          numbers.filterMap fun hit => hit.entity?.map (·, hit.score))) =
      some (true, reindexedListing) := by
    decide +kernel
  obtain ⟨⟨index, snapshot⟩, isVisible, inSnapshot⟩ := Option.bind_eq_some_iff.1 shown
  obtain ⟨content, rfl, inContent⟩ := Option.bind_eq_some_iff.1 inSnapshot
  obtain ⟨plan, accepted, both⟩ := Option.map_eq_some_iff.1 inContent
  obtain ⟨sorted, hits⟩ := Prod.mk.inj both
  have listed := (IndexContent.listing_of_pairwise (of_decide_eq_true sorted)).trans hits
  rw [listings, members, List.map_singleton, handler, Option.bind_some, isVisible, listingOf,
    toOption_eq_some_iff.1 accepted]
  exact congrArg ([·]) listed

/-- The only node answers all searches for all issues. -/
theorem exists_reindexedService :
    ∃ service, reindexedIssues.services.get? 1 = some service ∧ service.index.name = "issue" ∧
      ∀ limit, limit ≠ 0 → reindexedIssues.AnswersSteadily service "*:*" limit := by
  have chronicles : ∀ indexName, reindexedIssues.ShowsChronicles indexName :=
    (isDescribed_empty.run _).showsChronicles
  have members : reindexedIssues.cluster.members = ["a"] := by decide +kernel
  have sent : reindexedIssues.cluster.send "a" = .underway (some 0) none := rfl
  have present : (reindexedIssues.services.get? 1).map (·.index.name) = some "issue" := by
    decide +kernel
  have shown : (reindexedIssues.visible "issue" 0).map
      (fun found => (found.1.plan "*:*").toOption.isSome) = some true := by decide +kernel
  obtain ⟨service, isService, name⟩ := Option.map_eq_some_iff.1 present
  obtain ⟨⟨index, snapshot⟩, isVisible, accepts⟩ := Option.map_eq_some_iff.1 shown
  obtain ⟨plan, isPlan⟩ := Option.isSome_iff_exists.1 accepts
  have listed : listingOf "*:*" (some (index, snapshot)) = reindexedListing := by
    have onNode := listings_reindexedIssues
    rw [listings, members, List.map_singleton, handlerOf_of_send sent, Option.bind_some,
      isVisible] at onNode
    exact List.singleton_inj.1 onNode
  refine ⟨service, isService, name, fun limit positive => ?_⟩
  refine answersSteadily_of_responds (chronicles _) (fun node isMember => ?_) positive
  rw [members, List.mem_singleton] at isMember
  refine ⟨0, index, snapshot, isMember ▸ sent, name ▸ isVisible,
    ⟨plan, toOption_eq_some_iff.1 isPlan⟩, ?_⟩
  rw [listed]
  decide +kernel

/-- Of the issues it depends on what the node lists, and in which order. -/
theorem reindexed_pages_are_slices_iff :
    ∃ service, reindexedIssues.services.get? 1 = some service ∧
      ((∀ offset limit size : UInt64, offset.toNat + limit.toNat ≤ size.toNat →
          (reindexedIssues.rankedPage service "*:*" offset limit).2 =
            ((reindexedIssues.rankedPage service "*:*" 0 size).2.drop offset.toNat).take
              limit.toNat) ↔
        IsCovered (reindexedIssues.listings service.index.name "*:*")
          (reindexedIssues.rankedRound service "*:*" (UInt64.ofNat wholeSize)) wholeSize) := by
  obtain ⟨service, isService, -, answers⟩ := exists_reindexedService
  exact ⟨service, isService, pages_are_slices_iff _ rfl ⟨rfl, rfl⟩ answers answers⟩

/-- The first issue leads the ranking, but its document came last: the first page has the second
issue, the second page the third. -/
theorem reindexed_issue_is_on_no_page :
    ∃ service, reindexedIssues.services.get? 1 = some service ∧
      (∀ limit, limit ≠ 0 → reindexedIssues.AnswersSteadily service "*:*" limit) ∧
      (reindexedIssues.rankedPage service "*:*" 0 3).2 = [1, 2, 3] ∧
      (reindexedIssues.rankedPage service "*:*" 0 1).2 = [2] ∧
      (reindexedIssues.rankedPage service "*:*" 1 1).2 = [3] := by
  have chronicles : ∀ indexName, reindexedIssues.ShowsChronicles indexName :=
    (isDescribed_empty.run _).showsChronicles
  obtain ⟨service, isService, name, answers⟩ := exists_reindexedService
  have pages : ∀ (offset limit : UInt64) (ranked : List ScoredHit), windowEnd offset limit ≠ 0 →
      IsRanking (clipped (windowEnd offset limit).toNat [reindexedListing]) ranked →
      (reindexedIssues.rankedPage service "*:*" offset limit).2 =
        entitiesOn ranked offset.toNat limit.toNat := by
    intro offset limit ranked positive ranks
    rw [← listings_reindexedIssues, ← name] at ranks
    exact (answers _ positive).rankedPage_eq (chronicles _) positive ranks
  refine ⟨service, isService, answers, ?whole, ?first, ?second⟩
  case whole =>
    exact pages 0 3 [(1, .ofNat 1), (2, .ofNat 1), (3, .ofNat 1)] (by decide)
      (.of_perm (by decide +kernel) (by decide +kernel) (by decide +kernel))
  case first =>
    exact pages 0 1 [(2, .ofNat 1)] (by decide)
      (.of_perm (by decide +kernel) (by decide +kernel) (by decide +kernel))
  case second =>
    exact pages 1 1 [(2, .ofNat 1), (3, .ofNat 1)] (by decide)
      (.of_perm (by decide +kernel) (by decide +kernel) (by decide +kernel))

end Deployment

end EntitySearch
