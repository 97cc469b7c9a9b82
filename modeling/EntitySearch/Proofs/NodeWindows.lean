import EntitySearch.Proofs.CommandAnswers
import EntitySearch.Proofs.CountRounds

/-!
# Windows of nodes

A node finds the best of its hits for a query, and the search command shows a
window of all of them.  Each asks the engine for no more hits than there are live
documents, and neither bound shows in what is found.  Only a hit whose score is
no number is counted and left out.
-/

namespace EntitySearch

open Numeric (Single)

namespace Table

variable {Key Value : Type} [LT Key] [DecidableLT Key] [DecidableEq Key] [LE Key]
  [Std.IsLinearOrder Key] [Std.LawfulOrderLT Key]

theorem entries_ofList_perm {entries : List (Key × Value)} (distinct : (entries.map (·.1)).Nodup) :
    (ofList entries).entries.Perm entries := by
  apply (List.perm_ext_iff_of_nodup (List.Nodup.of_map _ (ofList entries).nodup_keys)
    (List.Nodup.of_map _ distinct)).2
  intro entry
  exact mem_entries_ofList distinct

end Table

namespace IndexContent

variable {chronicle : Chronicle} {content : IndexContent} {translator : Translator}
  {query : String} {plan : QueryPlan} {limit : Nat} {found : ScoredEntities}

theorem clampedLimit_bounds (content : IndexContent) (inhabited : content.live ≠ [])
    (limit : Nat) :
    1 ≤ content.clampedLimit limit ∧ content.clampedLimit limit ≤ content.live.length := by
  have positive := List.length_pos_iff.2 inhabited
  rw [clampedLimit]
  omega

/-- A window is cut out of the ranked hits, whatever is asked for. -/
theorem window_eq (content : IndexContent) (plan : QueryPlan) (offset limit : Nat) :
    content.window plan offset limit = ((content.rankedHits plan).drop offset).take limit := by
  have atMost := content.length_rankedHits_le plan
  simp only [window]
  split
  case isTrue within =>
    -- no more hits stand behind the offset than there are documents to ask for
    rw [← List.take_take]
    congr 1
    apply List.take_of_length_le
    rw [List.length_drop]
    omega
  case isFalse beyond =>
    rcases Nat.eq_zero_or_pos limit with none | some
    · rw [none, List.take_zero]
    · rw [List.drop_eq_nil_of_le (by omega), List.take_nil]

theorem length_rankedHits_eq_iff :
    (content.rankedHits plan).length = content.count plan ↔
      ∀ hit ∈ content.hits plan, hit.score.isNaN = false := by
  have sameLength : content.count plan = (content.hits plan).length := by
    rw [count, hits, List.length_map]
  rw [sameLength, rankedHits, List.length_mergeSort, List.length_filter_eq_length_iff]
  simp only [Bool.not_eq_true']

/-- What is found with a limit is the best there is: as many entities as can be ranked up to the
limit, each with the score of a hit, and no hit of another entity has a better score. -/
structure FindsBest (content : IndexContent) (plan : QueryPlan) (limit : Nat)
    (found : ScoredEntities) : Prop where
  size : found.entries.length = min limit (content.rankedHits plan).length
  scored : ∀ entry ∈ found.entries, ∃ hit ∈ content.hits plan,
    hit.entity? = some entry.1 ∧ hit.score = entry.2
  best : ∀ hit ∈ content.hits plan, (∀ entry ∈ found.entries, hit.entity? ≠ some entry.1) →
    ∀ entry ∈ found.entries, hit.score.exceeds entry.2 = false

/-- With the limit there is an entity for every match up to it, unless the limit reaches beyond
the hits that can be ranked and some hit cannot. -/
theorem FindsBest.size_eq_iff (finds : content.FindsBest plan limit found) :
    found.entries.length = min limit (content.count plan) ↔
      limit ≤ (content.rankedHits plan).length ∨
        ∀ hit ∈ content.hits plan, hit.score.isNaN = false := by
  have atMost : (content.rankedHits plan).length ≤ content.count plan := by
    rw [rankedHits, List.length_mergeSort, count]
    refine Nat.le_trans (List.length_filter_le _ _) ?_
    rw [hits, List.length_map]
  rw [finds.size, ← length_rankedHits_eq_iff]
  omega

theorem findsBest_take (describes : chronicle.Describes content)
    (accepted : translator.translate query = .ok plan) (limit : Nat) :
    content.FindsBest plan limit (Table.ofList ((content.listing plan).take limit)) := by
  have lists := isListing_listing describes accepted
  have distinct : (((content.listing plan).take limit).map (·.1)).Nodup :=
    lists.distinct.sublist ((List.take_sublist _ _).map _)
  have sameEntries := Table.entries_ofList_perm distinct
  have listed := listing_eq_map describes accepted
  have entryOf : ∀ hit ∈ content.rankedHits plan, hit.entity? = some (entry hit).1 := by
    intro hit ranked
    obtain ⟨id, isEntity⟩ := Option.isSome_iff_exists.1 (isSome_entity? describes accepted ranked)
    rw [isEntity, entry, isEntity, Option.getD_some]
  refine ⟨?size, fun shown isShown => ?scored, fun hit isHit absent shown isShown => ?best⟩
  case size =>
    rw [sameEntries.length_eq, List.length_take, listed, List.length_map]
  case scored =>
    have inside := List.mem_of_mem_take (sameEntries.mem_iff.1 isShown)
    rw [listed] at inside
    obtain ⟨hit, ranked, rfl⟩ := List.mem_map.1 inside
    exact ⟨hit, (mem_rankedHits.1 ranked).1, entryOf hit ranked, rfl⟩
  case best =>
    -- a score that is no number is above none; any other hit stands behind the front
    cases number : hit.score.isNaN with
    | true =>
        rw [Single.exceeds, number]
        rfl
    | false =>
        have ranked := mem_rankedHits.2 ⟨isHit, number⟩
        have inside : entry hit ∈ content.listing plan := by
          rw [listed]
          exact List.mem_map_of_mem ranked
        have behind : entry hit ∉ (content.listing plan).take limit := fun near =>
          absent _ (sameEntries.mem_iff.2 near) (entryOf hit ranked)
        have noBetter := lists.rank_le_of_take inside behind (sameEntries.mem_iff.1 isShown)
        have notAbove : ¬ shown.2.rank < hit.score.rank := by
          change hit.score.rank ≤ shown.2.rank at noBetter
          omega
        rw [Single.exceeds, decide_eq_false notAbove, Bool.and_false]

end IndexContent

namespace CommandLine.Site

variable {site : Site} {name query : String} {content : IndexContent} {plan : QueryPlan}

/-- The search command shows the asked entries of all ranked hits, or as many as there are. -/
theorem run_search (opened : site.openIndex name = .ok content)
    (planned : planFor content query = .ok plan) (offset limit : UInt64) :
    site.run (.search name query offset limit) =
      .ok (.hits ((((content.rankedHits plan).drop offset.toNat).take limit.toNat).map shown)) := by
  have searched : site.run (.search name query offset limit) = do
      let plan ← planFor content query
      return .hits ((content.window plan offset.toNat limit.toNat).map shown) := by
    rw [run, opened]
    rfl
  rw [searched, planned, ← content.window_eq]
  rfl

end CommandLine.Site

namespace IndexLife

/-- Whatever has happened to an index, an open one finds the best entities for every accepted
query and every limit. -/
theorem search_finds_best (owner : EntityIndex) {directory : IndexDirectory}
    (unbuilt : directory.content? = none) (operations : List IndexOperation)
    {content : IndexContent}
    (shown : ((begin owner directory).run operations).index.snapshot = some content)
    {index : EntityIndex} {query : String} {plan : QueryPlan}
    (accepted : index.plan query = .ok plan) (limit : UInt64) :
    ∃ found, index.localSearch (some content) query limit = .ok found ∧
      content.FindsBest plan limit.toNat found := by
  have describes := ((sound_begin owner unbuilt).run operations).describes (.inr shown)
  have translated := Deployment.translate_of_plan accepted
  refine ⟨_, ?_, IndexContent.findsBest_take describes translated limit.toNat⟩
  rw [EntityIndex.localSearch]
  split
  case isTrue none =>
    rw [none]
    rfl
  case isFalse some =>
    have positive : 0 < limit.toNat := Nat.pos_of_ne_zero fun none =>
      some (UInt64.toNat_inj.1 none)
    rw [accepted, ← content.bestScores_eq describes translated positive]
    rfl

/-- The life of an index that an open issue has come to. -/
def openIssue : IndexLife :=
  (begin issueOwner .missing).run
    [.start, .transact (.ok [.upsert ⟨1, 1, [("state", .text "open")]⟩])]

/-- The best two of all issues are the only one. -/
theorem open_issue_is_best :
    ∃ content plan found, openIssue.index.snapshot = some content ∧
      issueOwner.plan "*:*" = .ok plan ∧
      issueOwner.localSearch (some content) "*:*" 2 = .ok found ∧
      content.FindsBest plan 2 found := by
  have isOpen : openIssue.index.snapshot.isSome = true := by decide +kernel
  have accepts : (issueOwner.plan "*:*").toOption.isSome = true := by decide +kernel
  obtain ⟨content, shown⟩ := Option.isSome_iff_exists.1 isOpen
  obtain ⟨plan, isPlan⟩ := Option.isSome_iff_exists.1 accepts
  have accepted := toOption_eq_some_iff.1 isPlan
  obtain ⟨found, answered, finds⟩ := search_finds_best issueOwner rfl _ shown accepted 2
  exact ⟨content, plan, found, shown, accepted, answered, finds⟩

/-- All issues, with a boost of zero inside of one that is infinite as a single. -/
def cancelledBoost : String :=
  "(*:*^0)^1000000000000000000000000000000000000000"

/-- The issue is counted, but its score is no number and no limit finds it. -/
theorem cancelled_boost_hides_issue :
    openIssue.index.isOpen = true ∧
      openIssue.owner.localCount openIssue.index.snapshot cancelledBoost = .ok 1 ∧
      ∀ limit, openIssue.owner.localSearch openIssue.index.snapshot cancelledBoost limit =
        .ok Table.empty := by
  have isOpen : openIssue.index.isOpen = true := by decide +kernel
  have asked : (openIssue.index.snapshot.map fun content =>
      ((openIssue.owner.plan cancelledBoost).toOption.map fun plan =>
        (content.count plan, (content.rankedHits plan).isEmpty))) = some (some (1, true)) := by
    decide +kernel
  obtain ⟨content, shown, planned⟩ := Option.map_eq_some_iff.1 asked
  obtain ⟨plan, isPlan, answered⟩ := Option.map_eq_some_iff.1 planned
  have accepted := toOption_eq_some_iff.1 isPlan
  obtain ⟨counted, noneRanked⟩ := Prod.mk.inj answered
  refine ⟨isOpen, ?count, fun limit => ?search⟩
  case count =>
    rw [shown, EntityIndex.localCount, accepted, Except.map, counted]
    rfl
  case search =>
    rw [shown, EntityIndex.localSearch, accepted]
    split
    · rfl
    · rw [Except.map, IndexContent.bestScores, List.isEmpty_iff.1 noneRanked, List.take_nil]
      rfl

end IndexLife

end EntitySearch
