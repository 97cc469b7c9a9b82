import EntitySearch.Proofs.IndexLife
import EntitySearch.Proofs.Pagination
import Mathlib.Algebra.Order.BigOperators.Group.List

/-!
# Rounds of a count

A count adds up what the nodes match, a search ranks what they list.  A hit whose
score is no number is matched but not listed, and an answer with an infinite score
does not arrive at all.  So where every node answers and no entity is indexed twice,
the count is the length of the whole ranking exactly if all hits have finite scores.
-/

namespace EntitySearch

open Numeric (Single)

namespace Gathered

variable {expected : NodeAddress → Except NodeFailure ClusterResponse} {nodes : List NodeAddress}
  {gathered : Gathered}

theorem Records.responses_iff
    (records : gathered.Records (fun node outcome => node ∈ nodes ∧ outcome = expected node) nodes)
    {node : NodeAddress} {response : ClusterResponse} :
    gathered.responses.get? node = some response ↔
      node ∈ nodes ∧ expected node = .ok response := by
  constructor
  · intro recorded
    obtain ⟨inside, same⟩ := records.responses node response recorded
    exact ⟨inside, same.symm⟩
  · rintro ⟨inside, answered⟩
    rcases records.complete node inside with responded | failed
    · obtain ⟨other, isOther⟩ := Option.isSome_iff_exists.1 responded
      have same := (records.responses node other isOther).2
      rw [answered] at same
      rw [isOther, Except.ok.inj same]
    · obtain ⟨failure, isFailure⟩ := Option.isSome_iff_exists.1 failed
      have same := (records.failures node failure isFailure).2
      rw [answered] at same
      cases same

theorem Records.values_perm
    (records : gathered.Records (fun node outcome => node ∈ nodes ∧ outcome = expected node) nodes)
    (distinct : nodes.Nodup) :
    gathered.responses.values.Perm (nodes.filterMap fun node => (expected node).toOption) := by
  have entries : gathered.responses.entries.Perm
      (nodes.filterMap fun node => (expected node).toOption.map (node, ·)) := by
    -- No node is there twice on either side, so it is enough to compare the members.
    apply (List.perm_ext_iff_of_nodup (List.Nodup.of_map _ gathered.responses.nodup_keys) ?_).2
    · rintro ⟨node, response⟩
      rw [Table.mem_entries_iff, records.responses_iff, List.mem_filterMap]
      constructor
      · rintro ⟨inside, answered⟩
        exact ⟨node, inside, by rw [answered]; rfl⟩
      · rintro ⟨other, inside, made⟩
        obtain ⟨found, isFound, same⟩ := Option.map_eq_some_iff.1 made
        cases same
        exact ⟨inside, toOption_eq_some_iff.1 isFound⟩
    · apply distinct.filterMap
      intro first second shared isFirst isSecond
      obtain ⟨_, _, sameFirst⟩ := Option.map_eq_some_iff.1 isFirst
      obtain ⟨_, _, sameSecond⟩ := Option.map_eq_some_iff.1 isSecond
      exact congrArg Prod.fst (sameFirst.trans sameSecond.symm)
  have values := entries.map (·.2)
  rw [List.map_filterMap] at values
  simpa [Table.values, Option.map_map, Function.comp_def] using values

end Gathered

theorem sumCounts_perm {first second : List ClusterResponse} (same : first.Perm second) :
    sumCounts first = sumCounts second := by
  apply same.foldl_eq'
  intro one _ other _ total
  rw [UInt64.add_assoc, UInt64.add_comm one.counted, ← UInt64.add_assoc]

theorem sumCounts_map_ofNat (sizes : List Nat) :
    sumCounts (sizes.map fun size => .count (UInt64.ofNat size)) = UInt64.ofNat sizes.sum := by
  -- The sum starts at any number, as the fold over the rest of the answers does.
  have shifted (start : Nat) : (sizes.map fun size => ClusterResponse.count
      (UInt64.ofNat size)).foldl (fun total answer => total + answer.counted)
        (UInt64.ofNat start) = UInt64.ofNat (start + sizes.sum) := by
    induction sizes generalizing start with
    | nil => rfl
    | cons size sizes ih =>
        rw [List.map_cons, List.foldl_cons, List.sum_cons, ← Nat.add_assoc, ← ih (start + size),
          UInt64.ofNat_add]
        rfl
  have fromZero := shifted 0
  rw [Nat.zero_add] at fromZero
  exact fromZero

theorem IsRanking.length_eq {reported ranked : List ScoredHit}
    (whole : IsRanking reported ranked) (distinct : (reported.map (·.1)).Nodup) :
    ranked.length = reported.length := by
  have sameEntities : (ranked.map (·.1)).Perm (reported.map (·.1)) := by
    apply (List.perm_ext_iff_of_nodup whole.distinct distinct).2
    intro id
    simp only [List.mem_map]
    constructor
    · rintro ⟨hit, inside, rfl⟩
      exact ⟨hit, ((whole.members hit).1 inside).1, rfl⟩
    · rintro ⟨hit, inside, rfl⟩
      exact whole.complete hit inside
  simpa using sameEntities.length_eq

theorem sum_map_eq_iff {Member : Type} {members : List Member} {small large : Member → Nat}
    (atMost : ∀ member ∈ members, small member ≤ large member) :
    (members.map small).sum = (members.map large).sum ↔
      ∀ member ∈ members, small member = large member := by
  induction members with
  | nil => simp
  | cons member members ih =>
      have first := atMost member List.mem_cons_self
      have later := fun other inside => atMost other (List.mem_cons_of_mem _ inside)
      have sums : (members.map small).sum ≤ (members.map large).sum :=
        List.sum_le_sum later
      rw [List.forall_mem_cons, ← ih later, List.map_cons, List.map_cons, List.sum_cons,
        List.sum_cons]
      omega

namespace IndexContent

variable {chronicle : Chronicle} {content : IndexContent} {translator : Translator}
  {query : String} {plan : QueryPlan}

def indexedIds (content : IndexContent) : List EntityId :=
  (content.ofKind .entity).filterMap fun stored =>
    stored.document.storedUnsigned? CoreField.entity

theorem mem_indexedIds_of_listing (accepted : translator.translate query = .ok plan)
    {hit : ScoredHit} (inside : hit ∈ content.listing plan) : hit.1 ∈ content.indexedIds := by
  obtain ⟨ranked, isRanked, made⟩ := List.mem_filterMap.1 inside
  obtain ⟨id, isEntity, rfl⟩ := Option.map_eq_some_iff.1 made
  have known := (subperm_entities accepted).subset (List.mem_map_of_mem isRanked)
  obtain ⟨stored, ofEntity, same⟩ := List.mem_map.1 known
  exact List.mem_filterMap.2 ⟨stored, ofEntity, same.trans isEntity⟩

theorem scores_listing_perm (describes : chronicle.Describes content)
    (accepted : translator.translate query = .ok plan) :
    ((content.listing plan).map (·.2)).Perm
      (((content.hits plan).map (·.score)).filter (!·.isNaN)) := by
  rw [listing_eq_map describes accepted, List.map_map, List.filter_map]
  exact (List.mergeSort_perm _ _).map _

end IndexContent

/-- What arrives of a listing: all of it, or nothing if a score is not finite. -/
def arriving (listing : List ScoredHit) : List ScoredHit :=
  if listing.all (·.2.isFinite) then listing else []

theorem arriving_sublist (listing : List ScoredHit) : (arriving listing).Sublist listing := by
  unfold arriving
  split
  · exact List.Sublist.refl _
  · exact List.nil_sublist _

/-- A listing of the matched hits that are numbers arrives with all matched ones exactly if
these are finite. -/
theorem length_arriving_eq_iff {listing : List ScoredHit} {matched : List Single}
    (lists : (listing.map (·.2)).Perm (matched.filter (!·.isNaN))) :
    (arriving listing).length = matched.length ↔ ∀ score ∈ matched, score.isFinite = true := by
  have sizes := lists.length_eq
  rw [List.length_map] at sizes
  unfold arriving
  split
  case isTrue finite =>
    rw [sizes, List.length_filter_eq_length_iff]
    constructor
    · intro numbers score inside
      have listed := lists.mem_iff.2 (List.mem_filter.2 ⟨inside, numbers score inside⟩)
      obtain ⟨hit, isListed, rfl⟩ := List.mem_map.1 listed
      exact List.all_eq_true.1 finite hit isListed
    · intro allFinite score inside
      rw [Single.isNaN_of_isFinite (allFinite score inside)]
      rfl
  case isFalse infinite =>
    -- Nothing arrives, so a hit with an infinite score makes the difference.
    constructor
    · intro none score inside
      rw [List.eq_nil_of_length_eq_zero none.symm] at inside
      cases inside
    · intro allFinite
      refine absurd (List.all_eq_true.2 fun hit inside => ?_) infinite
      have listed := lists.mem_iff.1 (List.mem_map_of_mem inside)
      exact allFinite hit.2 (List.mem_filter.1 listed).1

theorem length_le_of_scores_perm {listing : List ScoredHit} {matched : List Single}
    (lists : (listing.map (·.2)).Perm (matched.filter (!·.isNaN))) :
    listing.length ≤ matched.length := by
  have sizes := lists.length_eq
  rw [List.length_map] at sizes
  rw [sizes]
  exact List.length_filter_le _ _

namespace Deployment

variable {deployment : Deployment} {service : Service} {indexName query : String}
  {node : NodeAddress} {task : ClusterTask}
  {told : EntityIndex → Option IndexContent → Except SearchFailure ClusterResponse}

/-- What searches can see of a member. -/
def seenOf (deployment : Deployment) (indexName : String) (node : NodeAddress) :
    Option (EntityIndex × Option IndexContent) :=
  (handlerOf deployment.cluster node).bind (deployment.visible indexName)

def indexedOn (deployment : Deployment) (indexName : String) (node : NodeAddress) :
    List EntityId :=
  match deployment.seenOf indexName node with
  | some (_, some content) => content.indexedIds
  | _ => []

def matchedOn (deployment : Deployment) (indexName query : String) (node : NodeAddress) :
    List Single :=
  match deployment.seenOf indexName node with
  | some (index, some content) =>
      match index.plan query with
      | .ok plan => (content.hits plan).map (·.score)
      | .error _ => []
  | _ => []

/-- The hits of a query that arrive from a member. -/
def arrivingFrom (deployment : Deployment) (indexName query : String) (node : NodeAddress) :
    List ScoredHit :=
  arriving (listingOf query (deployment.seenOf indexName node))

/-- What is heard of a member to which a question gets in time. -/
def heardOf (deployment : Deployment) (indexName : String)
    (told : EntityIndex → Option IndexContent → Except SearchFailure ClusterResponse)
    (node : NodeAddress) : Except NodeFailure ClusterResponse :=
  match deployment.seenOf indexName node with
  | some (index, snapshot) =>
      (told index snapshot).mapError SearchFailure.toNode >>= Cluster.receive
  | none => .error (.unknownIndex indexName)

/-- A member gets questions in time, its handler has the index, and this accepts the query. -/
def Serves (deployment : Deployment) (service : Service) (query : String)
    (node : NodeAddress) : Prop :=
  ∃ number delay index snapshot plan,
    deployment.cluster.send node = .underway (some number) delay ∧
    (∀ wait, delay = some wait → wait ≤ service.index.settings.cluster.answerTimeout.toNat) ∧
    deployment.visible service.index.name number = some (index, snapshot) ∧
    index.plan query = .ok plan

theorem tells_of_serves (asks : task.Asks told) (names : task.index = service.index.name)
    (serves : ∀ node ∈ deployment.cluster.members, deployment.Serves service query node) :
    Cluster.Tells taskRunner deployment.cluster task
      service.index.settings.cluster.answerTimeout.toNat (visible · service.index.name)
      (deployment.visible service.index.name)
      (fun node outcome => node ∈ deployment.cluster.members ∧
        outcome = deployment.heardOf service.index.name told node) where
  keeps := visible_deliver asks
  refused := by
    intro node isMember failure refused
    obtain ⟨number, delay, _, _, _, sent, _⟩ := serves node isMember
    rw [sent] at refused
    cases refused
  delivered := by
    intro node isMember world handler delay started underway
    obtain ⟨number, _, index, snapshot, _, sent, _, isVisible, _⟩ := serves node isMember
    have isHandler := handlerOf_of_send sent
    rw [sent] at underway
    cases underway
    have seen : world.visible task.index number = some (index, snapshot) := by
      rw [names]
      exact (congrFun started number).trans isVisible
    refine ⟨isMember, ?_⟩
    rw [deliver_of_visible asks seen, heardOf, seenOf, isHandler, Option.bind_some, isVisible]
  late := by
    intro node isMember handler delay isLate underway
    obtain ⟨_, _, _, _, _, sent, timely, _⟩ := serves node isMember
    rw [sent] at underway
    cases underway
    exact absurd (timely delay rfl) (Nat.not_le_of_lt isLate)

/-- Where all members serve, a round gathers what arrives from each. -/
theorem values_broadcast_perm (asks : task.Asks told) (names : task.index = service.index.name)
    (serves : ∀ node ∈ deployment.cluster.members, deployment.Serves service query node)
    (steady : deployment.IsSteady service task) :
    (deployment.broadcast service task).2.responses.values.Perm
      (deployment.cluster.members.filterMap fun node =>
        (deployment.heardOf service.index.name told node).toOption) :=
  ((tells_of_serves asks names serves).broadcast rfl steady).values_perm
    deployment.cluster.nodes.nodup_keys

theorem Serves.exists_seenOf (serves : deployment.Serves service query node) :
    ∃ index snapshot plan, deployment.seenOf service.index.name node = some (index, snapshot) ∧
      index.plan query = .ok plan := by
  obtain ⟨number, _, index, snapshot, plan, sent, _, isVisible, accepted⟩ := serves
  refine ⟨index, snapshot, plan, ?_, accepted⟩
  rw [seenOf, handlerOf_of_send sent, Option.bind_some, isVisible]

theorem heardOf_of_seen {indexName : String} {index : EntityIndex}
    {snapshot : Option IndexContent}
    (seen : deployment.seenOf indexName node = some (index, snapshot))
    (told : EntityIndex → Option IndexContent → Except SearchFailure ClusterResponse) :
    deployment.heardOf indexName told node =
      (told index snapshot).mapError SearchFailure.toNode >>= Cluster.receive := by
  rw [heardOf, seen]

theorem Serves.heardOf_count (serves : deployment.Serves service query node) :
    deployment.heardOf service.index.name
        (fun index snapshot => (index.localCount snapshot query).map .count) node =
      .ok (.count (UInt64.ofNat (deployment.matchedOn service.index.name query node).length)) := by
  obtain ⟨index, snapshot, plan, seen, accepted⟩ := serves.exists_seenOf
  cases snapshot with
  | none =>
      simp only [heardOf, matchedOn, seen, EntityIndex.localCount]
      exact receive_eq (.count 0)
  | some content =>
      simp only [heardOf, matchedOn, seen, EntityIndex.localCount, accepted, List.length_map,
        IndexContent.hits]
      exact receive_eq _

/-- A count is the number of all hits on all members. -/
theorem count_eq {plan : QueryPlan} (accepted : service.index.plan query = .ok plan)
    (serves : ∀ node ∈ deployment.cluster.members, deployment.Serves service query node)
    (steady : deployment.IsSteady service (.count service.index.name query)) :
    (deployment.count service query).2 = .ok (UInt64.ofNat (deployment.cluster.members.map
      fun node => (deployment.matchedOn service.index.name query node).length).sum) := by
  have gathered := values_broadcast_perm (ClusterTask.asks_count service.index.name query) rfl
    serves steady
  have heard : (deployment.cluster.members.filterMap fun node =>
      (deployment.heardOf service.index.name
        (fun index snapshot => (index.localCount snapshot query).map .count) node).toOption) =
      (deployment.cluster.members.map fun node =>
        (deployment.matchedOn service.index.name query node).length).map
          fun size => .count (UInt64.ofNat size) := by
    rw [List.map_map, ← List.filterMap_eq_map]
    apply List.filterMap_congr
    intro node isMember
    rw [(serves node isMember).heardOf_count]
    rfl
  rw [heard] at gathered
  unfold count
  rw [accepted]
  exact congrArg Except.ok ((sumCounts_perm gathered).trans (sumCounts_map_ofNat _))

theorem scores_listingOf_perm (chronicles : deployment.ShowsChronicles indexName)
    (query : String) (node : NodeAddress) :
    ((listingOf query (deployment.seenOf indexName node)).map (·.2)).Perm
      ((deployment.matchedOn indexName query node).filter (!·.isNaN)) := by
  unfold matchedOn
  cases seen : deployment.seenOf indexName node with
  | none => exact List.Perm.refl _
  | some found =>
      obtain ⟨index, snapshot⟩ := found
      cases snapshot with
      | none => exact List.Perm.refl _
      | some content =>
          obtain ⟨handler, _, isVisible⟩ := Option.bind_eq_some_iff.1 seen
          obtain ⟨chronicle, describes⟩ := chronicles handler index content isVisible
          cases accepted : index.plan query with
          | error failure =>
              simp only [listingOf_of_refused accepted, accepted]
              exact List.Perm.refl _
          | ok plan =>
              simp only [listingOf_of_plan accepted, accepted]
              exact IndexContent.scores_listing_perm describes (translate_of_plan accepted)

theorem mem_indexedOn_of_listingOf {hit : ScoredHit}
    (inside : hit ∈ listingOf query (deployment.seenOf indexName node)) :
    hit.1 ∈ deployment.indexedOn indexName node := by
  unfold indexedOn
  cases seen : deployment.seenOf indexName node with
  | none =>
      rw [seen] at inside
      cases inside
  | some found =>
      obtain ⟨index, snapshot⟩ := found
      rw [seen] at inside
      cases snapshot with
      | none => cases inside
      | some content =>
          cases accepted : index.plan query with
          | error failure =>
              rw [listingOf_of_refused accepted] at inside
              cases inside
          | ok plan =>
              rw [listingOf_of_plan accepted] at inside
              exact IndexContent.mem_indexedIds_of_listing (translate_of_plan accepted) inside

theorem Serves.heardOf_search (serves : deployment.Serves service query node)
    (chronicles : deployment.ShowsChronicles service.index.name)
    (few : (deployment.matchedOn service.index.name query node).length ≤ wholeSize) :
    ∃ scores, deployment.heardOf service.index.name
        (fun index snapshot =>
          (index.localSearch snapshot query (UInt64.ofNat wholeSize)).map .scores) node =
          Cluster.receive (.scores scores) ∧
      ∀ hit, hit ∈ scores.entries ↔
        hit ∈ listingOf query (deployment.seenOf service.index.name node) := by
  have short := length_le_of_scores_perm (scores_listingOf_perm chronicles query node)
  have distinct : ((listingOf query (deployment.seenOf service.index.name node)).map
      (·.1)).Nodup := (isListing_listingOf chronicles query _).distinct
  obtain ⟨index, snapshot, plan, seen, accepted⟩ := serves.exists_seenOf
  cases snapshot with
  | none =>
      refine ⟨Table.empty, ?_, ?_⟩
      · rw [heardOf_of_seen seen]
        rfl
      · rw [seen]
        exact fun _ => Iff.rfl
  | some content =>
      obtain ⟨handler, _, isVisible⟩ := Option.bind_eq_some_iff.1 seen
      obtain ⟨chronicle, describes⟩ := chronicles handler index content isVisible
      have asked : UInt64.ofNat wholeSize ≠ 0 := ofNat_ne_zero (by decide) (Nat.le_refl _)
      simp only [seen, listingOf_of_plan accepted] at short distinct ⊢
      refine ⟨Table.ofList (content.listing plan), ?_, fun hit =>
        Table.mem_entries_ofList distinct⟩
      -- No listing is longer than what is asked for, so nothing is clipped.
      have whole : content.bestScores plan (UInt64.ofNat wholeSize).toNat =
          Table.ofList (content.listing plan) := by
        rw [toNat_ofNat (Nat.le_refl _), content.bestScores_eq describes
          (translate_of_plan accepted) (by decide),
          List.take_of_length_le (Nat.le_trans short few)]
      rw [heardOf_of_seen seen]
      simp only [EntityIndex.localSearch, asked, accepted, if_false, Except.map, whole]
      rfl

/-- The hits of an answer arrive together or not at all. -/
theorem mem_hits_of_receive_iff {scores : ScoredEntities} {listing : List ScoredHit}
    (same : ∀ hit, hit ∈ scores.entries ↔ hit ∈ listing) (hit : ScoredHit) :
    (∃ response, Cluster.receive (.scores scores) = .ok response ∧ hit ∈ response.hits) ↔
      hit ∈ arriving listing := by
  have sameFinite : Wire.isFinite (.scores scores) = listing.all (·.2.isFinite) := by
    rw [Bool.eq_iff_iff, List.all_eq_true]
    simp only [Wire.isFinite, List.all_eq_true, same]
  rw [receive_eq, sameFinite, arriving]
  split
  · rw [← same]
    constructor
    · rintro ⟨response, arrived, inside⟩
      cases arrived
      exact inside
    · exact fun inside => ⟨.scores scores, rfl, inside⟩
  · constructor
    · rintro ⟨response, arrived, _⟩
      cases arrived
    · intro inside
      cases inside

/-- Where all members serve, a search for all hits gathers what arrives from each member. -/
theorem mem_hits_broadcast_iff (chronicles : deployment.ShowsChronicles service.index.name)
    (serves : ∀ node ∈ deployment.cluster.members, deployment.Serves service query node)
    (few : ∀ node ∈ deployment.cluster.members,
      (deployment.matchedOn service.index.name query node).length ≤ wholeSize)
    (steady : deployment.IsSteady service
      (.search service.index.name query (UInt64.ofNat wholeSize))) (hit : ScoredHit) :
    hit ∈ (deployment.broadcast service (.search service.index.name query
        (UInt64.ofNat wholeSize))).2.responses.values.flatMap ClusterResponse.hits ↔
      hit ∈ deployment.cluster.members.flatMap
        (deployment.arrivingFrom service.index.name query) := by
  have gathered := values_broadcast_perm
    (ClusterTask.asks_search service.index.name query (UInt64.ofNat wholeSize)) rfl serves steady
  simp only [List.mem_flatMap, gathered.mem_iff, List.mem_filterMap]
  constructor
  · rintro ⟨response, ⟨node, isMember, heard⟩, inside⟩
    obtain ⟨scores, isHeard, same⟩ :=
      (serves node isMember).heardOf_search chronicles (few node isMember)
    rw [isHeard] at heard
    refine ⟨node, isMember, (mem_hits_of_receive_iff same hit).1 ⟨response, ?_, inside⟩⟩
    exact toOption_eq_some_iff.1 heard
  · rintro ⟨node, isMember, inside⟩
    obtain ⟨scores, isHeard, same⟩ :=
      (serves node isMember).heardOf_search chronicles (few node isMember)
    obtain ⟨response, arrived, isHit⟩ := (mem_hits_of_receive_iff same hit).2 inside
    refine ⟨response, ⟨node, isMember, ?_⟩, isHit⟩
    rw [isHeard, arrived]
    rfl

/-- No entity is indexed on two members. -/
def IsApart (deployment : Deployment) (indexName : String) : Prop :=
  ∀ first ∈ deployment.cluster.members, ∀ second ∈ deployment.cluster.members,
    ∀ id ∈ deployment.indexedOn indexName first, id ∈ deployment.indexedOn indexName second →
      first = second

theorem nodup_arriving (chronicles : deployment.ShowsChronicles indexName)
    (apart : deployment.IsApart indexName) (query : String) :
    ((deployment.cluster.members.flatMap
      (deployment.arrivingFrom indexName query)).map (·.1)).Nodup := by
  rw [List.map_flatMap, List.nodup_flatMap]
  constructor
  · intro node _
    exact (isListing_listingOf chronicles query _).distinct.sublist
      ((arriving_sublist _).map _)
  · refine deployment.cluster.nodes.nodup_keys.imp_of_mem ?_
    intro first second isFirst isSecond different id inFirst inSecond
    -- What a member lists it has indexed, and no other member has.
    obtain ⟨firstHit, firstArrives, rfl⟩ := List.mem_map.1 inFirst
    obtain ⟨secondHit, secondArrives, sameId⟩ := List.mem_map.1 inSecond
    have onFirst := mem_indexedOn_of_listingOf ((arriving_sublist _).subset firstArrives)
    have onSecond := mem_indexedOn_of_listingOf ((arriving_sublist _).subset secondArrives)
    rw [sameId] at onSecond
    exact different (apart first isFirst second isSecond _ onFirst onSecond)

theorem length_arrivingFrom_le (chronicles : deployment.ShowsChronicles indexName)
    (query : String) (node : NodeAddress) :
    (deployment.arrivingFrom indexName query node).length ≤
      (deployment.matchedOn indexName query node).length :=
  (arriving_sublist _).length_le.trans
    (length_le_of_scores_perm (scores_listingOf_perm chronicles query node))

/-- A search without an end finds as many entities as arrive from the members together. -/
theorem length_rankedPage (chronicles : deployment.ShowsChronicles service.index.name)
    (serves : ∀ node ∈ deployment.cluster.members, deployment.Serves service query node)
    (apart : deployment.IsApart service.index.name)
    (few : (deployment.cluster.members.map fun node =>
      (deployment.matchedOn service.index.name query node).length).sum ≤ wholeSize)
    (steady : deployment.IsSteady service
      (.search service.index.name query (UInt64.ofNat wholeSize))) :
    (deployment.rankedPage service query 0 (UInt64.ofNat wholeSize)).2.length =
      (deployment.cluster.members.map fun node =>
        (deployment.arrivingFrom service.index.name query node).length).sum := by
  have fewOnEach : ∀ node ∈ deployment.cluster.members,
      (deployment.matchedOn service.index.name query node).length ≤ wholeSize := by
    intro node isMember
    exact (List.le_sum_of_mem (List.mem_map_of_mem isMember)).trans few
  have sameHits := mem_hits_broadcast_iff chronicles serves fewOnEach steady
  have ranks : IsRanking
      (deployment.cluster.members.flatMap (deployment.arrivingFrom service.index.name query))
      (deployment.rankedRound service query (UInt64.ofNat wholeSize)) := by
    refine ((isMerge_mergeScores _).isRanking ?_).congr sameHits
    refine areComparable_of_listed chronicles query fun hit inside => ?_
    obtain ⟨node, isMember, arrives⟩ := List.mem_flatMap.1 ((sameHits hit).1 inside)
    exact ⟨_, List.mem_map_of_mem isMember, (arriving_sublist _).subset arrives⟩
  have sizes : (deployment.rankedRound service query (UInt64.ofNat wholeSize)).length =
      (deployment.cluster.members.map fun node =>
        (deployment.arrivingFrom service.index.name query node).length).sum := by
    rw [ranks.length_eq (nodup_arriving chronicles apart query), List.length_flatMap]
  have short : (deployment.rankedRound service query (UInt64.ofNat wholeSize)).length ≤
      wholeSize := by
    rw [sizes]
    exact (List.sum_le_sum fun node _ => length_arrivingFrom_le chronicles query node).trans few
  rw [rankedPage_eq, windowEnd_ofNat (Nat.le_refl _) (by rw [toNat_ofNat (Nat.le_refl _)]; rfl),
    toNat_ofNat (Nat.le_refl _), entitiesOn, List.length_map, ← sizes]
  exact congrArg List.length (List.take_of_length_le short)

/-- While all members serve and no entity is indexed twice, a count is the number of entities
that a search without an end finds exactly if all hits have finite scores. -/
theorem count_eq_length_search_iff (operations : List DeploymentOperation)
    (reached : empty.run operations = deployment) {plan : QueryPlan}
    (accepted : service.index.plan query = .ok plan)
    (serves : ∀ node ∈ deployment.cluster.members, deployment.Serves service query node)
    (apart : deployment.IsApart service.index.name)
    (few : (deployment.cluster.members.map fun node =>
      (deployment.matchedOn service.index.name query node).length).sum ≤ wholeSize)
    (steadyCount : deployment.IsSteady service (.count service.index.name query))
    (steadySearch : deployment.IsSteady service
      (.search service.index.name query (UInt64.ofNat wholeSize))) :
    (deployment.count service query).2 = .ok (UInt64.ofNat
        (deployment.rankedPage service query 0 (UInt64.ofNat wholeSize)).2.length) ↔
      ∀ node ∈ deployment.cluster.members,
        ∀ score ∈ deployment.matchedOn service.index.name query node,
          score.isFinite = true := by
  have described := isDescribed_empty.run operations
  rw [reached] at described
  have chronicles := described.showsChronicles service.index.name
  have atMost : ∀ node ∈ deployment.cluster.members,
      (deployment.arrivingFrom service.index.name query node).length ≤
        (deployment.matchedOn service.index.name query node).length :=
    fun node _ => length_arrivingFrom_le chronicles query node
  have sums := List.sum_le_sum atMost
  rw [count_eq accepted serves steadyCount, length_rankedPage chronicles serves apart few
    steadySearch]
  constructor
  · intro same node isMember
    have numbers := congrArg UInt64.toNat (Except.ok.inj same)
    rw [toNat_ofNat few, toNat_ofNat (sums.trans few)] at numbers
    have lengths := (sum_map_eq_iff atMost).1 numbers.symm node isMember
    exact (length_arriving_eq_iff (scores_listingOf_perm chronicles query node)).1 lengths
  · intro finite
    have lengths := (sum_map_eq_iff atMost).2 fun node isMember =>
      (length_arriving_eq_iff (scores_listingOf_perm chronicles query node)).2
        (finite node isMember)
    rw [lengths]

/-- A node with an index of issues, in which there is one. -/
def oneIssue : Deployment :=
  empty.run
    [.join "a" 1, .install IndexLife.issueOwner "issue" "a", .work 1 .start,
      .work 1 (.transact (.ok [.upsert ⟨1, 1, [("state", .text "open")]⟩])), .work 1 .refresh]

/-- The only node serves the count and the search of every query that its index accepts. -/
theorem exists_oneIssueService (query : String)
    (shown : (oneIssue.visible "issue" 0).map
      (fun found => (found.1.plan query).toOption.isSome) = some true) :
    ∃ service, oneIssue.services.get? 1 = some service ∧ service.index.name = "issue" ∧
      (∀ node ∈ oneIssue.cluster.members, oneIssue.Serves service query node) ∧
      oneIssue.IsApart service.index.name ∧ oneIssue.cluster.delayedDeliveries = [] := by
  have members : oneIssue.cluster.members = ["a"] := by decide +kernel
  have sent : oneIssue.cluster.send "a" = .underway (some 0) none := rfl
  have present : (oneIssue.services.get? 1).map (·.index.name) = some "issue" := by decide +kernel
  obtain ⟨service, isService, name⟩ := Option.map_eq_some_iff.1 present
  obtain ⟨⟨index, snapshot⟩, isVisible, accepts⟩ := Option.map_eq_some_iff.1 shown
  obtain ⟨plan, isPlan⟩ := Option.isSome_iff_exists.1 accepts
  refine ⟨service, isService, name, ?serves, ?apart, ?atOnce⟩
  case serves =>
    intro node isMember
    rw [members, List.mem_singleton] at isMember
    refine ⟨0, none, index, snapshot, plan, isMember ▸ sent, ?_, name ▸ isVisible,
      toOption_eq_some_iff.1 isPlan⟩
    intro wait late
    cases late
  case apart =>
    intro first isFirst second isSecond _ _ _
    rw [members, List.mem_singleton] at isFirst isSecond
    exact isFirst.trans isSecond.symm
  case atOnce =>
    apply List.eq_nil_iff_forall_not_mem.2
    intro delivery inside
    obtain ⟨isMember, underway⟩ := Cluster.mem_delayedDeliveries.1 inside
    rw [members, List.mem_singleton] at isMember
    rw [isMember, sent] at underway
    have noDelay := (Sending.underway.inj underway).2
    cases noDelay

/-- The only issue is counted and found if its score is finite. -/
theorem oneIssue_is_counted_iff :
    ∃ service, oneIssue.services.get? 1 = some service ∧
      ((oneIssue.count service "*:*").2 = .ok (UInt64.ofNat
          (oneIssue.rankedPage service "*:*" 0 (UInt64.ofNat wholeSize)).2.length) ↔
        ∀ node ∈ oneIssue.cluster.members,
          ∀ score ∈ oneIssue.matchedOn service.index.name "*:*" node,
            score.isFinite = true) := by
  obtain ⟨service, isService, name, serves, apart, atOnce⟩ :=
    exists_oneIssueService "*:*" (by decide +kernel)
  have planned : (oneIssue.services.get? 1).map
      (fun service => (service.index.plan "*:*").toOption.isSome) = some true := by
    decide +kernel
  rw [isService, Option.map_some, Option.some.injEq] at planned
  obtain ⟨plan, isPlan⟩ := Option.isSome_iff_exists.1 planned
  have few : (oneIssue.cluster.members.map fun node =>
      (oneIssue.matchedOn "issue" "*:*" node).length).sum ≤ wholeSize := by
    decide +kernel
  rw [← name] at few
  have asksCount := ClusterTask.asks_count service.index.name "*:*"
  have asksSearch := ClusterTask.asks_search service.index.name "*:*" (UInt64.ofNat wholeSize)
  exact ⟨service, isService, count_eq_length_search_iff _ rfl (toOption_eq_some_iff.1 isPlan) serves
    apart few (isSteady_of_atOnce asksCount atOnce) (isSteady_of_atOnce asksSearch atOnce)⟩

/-- All issues, with a boost that is infinite as a single. -/
def hugeBoost : String :=
  "*:*^1000000000000000000000000000000000000000"

/-- The issue is counted, but its score does not arrive. -/
theorem huge_boost_hides_issue :
    ∃ service plan, oneIssue.services.get? 1 = some service ∧
      service.index.plan hugeBoost = .ok plan ∧
      (∀ node ∈ oneIssue.cluster.members, oneIssue.Serves service hugeBoost node) ∧
      oneIssue.IsApart service.index.name ∧
      oneIssue.cluster.delayedDeliveries = [] ∧
      (oneIssue.count service hugeBoost).2 = .ok 1 ∧
      (oneIssue.rankedPage service hugeBoost 0 (UInt64.ofNat wholeSize)).2 = [] := by
  have asked : (oneIssue.services.get? 1).map (fun service =>
      ((service.index.plan hugeBoost).toOption.isSome, (oneIssue.count service hugeBoost).2.toOption,
        (oneIssue.rankedPage service hugeBoost 0 (UInt64.ofNat wholeSize)).2)) =
          some (true, some 1, []) := by
    decide +kernel
  obtain ⟨service, isService, -, serves, apart, atOnce⟩ :=
    exists_oneIssueService hugeBoost (by decide +kernel)
  rw [isService, Option.map_some, Option.some.injEq] at asked
  simp only [Prod.mk.injEq] at asked
  obtain ⟨planned, counted, found⟩ := asked
  obtain ⟨plan, isPlan⟩ := Option.isSome_iff_exists.1 planned
  exact ⟨service, plan, isService, toOption_eq_some_iff.1 isPlan, serves, apart, atOnce,
    toOption_eq_some_iff.1 counted, found⟩

end Deployment

end EntitySearch
