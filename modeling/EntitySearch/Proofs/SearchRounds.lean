import EntitySearch.Deployment.Questions
import EntitySearch.Proofs.GatheredAnswers
import EntitySearch.Proofs.NodeListings
import EntitySearch.Proofs.WireLaws

/-!
# Rounds of a search

A search depends on a deployment only through its members, the handlers of these,
and the snapshots that the services behind the handlers hold open.  A round of a
search leaves all of this alone, apart from the background batches that run
while deliveries are delayed.  If these change no snapshot either and every node
answers, then the round gathers the clipped listings of the nodes.
-/

namespace EntitySearch

open Numeric (Single)

namespace ClusterTask

/-- The task is a question: an index answers it by its snapshot, and nothing changes. -/
def Asks (task : ClusterTask)
    (told : EntityIndex → Option IndexContent → Except SearchFailure ClusterResponse) : Prop :=
  ∀ (index : EntityIndex) (state : LocalIndex),
    index.answer state task = (state, told index state.snapshot)

theorem asks_count (indexName query : String) :
    (count indexName query).Asks fun index snapshot =>
      (index.localCount snapshot query).map .count :=
  fun _ _ => rfl

theorem asks_search (indexName query : String) (limit : UInt64) :
    (search indexName query limit).Asks fun index snapshot =>
      (index.localSearch snapshot query limit).map .scores :=
  fun _ _ => rfl

end ClusterTask

namespace Deployment

def registryAt? (deployment : Deployment) (number : Nat) : Option Registry :=
  deployment.nodes.values.findSome? fun state => state.registry.filter (·.number == number)

def serviceAt? (deployment : Deployment) (indexName : String) (number : Nat) :
    Option (ServiceId × Service) :=
  (deployment.registryAt? number).bind fun registry =>
    (registry.services.get? indexName).bind fun id =>
      (deployment.services.get? id).map (id, ·)

/-- What searches of an index can see: behind every number of a registry, the index that
answers and its snapshot. -/
def visible (deployment : Deployment) (indexName : String) (number : Nat) :
    Option (EntityIndex × Option IndexContent) :=
  (deployment.serviceAt? indexName number).map fun found => (found.2.index, found.2.snapshot)

variable {deployment : Deployment} {indexName query : String} {limit : UInt64}
  {task : ClusterTask}
  {told : EntityIndex → Option IndexContent → Except SearchFailure ClusterResponse}

theorem registryAt?_changeNode {change : NodeState → NodeState}
    (keeps : ∀ state, (change state).registry = state.registry) (deployment : Deployment)
    (node : NodeAddress) (number : Nat) :
    (deployment.changeNode node change).registryAt? number = deployment.registryAt? number := by
  have sameRegistries := deployment.nodes.values_modify node keeps
  have throughRegistry : ∀ states : List NodeState,
      (states.findSome? fun state => state.registry.filter (·.number == number)) =
        (states.map (·.registry)).findSome? fun registry =>
          registry.filter (·.number == number) := by
    intro states
    rw [List.findSome?_map]
    rfl
  rw [registryAt?, registryAt?, throughRegistry, throughRegistry]
  exact congrArg _ sameRegistries

/-- Putting back what a service holds changes no service. -/
theorem services_setLocalIndex {id : ServiceId} {service : Service}
    (present : deployment.services.get? id = some service) (other : ServiceId) :
    (deployment.setLocalIndex id service (deployment.localIndexOf service)).services.get? other =
      deployment.services.get? other := by
  show ((deployment.services.modify id _).get? other) = _
  rw [Table.get?_modify]
  split
  · rename_i same
    rw [same, present]
    rfl
  · rfl

theorem serviceAt?_setLocalIndex {id : ServiceId} {service : Service}
    (present : deployment.services.get? id = some service) (number : Nat) :
    (deployment.setLocalIndex id service (deployment.localIndexOf service)).serviceAt? indexName
      number = deployment.serviceAt? indexName number := by
  have sameRegistry : (deployment.setLocalIndex id service
      (deployment.localIndexOf service)).registryAt? number = deployment.registryAt? number := by
    refine registryAt?_changeNode ?_ deployment service.node number
    intro state
    rfl
  rw [serviceAt?, serviceAt?, sameRegistry]
  congr 1
  funext registry
  congr 1
  funext found
  rw [services_setLocalIndex present]

/-- What a registry passes a question on to. -/
theorem answerTask_of_asks (asks : task.Asks told) {number : Nat} {registry : Registry}
    (registered : deployment.registryAt? number = some registry) :
    deployment.answerTask registry task =
      match deployment.serviceAt? task.index number with
      | none => (deployment, .error (.unknownIndex task.index))
      | some (id, service) =>
          (deployment.setLocalIndex id service (deployment.localIndexOf service),
            (told service.index service.snapshot).mapError SearchFailure.toNode) := by
  rw [serviceAt?, registered, Option.bind_some, answerTask]
  cases (registry.services.get? task.index).bind fun id =>
      (deployment.services.get? id).map (id, ·) with
  | none => rfl
  | some served =>
      have answered := asks served.2.index (deployment.localIndexOf served.2)
      simp only [onLocalIndex, answered]
      rfl

theorem answerTask_search {number : Nat} {registry : Registry}
    (registered : deployment.registryAt? number = some registry) :
    deployment.answerTask registry (.search indexName query limit) =
      match deployment.serviceAt? indexName number with
      | none => (deployment, .error (.unknownIndex indexName))
      | some (id, service) =>
          (deployment.setLocalIndex id service (deployment.localIndexOf service),
            ((service.index.localSearch service.snapshot query limit).map .scores).mapError
              SearchFailure.toNode) :=
  answerTask_of_asks (ClusterTask.asks_search indexName query limit) registered

theorem present_of_serviceAt? {number : Nat} {id : ServiceId} {service : Service}
    (found : deployment.serviceAt? indexName number = some (id, service)) :
    deployment.services.get? id = some service := by
  obtain ⟨registry, _, registered⟩ := Option.bind_eq_some_iff.1 found
  obtain ⟨present, _, served⟩ := Option.bind_eq_some_iff.1 registered
  obtain ⟨_, isService, same⟩ := Option.map_eq_some_iff.1 served
  cases same
  exact isService

/-- A registry that answers a question leaves everything that searches see. -/
theorem visible_answerTask (asks : task.Asks told) {number : Nat} {registry : Registry}
    (registered : deployment.registryAt? number = some registry) :
    (deployment.answerTask registry task).1.visible indexName = deployment.visible indexName := by
  rw [answerTask_of_asks asks registered]
  cases found : deployment.serviceAt? task.index number with
  | none => rfl
  | some served =>
      funext other
      exact congrArg (Option.map _)
        (serviceAt?_setLocalIndex (present_of_serviceAt? found) other)

/-- What a registry answers to a search comes from what searches see. -/
theorem answer_of_answerTask {number : Nat} {registry : Registry}
    (registered : deployment.registryAt? number = some registry) {response : ClusterResponse}
    (answered : (deployment.answerTask registry (.search indexName query limit)).2 =
      .ok response) :
    ∃ index snapshot scores, deployment.visible indexName number = some (index, snapshot) ∧
      index.localSearch snapshot query limit = .ok scores ∧ response = .scores scores := by
  rw [answerTask_search registered] at answered
  cases found : deployment.serviceAt? indexName number with
  | none =>
      rw [found] at answered
      cases answered
  | some served =>
      obtain ⟨id, service⟩ := served
      rw [found] at answered
      refine ⟨service.index, service.snapshot, ?_⟩
      cases searched : service.index.localSearch service.snapshot query limit with
      | error failure =>
          simp only [searched] at answered
          cases answered
      | ok scores =>
          simp only [searched] at answered
          cases answered
          exact ⟨scores, by rw [visible, found]; rfl, rfl, rfl⟩

theorem receive_eq (response : ClusterResponse) :
    Cluster.receive response = if Wire.isFinite response then .ok response
      else .error (.serialization "malformed response") := by
  rw [Cluster.receive, Wire.decodeResponse?_encodeResponse]
  cases Wire.isFinite response <;> rfl

theorem eq_of_receive {response received : ClusterResponse}
    (arrived : Cluster.receive response = .ok received) : received = response := by
  rw [receive_eq] at arrived
  split at arrived
  · exact (Except.ok.inj arrived).symm
  · cases arrived

def handlerOf (cluster : Cluster Nat) (node : NodeAddress) : Option Nat :=
  (cluster.nodes.get? node).bind (·.handler)

theorem handlerOf_of_send {cluster : Cluster Nat} {node : NodeAddress} {handler : Option Nat}
    {delay : Option Nat} (sent : cluster.send node = .underway handler delay) :
    handlerOf cluster node = handler := by
  unfold Cluster.send at sent
  split at sent
  · cases sent
  · rename_i slot isSlot
    split at sent
    · cases sent
      rw [handlerOf, isSlot]
      rfl
    · cases sent

/-- The response is what a member has to answer to a search, by what can be seen. -/
def IsAnswer (cluster : Cluster Nat) (seen : Nat → Option (EntityIndex × Option IndexContent))
    (query : String) (limit : UInt64) (node : NodeAddress) (response : ClusterResponse) : Prop :=
  node ∈ cluster.members ∧ ∃ index snapshot scores,
    (handlerOf cluster node).bind seen = some (index, snapshot) ∧
      index.localSearch snapshot query limit = .ok scores ∧ response = .scores scores

theorem deliver_eq (world : Deployment) (node : NodeAddress) (handler : Option Nat) :
    Cluster.deliver taskRunner world node handler task =
      match handler.bind world.registryAt? with
      | none => (world, .error (.unreachable (node ++ " has no handler")))
      | some registry =>
          ((world.answerTask registry task).1,
            (world.answerTask registry task).2 >>= Cluster.receive) := by
  rw [Cluster.deliver, Wire.decodeTask?_encodeTask]
  cases handler with
  | none => rfl
  | some number =>
      have ran : taskRunner.run world number task =
          (world.registryAt? number).map fun registry => world.answerTask registry task := rfl
      simp only [Option.bind_some, ran]
      cases world.registryAt? number <;> rfl

theorem visible_deliver (asks : task.Asks told) (world : Deployment) (node : NodeAddress)
    (handler : Option Nat) :
    (Cluster.deliver taskRunner world node handler task).1.visible indexName =
      world.visible indexName := by
  rw [deliver_eq]
  cases registered : handler.bind world.registryAt? with
  | none => rfl
  | some registry =>
      obtain ⟨number, _, isRegistry⟩ := Option.bind_eq_some_iff.1 registered
      exact visible_answerTask asks isRegistry

theorem deliver_of_visible (asks : task.Asks told) {world : Deployment} {number : Nat}
    {index : EntityIndex} {snapshot : Option IndexContent}
    (isVisible : world.visible task.index number = some (index, snapshot)) (node : NodeAddress) :
    (Cluster.deliver taskRunner world node (some number) task).2 =
      (told index snapshot).mapError SearchFailure.toNode >>= Cluster.receive := by
  obtain ⟨⟨id, found⟩, isFound, sameService⟩ := Option.map_eq_some_iff.1 isVisible
  cases sameService
  obtain ⟨registry, registered, _⟩ := Option.bind_eq_some_iff.1 isFound
  rw [deliver_eq, Option.bind_some, registered]
  simp only
  rw [answerTask_of_asks asks registered, isFound]

/-- Deliveries of a search leave what searches see, and answer by it. -/
theorem delivers_search (cluster : Cluster Nat)
    (seen : Nat → Option (EntityIndex × Option IndexContent)) :
    Cluster.Delivers taskRunner cluster (.search indexName query limit) (visible · indexName)
      seen (IsAnswer cluster seen query limit) where
  keeps := visible_deliver (ClusterTask.asks_search indexName query limit)
  right := by
    intro world node handler delay response started isMember sent answered
    rw [deliver_eq] at answered
    cases registered : handler.bind world.registryAt? with
    | none =>
        rw [registered] at answered
        cases answered
    | some registry =>
        rw [registered] at answered
        obtain ⟨number, isHandler, isRegistry⟩ := Option.bind_eq_some_iff.1 registered
        obtain ⟨given, isGiven, arrived⟩ := exists_of_bind_ok answered
        obtain ⟨index, snapshot, scores, isVisible, searched, same⟩ :=
          answer_of_answerTask isRegistry isGiven
        refine ⟨isMember, index, snapshot, scores, ?_, searched, ?_⟩
        · rw [handlerOf_of_send sent, isHandler, Option.bind_some, ← started]
          exact isVisible
        · rw [eq_of_receive arrived, same]

/-- The listing of a member for a query, by what can be seen of it. -/
def listingOf (query : String) : Option (EntityIndex × Option IndexContent) → List ScoredHit
  | some (index, some content) =>
      match index.plan query with
      | .ok plan => content.listing plan
      | .error _ => []
  | _ => []

theorem listingOf_unseen (query : String) (index : EntityIndex) :
    listingOf query (some (index, none)) = [] := rfl

theorem listingOf_of_plan {index : EntityIndex} {plan : QueryPlan}
    (accepted : index.plan query = .ok plan) (content : IndexContent) :
    listingOf query (some (index, some content)) = content.listing plan := by
  unfold listingOf
  simp only [accepted]

theorem listingOf_of_refused {index : EntityIndex} {failure : SearchFailure}
    (refused : index.plan query = .error failure) (content : IndexContent) :
    listingOf query (some (index, some content)) = [] := by
  unfold listingOf
  simp only [refused]

def listings (deployment : Deployment) (indexName query : String) : List (List ScoredHit) :=
  deployment.cluster.members.map fun node =>
    listingOf query ((handlerOf deployment.cluster node).bind (deployment.visible indexName))

/-- Every snapshot that searches can see is what some chronicle says. -/
def ShowsChronicles (deployment : Deployment) (indexName : String) : Prop :=
  ∀ number index content, deployment.visible indexName number = some (index, some content) →
    ∃ chronicle : Chronicle, chronicle.Describes content

theorem translate_of_plan {index : EntityIndex} {plan : QueryPlan}
    (accepted : index.plan query = .ok plan) : index.translator.translate query = .ok plan := by
  unfold EntityIndex.plan at accepted
  cases translated : index.translator.translate query with
  | error fault =>
      rw [translated] at accepted
      cases accepted
  | ok made =>
      rw [translated] at accepted
      cases accepted
      rfl

theorem isListing_nil : IsListing [] where
  distinct := List.nodup_nil
  numbers := by
    intro hit inside
    cases inside
  descending := List.Pairwise.nil

theorem isListing_listingOf (chronicles : deployment.ShowsChronicles indexName) (query : String)
    (number : Option Nat) :
    IsListing (listingOf query (number.bind (deployment.visible indexName))) := by
  unfold listingOf
  split
  · rename_i index content isVisible
    obtain ⟨handler, _, visible⟩ := Option.bind_eq_some_iff.1 isVisible
    obtain ⟨chronicle, describes⟩ := chronicles handler index content visible
    split
    · rename_i plan accepted
      exact content.isListing_listing describes (translate_of_plan accepted)
    · exact isListing_nil
  · exact isListing_nil

theorem isListing_listings (chronicles : deployment.ShowsChronicles indexName) (query : String) :
    ∀ listing ∈ deployment.listings indexName query, IsListing listing := by
  intro listing inside
  obtain ⟨node, _, rfl⟩ := List.mem_map.1 inside
  exact isListing_listingOf chronicles query _

theorem isUnsigned_of_mem_listingOf (chronicles : deployment.ShowsChronicles indexName)
    {query : String} {number : Option Nat} {hit : ScoredHit}
    (inside : hit ∈ listingOf query (number.bind (deployment.visible indexName))) :
    hit.2.IsUnsigned := by
  unfold listingOf at inside
  split at inside
  · rename_i index content isVisible
    obtain ⟨handler, _, visible⟩ := Option.bind_eq_some_iff.1 isVisible
    obtain ⟨chronicle, describes⟩ := chronicles handler index content visible
    split at inside
    · rename_i plan accepted
      exact content.isUnsigned_of_mem_listing describes (translate_of_plan accepted) inside
    · cases inside
  · cases inside

/-- No zeros of both signs meet in what nodes list. -/
theorem areComparable_of_listed (chronicles : deployment.ShowsChronicles indexName)
    (query : String) {reported : List ScoredHit}
    (listed : ∀ hit ∈ reported, ∃ listing ∈ deployment.listings indexName query,
      hit ∈ listing) : AreComparable reported := by
  refine .of_unsigned (fun hit inside => ?_) fun hit inside => ?_
  · obtain ⟨listing, isListing, isHit⟩ := listed hit inside
    exact (isListing_listings chronicles query listing isListing).numbers hit isHit
  · obtain ⟨listing, isListing, isHit⟩ := listed hit inside
    obtain ⟨node, _, rfl⟩ := List.mem_map.1 isListing
    exact isUnsigned_of_mem_listingOf chronicles isHit

/-- What a member answers to a search is the front of its listing. -/
theorem mem_hits_of_isAnswer (chronicles : deployment.ShowsChronicles indexName)
    (positive : limit ≠ 0) {node : NodeAddress} {response : ClusterResponse}
    (isAnswer : IsAnswer deployment.cluster (deployment.visible indexName) query limit node
      response) (hit : ScoredHit) :
    hit ∈ response.hits ↔ hit ∈ (listingOf query
      ((handlerOf deployment.cluster node).bind (deployment.visible indexName))).take
        limit.toNat := by
  obtain ⟨_, index, snapshot, scores, isVisible, searched, rfl⟩ := isAnswer
  have lists := isListing_listingOf chronicles query (handlerOf deployment.cluster node)
  rw [isVisible] at lists ⊢
  cases snapshot with
  | none =>
      cases searched
      simp [ClusterResponse.hits, listingOf_unseen, Table.empty]
  | some content =>
      obtain ⟨handler, _, visible⟩ := Option.bind_eq_some_iff.1 isVisible
      obtain ⟨chronicle, describes⟩ := chronicles handler index content visible
      simp only [EntityIndex.localSearch, positive, ite_false] at searched
      obtain ⟨plan, accepted, same⟩ := exists_of_map_ok searched
      have some : 0 < limit.toNat := Nat.pos_of_ne_zero fun none =>
        positive (UInt64.toNat_inj.1 none)
      rw [← same, content.bestScores_eq describes (translate_of_plan accepted) some]
      rw [listingOf_of_plan accepted] at lists ⊢
      exact Table.mem_entries_ofList
        (lists.distinct.sublist ((List.take_sublist _ _).map _))

/-- Every node answers the search, and behind the round searches see what they saw before. -/
structure AnswersSteadily (deployment : Deployment) (service : Service) (query : String)
    (limit : UInt64) : Prop where
  complete : ∀ node, (deployment.broadcast service
    (.search service.index.name query limit)).2.failures.get? node = none
  steady : (deployment.broadcast service
    (.search service.index.name query limit)).1.visible service.index.name =
      deployment.visible service.index.name

variable {service : Service}

theorem AnswersSteadily.accounts (answers : deployment.AnswersSteadily service query limit) :
    (deployment.broadcast service (.search service.index.name query limit)).2.Accounts
      (IsAnswer deployment.cluster (deployment.visible service.index.name) query limit)
      deployment.cluster.members :=
  (delivers_search deployment.cluster (deployment.visible service.index.name)).broadcast rfl
    answers.steady

/-- A round of a search gathers the clipped listings of the members. -/
theorem AnswersSteadily.mem_hits_iff (answers : deployment.AnswersSteadily service query limit)
    (chronicles : deployment.ShowsChronicles service.index.name) (positive : limit ≠ 0)
    (hit : ScoredHit) :
    hit ∈ (deployment.broadcast service
        (.search service.index.name query limit)).2.responses.values.flatMap
          ClusterResponse.hits ↔
      hit ∈ clipped limit.toNat (deployment.listings service.index.name query) := by
  have accounts := answers.accounts
  have complete := answers.complete
  generalize (deployment.broadcast service
    (.search service.index.name query limit)).2 = gathered at *
  rw [List.mem_flatMap, mem_clipped]
  constructor
  · rintro ⟨response, inside, isHit⟩
    obtain ⟨node, recorded⟩ := (Table.mem_values_iff _).1 inside
    have isAnswer := accounts.right node response recorded
    refine ⟨_, List.mem_map_of_mem isAnswer.1, ?_⟩
    exact (mem_hits_of_isAnswer chronicles positive isAnswer hit).1 isHit
  · rintro ⟨listing, inside, isNear⟩
    obtain ⟨node, isMember, rfl⟩ := List.mem_map.1 inside
    have recorded : (gathered.responses.get? node).isSome := by
      rcases accounts.complete node isMember with responded | failed
      · exact responded
      · rw [complete node] at failed
        cases failed
    obtain ⟨response, isResponse⟩ := Option.isSome_iff_exists.1 recorded
    refine ⟨response, (Table.mem_values_iff _).2 ⟨node, isResponse⟩, ?_⟩
    exact (mem_hits_of_isAnswer chronicles positive (accounts.right node response isResponse)
      hit).2 isNear

def rankedRound (deployment : Deployment) (service : Service) (query : String)
    (limit : UInt64) : List ScoredHit :=
  ranking (mergeScores (deployment.broadcast service
    (.search service.index.name query limit)).2.responses.values)

/-- A round of a search ranks the clipped listings of the members. -/
theorem AnswersSteadily.isRanking (answers : deployment.AnswersSteadily service query limit)
    (chronicles : deployment.ShowsChronicles service.index.name) (positive : limit ≠ 0) :
    IsRanking (clipped limit.toNat (deployment.listings service.index.name query))
      (deployment.rankedRound service query limit) := by
  have sameHits := answers.mem_hits_iff chronicles positive
  refine ((isMerge_mergeScores _).isRanking ?_).congr sameHits
  refine areComparable_of_listed chronicles query fun hit inside => ?_
  obtain ⟨listing, isListing, isNear⟩ := mem_clipped.1 ((sameHits hit).1 inside)
  exact ⟨listing, isListing, List.mem_of_mem_take isNear⟩

/-- A member gets a search at once, its handler accepts the query, and all scores that it
lists are finite. -/
def Responds (deployment : Deployment) (indexName query : String) (node : NodeAddress) : Prop :=
  ∃ number index snapshot, deployment.cluster.send node = .underway (some number) none ∧
    deployment.visible indexName number = some (index, snapshot) ∧
    (∃ plan, index.plan query = .ok plan) ∧
    ∀ hit ∈ listingOf query (some (index, snapshot)), hit.2.isFinite = true

theorem localSearch_ok {index : EntityIndex} {plan : QueryPlan}
    (accepted : index.plan query = .ok plan) (snapshot : Option IndexContent) (limit : UInt64) :
    ∃ scores, index.localSearch snapshot query limit = .ok scores := by
  unfold EntityIndex.localSearch
  split
  · exact ⟨_, rfl⟩
  · split
    · exact ⟨_, rfl⟩
    · rw [accepted]
      exact ⟨_, rfl⟩

/-- A member that responds does so in every world that searches see the same. -/
theorem Responds.deliver {node : NodeAddress} (responds : deployment.Responds indexName query node)
    (isMember : node ∈ deployment.cluster.members)
    (chronicles : deployment.ShowsChronicles indexName) (positive : limit ≠ 0)
    {world : Deployment} (sees : world.visible indexName = deployment.visible indexName) :
    ∃ handler response, deployment.cluster.send node = .underway handler none ∧
      (Cluster.deliver taskRunner world node handler (.search indexName query limit)).2 =
        .ok response := by
  obtain ⟨number, index, snapshot, sent, isVisible, ⟨plan, accepted⟩, finite⟩ := responds
  obtain ⟨scores, searched⟩ := localSearch_ok accepted snapshot limit
  have isAnswer : IsAnswer deployment.cluster (deployment.visible indexName) query limit node
      (.scores scores) := by
    refine ⟨isMember, index, snapshot, scores, ?_, searched, rfl⟩
    rw [handlerOf_of_send sent, Option.bind_some, isVisible]
  have scoresFinite : Wire.isFinite (.scores scores) = true := by
    refine List.all_eq_true.2 fun hit inside => ?_
    have isNear := (mem_hits_of_isAnswer chronicles positive isAnswer hit).1 inside
    rw [handlerOf_of_send sent, Option.bind_some, isVisible] at isNear
    exact finite hit (List.mem_of_mem_take isNear)
  refine ⟨some number, .scores scores, sent, ?_⟩
  rw [deliver_of_visible (ClusterTask.asks_search indexName query limit)
    ((congrFun sees number).trans isVisible), searched]
  show Cluster.receive (.scores scores) = _
  rw [receive_eq, if_pos scoresFinite]

/-- Behind a round searches see what they saw before it. -/
def IsSteady (deployment : Deployment) (service : Service) (task : ClusterTask) : Prop :=
  (deployment.broadcast service task).1.visible service.index.name =
    deployment.visible service.index.name

theorem isSteady_of_atOnce (asks : task.Asks told)
    (atOnce : deployment.cluster.delayedDeliveries = []) : deployment.IsSteady service task := by
  have delivers : Cluster.Delivers taskRunner deployment.cluster task
      (visible · service.index.name) (deployment.visible service.index.name) fun _ _ => True :=
    ⟨visible_deliver asks, fun _ _ _ _ _ _ _ _ _ => trivial⟩
  have begun : ((deployment, Gathered.empty) : Deployment × Gathered).1.visible
      service.index.name = deployment.visible service.index.name := rfl
  have kept := ((delivers.tells service.index.settings.cluster.answerTimeout.toNat).foldl_atOnce
    (List.Subset.refl _) begun Gathered.records_empty).1
  unfold IsSteady
  simp only [Deployment.broadcast, Cluster.broadcast, atOnce]
  exact kept

/-- Where all members respond, a search is answered steadily. -/
theorem answersSteadily_of_responds
    (chronicles : deployment.ShowsChronicles service.index.name)
    (responds : ∀ node ∈ deployment.cluster.members,
      deployment.Responds service.index.name query node) (positive : limit ≠ 0) :
    deployment.AnswersSteadily service query limit := by
  have asks := ClusterTask.asks_search service.index.name query limit
  have noDelay : deployment.cluster.delayedDeliveries = [] := by
    apply List.eq_nil_iff_forall_not_mem.2
    intro delivery inside
    obtain ⟨isMember, sent⟩ := Cluster.mem_delayedDeliveries.1 inside
    obtain ⟨number, _, _, atOnce, _⟩ := responds delivery.node isMember
    rw [atOnce] at sent
    have noDelay := (Sending.underway.inj sent).2
    cases noDelay
  have steady : deployment.IsSteady service (.search service.index.name query limit) :=
    isSteady_of_atOnce asks noDelay
  have tells : Cluster.Tells taskRunner deployment.cluster (.search service.index.name query limit)
      service.index.settings.cluster.answerTimeout.toNat (visible · service.index.name)
      (deployment.visible service.index.name)
      (fun _ outcome => ∃ response, outcome = .ok response) := by
    refine ⟨visible_deliver asks, ?refused, ?delivered, ?late⟩
    case refused =>
      intro node isMember failure refused
      obtain ⟨_, _, _, atOnce, _⟩ := responds node isMember
      rw [atOnce] at refused
      cases refused
    case delivered =>
      intro node isMember world handler delay sees underway
      obtain ⟨_, response, sent, delivered⟩ :=
        (responds node isMember).deliver isMember chronicles positive sees
      rw [sent] at underway
      cases underway
      exact ⟨response, delivered⟩
    case late =>
      intro node isMember handler delay _ underway
      obtain ⟨_, _, _, atOnce, _⟩ := responds node isMember
      rw [atOnce] at underway
      cases underway
  refine ⟨fun node => ?_, steady⟩
  cases failed : (deployment.broadcast service
      (.search service.index.name query limit)).2.failures.get? node with
  | none => rfl
  | some failure =>
      obtain ⟨response, same⟩ := (tells.broadcast rfl steady).failures node failure failed
      cases same

end Deployment

end EntitySearch
