import EntitySearch.Proofs.ReachedDeployments

/-!
# Isolated broadcasts

What a node answers in a broadcast depends on its registry, its services and its
directories, and, if the task takes a while to reach it, on what its pool does in
the meantime.  It depends on nothing that belongs to another node.  Of two
deployments in which a node is the same a broadcast records the same for the node,
whatever the other nodes are like; and a node that is recorded as silent has not
executed the task.
-/

namespace EntitySearch

/-- The failure says that nothing has come from the node. -/
def NodeFailure.isSilence : NodeFailure → Bool
  | .unreachable _ => true
  | .timedOut _ => true
  | _ => false

namespace IndexingBatch

variable (owner : EntityIndex) (source : EntitySource)

theorem step_withTally (batch : IndexingBatch) (tally : IndexTally) :
    ∃ later, ({ batch with tally := tally }).step owner source =
      { batch.step owner source with tally := later } := by
  obtain ⟨index, earlier, scans, phase⟩ := batch
  unfold step
  cases phase with
  | loading waiting documents =>
      cases waiting with
      | nil =>
          simp only [commitLoaded]
          cases index.transact owner.layout (.ok (documents.map .upsert)) with
          | mk after outcome => cases outcome <;> exact ⟨_, rfl⟩
      | cons id waiting =>
          simp only
          cases source.load id with
          | error failure => exact ⟨_, rfl⟩
          | ok found => cases found <;> exact ⟨_, rfl⟩
  | seeking =>
      simp only
      cases index.readProgressMark owner.layout with
      | mk after outcome => cases outcome <;> exact ⟨_, rfl⟩
  | fetching mark =>
      simp only
      cases source.queryAfter mark owner.settings.indexing.batchSize.toNat with
      | error failure => exact ⟨_, rfl⟩
      | ok fetched => cases fetched <;> exact ⟨_, rfl⟩
  | recording fetched =>
      simp only [commitScan]
      cases index.transact owner.layout (.ok ((ownedDocuments owner source fetched).map
        IndexChange.upsert ++ [.putProgressMark (lastId fetched)])) with
      | mk after outcome => cases outcome <;> exact ⟨_, rfl⟩
  | ended outcome => exact ⟨_, rfl⟩

/-- What a batch does to an index, and how it ends, does not depend on what it has counted. -/
theorem run_withTally (batch : IndexingBatch) (tally : IndexTally) (steps : Nat) :
    ∃ later, ({ batch with tally := tally }).run owner source steps =
      { batch.run owner source steps with tally := later } := by
  induction steps generalizing batch tally with
  | zero => exact ⟨tally, rfl⟩
  | succ steps ih =>
      have sameEnd : ({ batch with tally := tally } : IndexingBatch).hasEnded = batch.hasEnded :=
        rfl
      unfold run
      rw [sameEnd]
      split
      · exact ⟨tally, rfl⟩
      · obtain ⟨later, stepped⟩ := step_withTally owner source batch tally
        rw [stepped]
        exact ih _ later

theorem start_withTally (index : LocalIndex) (first second : IndexTally)
    (works : List Scheduling.Work) :
    start index second works = { start index first works with tally := second } := by
  unfold start
  split <;> rfl

end IndexingBatch

namespace Deployment

/-- The nodes of two deployments keep apart, and a node is the same in both, as are the stores
and the projects that the node owns. -/
structure RunsAlike (firstOwner secondOwner : Nat → Option NodeAddress) (node : NodeAddress)
    (first second : Deployment) : Prop where
  firstApart : first.KeepsApart firstOwner
  secondApart : second.KeepsApart secondOwner
  view : second.viewOf node = first.viewOf node
  stores : second.stores = first.stores
  owned : ∀ project, second.cluster.ownerOf project = some node ↔
    first.cluster.ownerOf project = some node

variable {firstOwner secondOwner : Nat → Option NodeAddress} {node : NodeAddress}
  {first second : Deployment} {service : Service}

/-! ### Nodes that are alike -/

/-- The node answers tasks alike: its registry, its directories and its services are the same,
whatever its pool does. -/
structure NodeView.AnswersLike (view other : NodeView) : Prop where
  registry : other.state.bind (·.registry) = view.state.bind (·.registry)
  directories : ∀ indexName, other.directoryAt indexName = view.directoryAt indexName
  services : other.services = view.services

theorem NodeView.AnswersLike.of_eq {view other : NodeView} (same : other = view) :
    view.AnswersLike other := by
  subst same
  exact ⟨rfl, fun _ => rfl, rfl⟩

theorem localIndexOf_congr
    (alike : (first.viewOf service.node).AnswersLike (second.viewOf service.node)) :
    second.localIndexOf service = first.localIndexOf service := by
  have sameDirectory : second.directoryAt service.node service.index.name =
      first.directoryAt service.node service.index.name := alike.directories service.index.name
  rw [localIndexOf, localIndexOf, sameDirectory]

/-! ### Batches -/

/-- The batches of a node that is the same in both deployments do the same to its indexes. -/
theorem RunsAlike.batchOf (alike : RunsAlike firstOwner secondOwner service.node first second)
    (works : List Scheduling.Work) :
    (second.batchOf service works).index = (first.batchOf service works).index ∧
      outcomeOf (second.batchOf service works) = outcomeOf (first.batchOf service works) := by
  have sameStore : second.storeOf service.typeName = first.storeOf service.typeName := by
    rw [storeOf, storeOf, alike.stores]
  have sameSource : second.sourceFor service = first.sourceFor service := by
    have sameOwned : ∀ project, decide (second.cluster.ownerOf project = some service.node) =
        decide (first.cluster.ownerOf project = some service.node) := fun project =>
      decide_eq_decide.2 (alike.owned project)
    unfold sourceFor
    rw [sameStore]
    congr 1
    funext project
    exact sameOwned project
  unfold Deployment.batchOf
  rw [sameStore, sameSource, localIndexOf_congr (.of_eq alike.view),
    IndexingBatch.start_withTally _ (first.metricsOf service.index.name).tally]
  obtain ⟨later, ran⟩ := IndexingBatch.run_withTally service.index (first.sourceFor service)
    (IndexingBatch.start (first.localIndexOf service)
      (first.metricsOf service.index.name).tally works)
    (second.metricsOf service.index.name).tally
    (IndexingBatch.stepBound works.length (first.storeOf service.typeName).store.size)
  rw [ran]
  exact ⟨rfl, rfl⟩

theorem RunsAlike.setLocalIndex (alike : RunsAlike firstOwner secondOwner node first second)
    (id : ServiceId) (service : Service) (index : LocalIndex) :
    RunsAlike firstOwner secondOwner node (first.setLocalIndex id service index)
      (second.setLocalIndex id service index) where
  firstApart := alike.firstApart.setLocalIndex id service index
  secondApart := alike.secondApart.setLocalIndex id service index
  view := viewOf_setLocalIndex_congr alike.view id service index
  stores := alike.stores
  owned := alike.owned

theorem RunsAlike.measure (alike : RunsAlike firstOwner secondOwner node first second)
    (firstName secondName : String) (firstChange secondChange : IndexMetrics → IndexMetrics) :
    RunsAlike firstOwner secondOwner node (first.measure firstName firstChange)
      (second.measure secondName secondChange) where
  firstApart := alike.firstApart.measure firstName firstChange
  secondApart := alike.secondApart.measure secondName secondChange
  view := alike.view
  stores := alike.stores
  owned := alike.owned

open Scheduling in
/-- The batches in the pool of the node take the same course in both deployments. -/
theorem relates_batchBehavior (firstOwner secondOwner : Nat → Option NodeAddress)
    (node : NodeAddress) :
    batchBehavior.Relates ((ownScope firstOwner node).both (ownScope secondOwner node))
      (RunsAlike firstOwner secondOwner node) where
  start := fun _ _ _ _ _ alike => ⟨alike, rfl⟩
  finish := by
    rintro first second now batch slept ⟨⟨ofFirst, ofSecond⟩, _⟩ alike
    have sameService : second.services.get? batch.worker.agent =
        first.services.get? batch.worker.agent := by
      rw [← alike.firstApart.services_viewOf ofFirst, ← alike.secondApart.services_viewOf ofSecond,
        alike.view]
    simp only [batchBehavior, sameService]
    cases present : first.services.get? batch.worker.agent with
    | none => exact ⟨alike.measure _ _ _ _, rfl⟩
    | some service =>
        have own := (alike.firstApart.services _ service present).symm.trans ofFirst
        cases own
        obtain ⟨sameIndex, sameOutcome⟩ := alike.batchOf batch.works
        simp only [runBatch_eq, sameIndex, sameOutcome]
        exact ⟨((alike.setLocalIndex _ service _).measure _ _ _ _).measure _ _ _ _, trivial⟩
  hires := fun _ _ _ _ _ _ inside => by cases inside
  refused := fun _ _ _ alike => alike

theorem viewOf_changeNode_congr (same : second.viewOf node = first.viewOf node)
    (change : NodeState → NodeState) :
    (second.changeNode node change).viewOf node = (first.changeNode node change).viewOf node := by
  have sameState : second.nodes.get? node = first.nodes.get? node := congrArg NodeView.state same
  rw [viewOf_changeNode, viewOf_changeNode, same, sameState]

open Scheduling in
theorem RunsAlike.settleNode (alike : RunsAlike firstOwner secondOwner node first second) :
    RunsAlike firstOwner secondOwner node (first.settleNode node) (second.settleNode node) := by
  have firstWithin := alike.firstApart.settleNode node
  have secondWithin := alike.secondApart.settleNode node
  refine ⟨firstWithin.apart, secondWithin.apart, ?_,
    (secondWithin.stores.trans alike.stores).trans firstWithin.stores.symm, fun project => ?_⟩
  · have sameState : second.nodes.get? node = first.nodes.get? node :=
      congrArg NodeView.state alike.view
    cases isNode : first.nodes.get? node with
    | none =>
        have isNodeToo := sameState.trans isNode
        simp only [Deployment.settleNode, onPool, isNode, isNodeToo]
        exact alike.view
    | some state =>
        have isNodeToo := sameState.trans isNode
        have employs := (alike.firstApart.nodes node state isNode).employed.both
          (alike.secondApart.nodes node state isNodeToo).employed
        have settled := (Timeline.beside_onWorld { state.pool with world := first } second
          employs alike).settle (relates_batchBehavior firstOwner secondOwner node)
            (poolAllowance { state.pool with world := first })
        rw [Deployment.settleNode, Deployment.settleNode, onPool_of_node isNode,
          onPool_of_node isNodeToo]
        have sameAllowance : poolAllowance { state.pool with world := second } =
            poolAllowance { state.pool with world := first } := rfl
        simp only [sameAllowance]
        generalize Timeline.settle batchBehavior _ { state.pool with world := first } = line at *
        generalize Timeline.settle batchBehavior _ { state.pool with world := second } = other at *
        cases settled with
        | onWorld world _ settledAlike => exact viewOf_changeNode_congr settledAlike.view _
  · rw [secondWithin.cluster, firstWithin.cluster]
    exact alike.owned project

/-- What the pool of the node has to do is the same in two deployments: nothing, or the same from
the same stores and for the same projects. -/
def WorksAlike (node : NodeAddress) (first second : Deployment) : Prop :=
  ((first.viewOf node).IsIdle ∧ (second.viewOf node).IsIdle) ∨
    second.viewOf node = first.viewOf node ∧ second.stores = first.stores ∧
      ∀ project, second.cluster.ownerOf project = some node ↔
        first.cluster.ownerOf project = some node

/-- A node that works alike still answers alike when the pools have settled. -/
theorem WorksAlike.settle (works : WorksAlike node first second)
    (answers : (first.viewOf node).AnswersLike (second.viewOf node))
    (firstApart : first.KeepsApart firstOwner) (secondApart : second.KeepsApart secondOwner) :
    (first.settle.viewOf node).AnswersLike (second.settle.viewOf node) := by
  rcases works with ⟨firstIdle, secondIdle⟩ | ⟨sameView, sameStores, sameOwned⟩
  · rw [firstApart.around.viewOf_settle_of_idle firstIdle,
      secondApart.around.viewOf_settle_of_idle secondIdle]
    exact answers
  · obtain ⟨firstReached, firstAround, sameFirst, firstSettled⟩ :=
      firstApart.around.viewOf_settle node
    obtain ⟨secondReached, secondAround, sameSecond, secondSettled⟩ :=
      secondApart.around.viewOf_settle node
    have alike : RunsAlike firstOwner secondOwner node firstReached secondReached := by
      refine ⟨firstAround.apart, secondAround.apart,
        sameSecond.trans (sameView.trans sameFirst.symm), ?_, fun project => ?_⟩
      · rw [secondAround.stores, firstAround.stores, sameStores]
      · rw [secondAround.cluster, firstAround.cluster]
        exact sameOwned project
    rw [firstSettled, secondSettled]
    exact .of_eq alike.settleNode.view

/-! ### Passages -/

variable {firstCluster secondCluster : Cluster Nat} {task : ClusterTask} {timeout : Nat}
  {handler : Option Nat}

theorem NodeView.AnswersLike.registryFor?_eq {view other : NodeView}
    (alike : view.AnswersLike other) (handler : Option Nat) :
    other.registryFor? handler = view.registryFor? handler := by
  rw [registryFor?, registryFor?, alike.registry]

theorem NodeView.AnswersLike.serviceIn?_eq {view other : NodeView}
    (alike : view.AnswersLike other) (registry : Registry) (indexName : String) :
    other.serviceIn? registry indexName = view.serviceIn? registry indexName := by
  rw [serviceIn?, serviceIn?, alike.services]

theorem deliver_congr (firstApart : first.KeepsApart firstOwner)
    (secondApart : second.KeepsApart secondOwner)
    (firstOwn : ∀ number, handler = some number → firstOwner number = some node)
    (secondOwn : ∀ number, handler = some number → secondOwner number = some node)
    (alike : (first.viewOf node).AnswersLike (second.viewOf node)) :
    (Cluster.deliver taskRunner second node handler task).2 =
      (Cluster.deliver taskRunner first node handler task).2 := by
  rw [firstApart.deliver_eq firstOwn, secondApart.deliver_eq secondOwn, alike.registryFor?_eq]
  cases heard : (first.viewOf node).registryFor? handler with
  | none => rfl
  | some registry =>
      simp only [alike.serviceIn?_eq]
      cases listed : (first.viewOf node).serviceIn? registry task.index with
      | none => rfl
      | some found =>
          obtain ⟨_, own, _⟩ := firstApart.of_serviceIn? heard listed
          have sameIndex : second.localIndexOf found.2 = first.localIndexOf found.2 :=
            localIndexOf_congr (own.symm ▸ alike)
          simp only [sameIndex]

theorem passage_congr (firstApart : first.KeepsApart firstOwner)
    (secondApart : second.KeepsApart secondOwner)
    (firstHandlers : OwnHandlers firstOwner firstCluster)
    (secondHandlers : OwnHandlers secondOwner secondCluster)
    (sameSend : secondCluster.send node = firstCluster.send node)
    (alike : (first.viewOf node).AnswersLike (second.viewOf node)) :
    (secondCluster.passage taskRunner task timeout second node).2 =
      (firstCluster.passage taskRunner task timeout first node).2 := by
  have delivered : ∀ handler delay, firstCluster.send node = .underway handler delay →
      (Cluster.deliver taskRunner second node handler task).2 =
        (Cluster.deliver taskRunner first node handler task).2 := fun handler delay sent =>
    deliver_congr firstApart secondApart (firstHandlers.of_send sent)
      (secondHandlers.of_send (sameSend.trans sent)) alike
  unfold Cluster.passage
  rw [sameSend]
  cases sent : firstCluster.send node with
  | refused failure => rfl
  | underway handler delay =>
      cases delay with
      | none => exact delivered handler none sent
      | some delay =>
          simp only
          split
          · exact delivered handler (some delay) sent
          · rfl

/-! ### Executed tasks -/

def IsOn (cluster : Cluster Nat) (log : List Nat) (node : NodeAddress) : Prop :=
  ∃ number, handlerOf cluster node = some number ∧ number ∈ log

/-- The handlers that execute the task in a broadcast, in order. -/
def executions (deployment : Deployment) (task : ClusterTask) (timeout : Nat) : List Nat :=
  (deployment.cluster.broadcast taskRunner.logged (Prod.map Deployment.settle id)
    (deployment, []) task timeout).1.2

theorem isSilence_of_answer {deployment after : Deployment} {number : Nat}
    {answer : Except NodeFailure ClusterResponse} {failure : NodeFailure}
    (ran : taskRunner.run deployment number task = some (after, answer))
    (failed : answer >>= Cluster.receive = .error failure) : failure.isSilence = false := by
  obtain ⟨registry, _, answered⟩ := Option.map_eq_some_iff.1 ran
  have given : ∀ failure, answer = .error failure → failure.isSilence = false := by
    rintro failure rfl
    unfold Deployment.answerTask at answered
    split at answered
    · cases answered
      rfl
    · rename_i id service _
      cases outcome : (deployment.onLocalIndex id service (service.index.answer · task)).2 with
      | ok response => simp [outcome, Except.mapError] at answered
      | error found =>
          simp only [outcome, Except.mapError] at answered
          cases answered
          rfl
  cases answer with
  | error found =>
      cases failed
      exact given _ rfl
  | ok response =>
      have received : Cluster.receive response = .error failure := failed
      rw [receive_eq] at received
      split at received
      · cases received
      · cases received
        rfl

/-- A passage logs the handler of the node unless the node fails, and never when it is silent. -/
theorem passage_logged_cases (cluster : Cluster Nat) (task : ClusterTask) (timeout : Nat)
    (progress : Deployment × List Nat) (node : NodeAddress) :
    ((cluster.passage taskRunner.logged task timeout progress node).1.2 = progress.2 ∧
        ∃ failure, (cluster.passage taskRunner.logged task timeout progress node).2 =
          .error failure) ∨
      ∃ number, handlerOf cluster node = some number ∧
        (cluster.passage taskRunner.logged task timeout progress node).1.2 =
          progress.2 ++ [number] ∧
        ∀ failure, (cluster.passage taskRunner.logged task timeout progress node).2 =
          .error failure → failure.isSilence = false := by
  rcases Cluster.passage_cases taskRunner.logged cluster task timeout progress node with
    ⟨handler, delay, sent, passed⟩ | ⟨failure, passed⟩
  · rw [passed]
    obtain ⟨_, _, unexecuted | ⟨number, received, after, answer, isHandler, ran, logged, answered⟩⟩
      := Cluster.deliver_logged taskRunner task progress node handler
    · exact Or.inl unexecuted
    · refine Or.inr ⟨number, (handlerOf_of_send sent).trans isHandler, logged,
        fun failure failed => ?_⟩
      exact isSilence_of_answer ran (answered.symm.trans failed)
  · rw [passed]
    exact Or.inl ⟨rfl, failure, rfl⟩

theorem keepsOthers_logged {owner : Nat → Option NodeAddress} {cluster : Cluster Nat}
    (handlers : OwnHandlers owner cluster) (before : Deployment) (task : ClusterTask)
    (timeout : Nat) :
    KeepsOthers (fun progress node =>
        (cluster.passage taskRunner.logged task timeout progress node).1)
      (fun progress => IsAround owner before progress.1)
      (fun progress node => IsOn cluster progress.2 node) where
  keeps := by
    intro progress node around
    rw [(Cluster.passage_logged taskRunner cluster task timeout progress node).2]
    exact (keepsOthers_passage handlers before task timeout).keeps progress.1 node around
  others := by
    intro progress node other around different
    rcases passage_logged_cases cluster task timeout progress node with
      ⟨same, _⟩ | ⟨number, isHandler, logged, _⟩
    · rw [same]
    · rw [logged]
      apply propext
      constructor
      · rintro ⟨found, isFound, inside⟩
        refine ⟨found, isFound, (List.mem_append.1 inside).resolve_right fun last => ?_⟩
        -- The number on the log is the node's, so the other node cannot have it.
        rw [List.mem_singleton.1 last] at isFound
        have twice := (handlers other number isFound).symm.trans (handlers node number isHandler)
        exact different (Option.some.inj twice)
      · rintro ⟨found, isFound, inside⟩
        exact ⟨found, isFound, List.mem_append_left _ inside⟩

/-! ### Isolation -/

def HasExecuted (deployment : Deployment) (task : ClusterTask) (timeout : Nat)
    (node : NodeAddress) : Prop :=
  IsOn deployment.cluster (deployment.executions task timeout) node

/-- A node has the same slot in two deployments, and answers tasks alike.  What its pool does
matters only if the pool has time to do it before the task gets there. -/
structure SameAt (timeout : Nat) (node : NodeAddress) (first second : Deployment) : Prop where
  slot : second.cluster.nodes.get? node = first.cluster.nodes.get? node
  answers : (first.viewOf node).AnswersLike (second.viewOf node)
  works : first.cluster.ReachesLate timeout node → WorksAlike node first second

structure IsolatesNodes (deployment : Deployment) (task : ClusterTask) (timeout : Nat) : Prop where
  /-- Every member is recorded once, with an answer or with a failure. -/
  once : ∀ node ∈ deployment.cluster.members,
    (∃ response, (deployment.gathers task timeout).responses.get? node = some response ∧
        (deployment.gathers task timeout).failures.get? node = none) ∨
      ∃ failure, (deployment.gathers task timeout).responses.get? node = none ∧
        (deployment.gathers task timeout).failures.get? node = some failure
  /-- Nobody else is recorded. -/
  strangers : ∀ node ∉ deployment.cluster.members,
    (deployment.gathers task timeout).responses.get? node = none ∧
      (deployment.gathers task timeout).failures.get? node = none
  /-- What is recorded of a node is the same in every deployment in which the node is. -/
  alone : ∀ node (other : Deployment), other.IsSeparate → SameAt timeout node deployment other →
    (other.gathers task timeout).responses.get? node =
        (deployment.gathers task timeout).responses.get? node ∧
      (other.gathers task timeout).failures.get? node =
        (deployment.gathers task timeout).failures.get? node
  /-- A node that is recorded as silent has not executed the task. -/
  silent : ∀ node failure, (deployment.gathers task timeout).failures.get? node = some failure →
    failure.isSilence = true → ¬deployment.HasExecuted task timeout node
  /-- A node that is recorded with an answer has. -/
  answered : ∀ node response,
    (deployment.gathers task timeout).responses.get? node = some response →
      deployment.HasExecuted task timeout node

section

variable {deployment : Deployment} {owner : Nat → Option NodeAddress}

/-- Behind the pause of a broadcast, a late member answers alike if it has worked alike. -/
theorem WorksAlike.answersLike_paused (works : WorksAlike node first second)
    (answers : (first.viewOf node).AnswersLike (second.viewOf node))
    (firstApart : first.KeepsApart firstOwner) (secondApart : second.KeepsApart secondOwner)
    (firstLate : node ∈ first.cluster.lateMembers)
    (secondLate : node ∈ second.cluster.lateMembers) (task : ClusterTask) (timeout : Nat) :
    ((first.cluster.paused Deployment.settle
        (first.cluster.promptRound taskRunner task timeout first).1).viewOf node).AnswersLike
      ((second.cluster.paused Deployment.settle
        (second.cluster.promptRound taskRunner task timeout second).1).viewOf node) := by
  have firstAround := firstApart.around.promptRound firstApart.handlers task timeout
  have secondAround := secondApart.around.promptRound secondApart.handlers task timeout
  have sameFirst := (Cluster.promptRound_of_not_mem
    (keepsOthers_passage firstApart.handlers first task timeout) firstApart.around
      fun prompt => Cluster.not_mem_of_prompt prompt firstLate).1
  have sameSecond := (Cluster.promptRound_of_not_mem
    (keepsOthers_passage secondApart.handlers second task timeout) secondApart.around
      fun prompt => Cluster.not_mem_of_prompt prompt secondLate).1
  rw [Cluster.paused_of_late firstLate, Cluster.paused_of_late secondLate]
  refine WorksAlike.settle ?_ ?_ firstAround.apart secondAround.apart
  · unfold WorksAlike
    rw [sameFirst, sameSecond, firstAround.stores, secondAround.stores, firstAround.cluster,
      secondAround.cluster]
    exact works
  · rw [sameFirst, sameSecond]
    exact answers

/-- Whether a member is a prompt one is told by its slot. -/
theorem members_congr_of_sameSlot {firstCluster secondCluster : Cluster Nat}
    (sameSlot : secondCluster.nodes.get? node = firstCluster.nodes.get? node) :
    secondCluster.send node = firstCluster.send node ∧
      (node ∈ secondCluster.members ↔ node ∈ firstCluster.members) ∧
      (node ∈ secondCluster.promptMembers ↔ node ∈ firstCluster.promptMembers) := by
  have sameSend : secondCluster.send node = firstCluster.send node := by
    rw [Cluster.send, Cluster.send, sameSlot]
  have sameMember : node ∈ secondCluster.members ↔ node ∈ firstCluster.members := by
    rw [Cluster.members, Cluster.members, Table.mem_keys_iff, Table.mem_keys_iff, sameSlot]
  have samePrompt : secondCluster.isPrompt node = firstCluster.isPrompt node := by
    rw [Cluster.isPrompt, Cluster.isPrompt, sameSend]
  refine ⟨sameSend, sameMember, ?_⟩
  rw [Cluster.mem_promptMembers_iff, Cluster.mem_promptMembers_iff, sameMember, samePrompt]

theorem SameAt.heard {timeout : Nat} (same : SameAt timeout node first second)
    (firstApart : first.KeepsApart firstOwner) (secondApart : second.KeepsApart secondOwner)
    (task : ClusterTask) :
    (second.gathers task timeout).heard node = (first.gathers task timeout).heard node := by
  obtain ⟨sameSend, sameMember, samePrompt⟩ := members_congr_of_sameSlot same.slot
  have firstPassages := keepsOthers_passage firstApart.handlers first task timeout
  have secondPassages := keepsOthers_passage secondApart.handlers second task timeout
  have firstPaused := firstApart.pausedAround task timeout
  have secondPaused := secondApart.pausedAround task timeout
  have passedAlike : ∀ firstReached secondReached : Deployment,
      IsAround firstOwner first firstReached → IsAround secondOwner second secondReached →
      (firstReached.viewOf node).AnswersLike (secondReached.viewOf node) →
        (second.cluster.passage taskRunner task timeout secondReached node).2 =
          (first.cluster.passage taskRunner task timeout firstReached node).2 :=
    fun _ _ firstAround secondAround alike => passage_congr firstAround.apart
      secondAround.apart firstApart.handlers secondApart.handlers sameSend alike
  unfold gathers
  -- A prompt member is passed before the pause, a late one behind it.
  by_cases isMember : node ∈ first.cluster.members
  · by_cases prompt : node ∈ first.cluster.promptMembers
    · have promptToo := samePrompt.2 prompt
      obtain ⟨firstReached, firstAround, sameFirst, _, firstHeard⟩ :=
        Cluster.promptRound_of_mem firstPassages firstApart.around prompt
      obtain ⟨secondReached, secondAround, sameSecond, _, secondHeard⟩ :=
        Cluster.promptRound_of_mem secondPassages secondApart.around promptToo
      rw [(Cluster.broadcast_of_not_late firstPassages firstPaused
          (Cluster.not_mem_of_prompt prompt)).2,
        (Cluster.broadcast_of_not_late secondPassages secondPaused
          (Cluster.not_mem_of_prompt promptToo)).2, firstHeard, secondHeard,
        passedAlike firstReached secondReached firstAround secondAround
          (by rw [sameFirst, sameSecond]; exact same.answers)]
    · have notPromptToo := fun promptToo => prompt (samePrompt.1 promptToo)
      have late := (Cluster.mem_members_iff.1 isMember).resolve_left prompt
      have lateToo := (Cluster.mem_members_iff.1 (sameMember.2 isMember)).resolve_left notPromptToo
      obtain ⟨firstReached, firstAround, sameFirst, _, firstHeard⟩ :=
        Cluster.broadcast_of_late firstPassages firstApart.around firstPaused late
      obtain ⟨secondReached, secondAround, sameSecond, _, secondHeard⟩ :=
        Cluster.broadcast_of_late secondPassages secondApart.around secondPaused lateToo
      rw [firstHeard, secondHeard]
      by_cases reaches : first.cluster.ReachesLate timeout node
      · have alike := (same.works reaches).answersLike_paused same.answers firstApart secondApart
          late lateToo task timeout
        rw [passedAlike firstReached secondReached firstAround secondAround
          (by rw [sameFirst, sameSecond]; exact alike)]
      · have unreachedToo : ¬second.cluster.ReachesLate timeout node := by
          unfold Cluster.ReachesLate at reaches ⊢
          rwa [sameSend]
        rw [Cluster.passage_of_not_reached late reaches,
          Cluster.passage_of_not_reached lateToo unreachedToo]
  · rw [Cluster.heard_of_stranger firstPassages firstApart.around firstPaused isMember,
      Cluster.heard_of_stranger secondPassages secondApart.around secondPaused
        fun isMemberToo => isMember (sameMember.1 isMemberToo)]

/-- Of a member, the log of a broadcast tells whether its passage has logged it. -/
theorem KeepsApart.executed_iff (apart : deployment.KeepsApart owner) (task : ClusterTask)
    (timeout : Nat) (isMember : node ∈ deployment.cluster.members) :
    ∃ reached : Deployment × List Nat, ¬IsOn deployment.cluster reached.2 node ∧
      (deployment.HasExecuted task timeout node ↔ IsOn deployment.cluster
        (deployment.cluster.passage taskRunner.logged task timeout reached node).1.2 node) ∧
      (deployment.gathers task timeout).heard node = Gathered.entry
        (deployment.cluster.passage taskRunner.logged task timeout reached node).2 := by
  have passages := keepsOthers_logged apart.handlers deployment task timeout
  have pausedGood : IsAround owner deployment (deployment.cluster.paused
      (Prod.map Deployment.settle id) (deployment.cluster.promptRound taskRunner.logged task
        timeout (deployment, [])).1).1 := by
    have around := Cluster.good_round passages deployment.cluster.promptMembers
      ((deployment, []), Gathered.empty) apart.around
    unfold Cluster.paused
    split
    · exact around
    · exact around.settle
  have steady : ∀ world : Deployment × List Nat, IsOn deployment.cluster
      (deployment.cluster.paused (Prod.map Deployment.settle id) world).2 node =
        IsOn deployment.cluster world.2 node := by
    intro world
    unfold Cluster.paused
    split <;> rfl
  obtain ⟨reached, _, unlogged, logged, heard⟩ :=
    Cluster.broadcast_of_member passages apart.around pausedGood isMember steady
  have sameBroadcast := Cluster.broadcast_logged taskRunner deployment.cluster task timeout
    Deployment.settle deployment []
  refine ⟨reached, ?_, Iff.of_eq logged, ?_⟩
  · rw [unlogged]
    rintro ⟨number, _, inside⟩
    cases inside
  · rw [← heard, gathers, ← sameBroadcast]
    rfl

/-- Where the nodes keep apart, a broadcast isolates them. -/
theorem broadcast_isolates_nodes (separate : deployment.IsSeparate) (task : ClusterTask)
    (timeout : Nat) : deployment.IsolatesNodes task timeout := by
  obtain ⟨owner, apart⟩ := separate
  have passages := keepsOthers_passage apart.handlers deployment task timeout
  have pausedAround := apart.pausedAround task timeout
  have isMember : ∀ node, (deployment.gathers task timeout).heard node ≠ (none, none) →
      node ∈ deployment.cluster.members := by
    intro node recorded
    by_contra stranger
    exact recorded (Cluster.heard_of_stranger passages apart.around pausedAround stranger)
  refine ⟨?once, ?strangers, ?alone, ?silent, ?answered⟩
  case once =>
    intro node isMember
    obtain ⟨reached, _, heard⟩ :=
      Cluster.heard_of_member passages apart.around pausedAround isMember
    generalize (deployment.cluster.passage taskRunner task timeout reached node).2 = outcome
      at heard
    obtain ⟨response, failure⟩ := Prod.mk.inj heard
    cases outcome with
    | ok given => exact Or.inl ⟨given, response, failure⟩
    | error given => exact Or.inr ⟨given, response, failure⟩
  case strangers =>
    intro node stranger
    exact Prod.mk.inj (Cluster.heard_of_stranger passages apart.around pausedAround stranger)
  case alone =>
    rintro node other ⟨otherOwner, otherApart⟩ same
    exact Prod.mk.inj (same.heard apart otherApart task)
  case silent =>
    intro node failure failed isSilent
    have recorded : (deployment.gathers task timeout).heard node ≠ (none, none) := by
      intro nothing
      rw [(Prod.mk.inj nothing).2] at failed
      cases failed
    obtain ⟨reached, unlogged, executed, heard⟩ :=
      apart.executed_iff task timeout (isMember node recorded)
    have outcome := Gathered.entry_eq_failure.1 ((Prod.mk.inj heard).2.symm.trans failed)
    rw [executed]
    rcases passage_logged_cases deployment.cluster task timeout reached node with
      ⟨same, _⟩ | ⟨_, _, _, heardOf⟩
    · rw [same]
      exact unlogged
    · rw [heardOf failure outcome] at isSilent
      cases isSilent
  case answered =>
    intro node response given
    have recorded : (deployment.gathers task timeout).heard node ≠ (none, none) := by
      intro nothing
      rw [(Prod.mk.inj nothing).1] at given
      cases given
    obtain ⟨reached, _, executed, heard⟩ :=
      apart.executed_iff task timeout (isMember node recorded)
    have outcome := Gathered.entry_eq_response.1 ((Prod.mk.inj heard).1.symm.trans given)
    rw [executed]
    rcases passage_logged_cases deployment.cluster task timeout reached node with
      ⟨_, failure, failed⟩ | ⟨number, isHandler, logged, _⟩
    · rw [outcome] at failed
      cases failed
    · rw [logged]
      exact ⟨number, isHandler, List.mem_append_right _ List.mem_cons_self⟩

end

/-- Two nodes next to one with an index of issues, in which there is one. -/
def issueNodes : Deployment :=
  empty.run
    [.join "a" 1, .install IndexLife.issueOwner "issue" "a", .work 1 .start,
      .work 1 (.transact (.ok [.upsert ⟨1, 1, [("state", .text "open")]⟩])), .work 1 .refresh,
      .join "b" 1, .join "c" 1]

/-- One of these nodes is out of reach, and one is slow. -/
def strainedIssueNodes : Deployment :=
  { issueNodes with
    cluster := (issueNodes.cluster.setReachable "b" false).setDelay "c" (some 400) }

theorem isReached_issueNodes : issueNodes.IsReached := by
  refine IsReached.empty.run fun operation inside deployment => ?_
  simp only [List.mem_cons, List.not_mem_nil, or_false] at inside
  rcases inside with rfl | rfl | rfl | rfl | rfl | rfl | rfl <;> trivial

theorem isReached_strainedIssueNodes : strainedIssueNodes.IsReached :=
  (isReached_issueNodes.setReachable "b" false).setDelay "c" (some 400)

def countOf : ClusterResponse → Option UInt64
  | .count number => some number
  | _ => none

/-- The issue is counted whether or not the other nodes answer. -/
theorem issue_is_counted_beside_others :
    strainedIssueNodes.IsolatesNodes (.count "issue" "*:*") 250 ∧
      ((strainedIssueNodes.gathers (.count "issue" "*:*") 250).responses.get? "a").bind countOf =
        some 1 ∧
      (strainedIssueNodes.gathers (.count "issue" "*:*") 250).failures.entries =
        [("b", .unreachable "b"), ("c", .timedOut "c did not answer within 250ms")] ∧
      (issueNodes.gathers (.count "issue" "*:*") 250).responses.get? "a" =
        (strainedIssueNodes.gathers (.count "issue" "*:*") 250).responses.get? "a" := by
  have isolates := broadcast_isolates_nodes isReached_strainedIssueNodes.isSeparate
    (.count "issue" "*:*") 250
  have sameSlot : issueNodes.cluster.nodes.get? "a" =
      strainedIssueNodes.cluster.nodes.get? "a" := by
    simp [strainedIssueNodes, Cluster.setReachable, Cluster.setDelay, Table.get?_modify]
  have sameNode : SameAt 250 "a" strainedIssueNodes issueNodes :=
    ⟨sameSlot, .of_eq rfl, fun _ => Or.inr ⟨rfl, rfl, fun _ => Iff.rfl⟩⟩
  exact ⟨isolates, by decide +kernel, by decide +kernel,
    (isolates.alone "a" issueNodes isReached_issueNodes.isSeparate sameNode).1⟩

end Deployment

end EntitySearch
