import EntitySearch.Proofs.GatheredAnswers
import EntitySearch.Proofs.TableEntries

/-!
# The passages of a broadcast

A broadcast passes every member once: first those that it sends to at once, then,
behind a pause in which the world can change, the delayed ones.  What it does for
a member in its passage does not depend on what it has done for the others before,
as far as these leave alone what belongs to the member.
-/

namespace EntitySearch

/-! ### Visits to nodes -/

section Visits

variable {World View : Type}

/-- Acting on a node keeps what is good about the world, and leaves alone what is seen of every
other node. -/
structure KeepsOthers (act : World → NodeAddress → World) (good : World → Prop)
    (view : World → NodeAddress → View) : Prop where
  keeps : ∀ world node, good world → good (act world node)
  others : ∀ world node other, good world → other ≠ node →
    view (act world node) other = view world other

variable {act : World → NodeAddress → World} {good : World → Prop}
  {view : World → NodeAddress → View} {nodes : List NodeAddress} {world : World}
  {node : NodeAddress}

theorem KeepsOthers.and (visits : KeepsOthers act good view) {also : World → Prop}
    (keeps : ∀ world node, good world → also world → also (act world node)) :
    KeepsOthers act (fun world => good world ∧ also world) view where
  keeps world node both := ⟨visits.keeps world node both.1, keeps world node both.1 both.2⟩
  others world node other both := visits.others world node other both.1

theorem KeepsOthers.good_foldl (visits : KeepsOthers act good view) (nodes : List NodeAddress)
    (isGood : good world) : good (nodes.foldl act world) :=
  List.foldlRecOn nodes act isGood fun _ kept node _ => visits.keeps _ node kept

theorem KeepsOthers.foldl_of_not_mem (visits : KeepsOthers act good view) (isGood : good world)
    (outside : node ∉ nodes) : view (nodes.foldl act world) node = view world node := by
  induction nodes generalizing world with
  | nil => rfl
  | cons first nodes ih =>
      obtain ⟨different, outsideRest⟩ := List.ne_and_not_mem_of_not_mem_cons outside
      exact (ih (visits.keeps world first isGood) outsideRest).trans
        (visits.others world first node isGood different)

/-- Of a node that is visited once, nothing is seen to happen before its visit and behind it. -/
theorem KeepsOthers.foldl_of_mem (visits : KeepsOthers act good view) (isGood : good world)
    (distinct : nodes.Nodup) (inside : node ∈ nodes) :
    ∃ reached, good reached ∧ view reached node = view world node ∧
      view (nodes.foldl act world) node = view (act reached node) node := by
  induction nodes generalizing world with
  | nil => cases inside
  | cons first nodes ih =>
      obtain ⟨notLater, distinctRest⟩ := List.nodup_cons.1 distinct
      have goodNext := visits.keeps world first isGood
      -- Behind its own visit, and before it, the node sees visits to others only.
      by_cases same : node = first
      · subst same
        exact ⟨world, isGood, rfl, visits.foldl_of_not_mem goodNext notLater⟩
      · obtain ⟨reached, reachedGood, sameView, seen⟩ :=
          ih goodNext distinctRest ((List.mem_cons.1 inside).resolve_left same)
        exact ⟨reached, reachedGood,
          sameView.trans (visits.others world first node isGood same), seen⟩

end Visits

namespace Gathered

/-- What is recorded for a node: an answer, a failure. -/
def heard (gathered : Gathered) (node : NodeAddress) :
    Option ClusterResponse × Option NodeFailure :=
  (gathered.responses.get? node, gathered.failures.get? node)

/-- An outcome as all that is recorded for a node. -/
def entry : Except NodeFailure ClusterResponse → Option ClusterResponse × Option NodeFailure
  | .ok response => (some response, none)
  | .error failure => (none, some failure)

theorem heard_empty (node : NodeAddress) : empty.heard node = (none, none) := rfl

theorem heard_record_of_ne (gathered : Gathered) {node other : NodeAddress}
    (different : other ≠ node) (outcome : Except NodeFailure ClusterResponse) :
    (gathered.record node outcome).heard other = gathered.heard other := by
  cases outcome <;> simp [heard, record, Table.get?_set_of_ne _ different]

theorem heard_record_self {gathered : Gathered} {node : NodeAddress}
    (unheard : gathered.heard node = (none, none))
    (outcome : Except NodeFailure ClusterResponse) :
    (gathered.record node outcome).heard node = entry outcome := by
  obtain ⟨noAnswer, noFailure⟩ := Prod.mk.inj unheard
  cases outcome <;> simp [heard, record, entry, noAnswer, noFailure]

theorem entry_eq_response {outcome : Except NodeFailure ClusterResponse}
    {response : ClusterResponse} : (entry outcome).1 = some response ↔ outcome = .ok response := by
  cases outcome <;> simp [entry]

theorem entry_eq_failure {outcome : Except NodeFailure ClusterResponse}
    {failure : NodeFailure} : (entry outcome).2 = some failure ↔ outcome = .error failure := by
  cases outcome <;> simp [entry]

end Gathered

/-- The runner that keeps account of the handlers that execute tasks. -/
def TaskRunner.logged {Handler World : Type} (runner : TaskRunner Handler World) :
    TaskRunner Handler (World × List Handler) where
  run progress handler task :=
    (runner.run progress.1 handler task).map fun result =>
      ((result.1, progress.2 ++ [handler]), result.2)

namespace Cluster

variable {Handler World View : Type} {runner : TaskRunner Handler World}
  {cluster : Cluster Handler} {task : ClusterTask} {timeout : Nat}

/-- What a broadcast does for a member when its turn comes, and what it records. -/
def passage (runner : TaskRunner Handler World) (cluster : Cluster Handler) (task : ClusterTask)
    (timeout : Nat) (world : World) (node : NodeAddress) :
    World × Except NodeFailure ClusterResponse :=
  match cluster.send node with
  | .refused failure => (world, .error failure)
  | .underway handler none => deliver runner world node handler task
  | .underway handler (some delay) =>
      if delay ≤ timeout then deliver runner world node handler task
      else (world, .error (timedOut node timeout))

theorem passage_cases (runner : TaskRunner Handler World) (cluster : Cluster Handler)
    (task : ClusterTask) (timeout : Nat) (world : World) (node : NodeAddress) :
    (∃ handler delay, cluster.send node = .underway handler delay ∧
        cluster.passage runner task timeout world node =
          deliver runner world node handler task) ∨
      ∃ failure, cluster.passage runner task timeout world node = (world, .error failure) := by
  unfold passage
  split
  · exact Or.inr ⟨_, rfl⟩
  · rename_i handler sent
    exact Or.inl ⟨handler, none, sent, rfl⟩
  · rename_i handler delay sent
    split
    · exact Or.inl ⟨handler, some delay, sent, rfl⟩
    · exact Or.inr ⟨_, rfl⟩

/-- The task gets to the node, though not at once. -/
def ReachesLate (cluster : Cluster Handler) (timeout : Nat) (node : NodeAddress) : Prop :=
  ∃ handler delay, cluster.send node = .underway handler (some delay) ∧ delay ≤ timeout

def pass (runner : TaskRunner Handler World) (cluster : Cluster Handler) (task : ClusterTask)
    (timeout : Nat) (progress : World × Gathered) (node : NodeAddress) : World × Gathered :=
  let (world, outcome) := cluster.passage runner task timeout progress.1 node
  (world, progress.2.record node outcome)

/-- The members that a broadcast sends to at once. -/
def promptMembers (cluster : Cluster Handler) : List NodeAddress :=
  cluster.members.filter cluster.isPrompt

/-- The members that take a while, in the order in which the tasks arrive. -/
def lateMembers (cluster : Cluster Handler) : List NodeAddress :=
  cluster.delayedDeliveries.map (·.node)

/-- The world behind the pause of a broadcast.  There is none if no member takes a while. -/
def paused (cluster : Cluster Handler) (meanwhile : World → World) (world : World) : World :=
  if cluster.lateMembers.isEmpty then world else meanwhile world

/-- A broadcast as it stands before its pause. -/
def promptRound (runner : TaskRunner Handler World) (cluster : Cluster Handler)
    (task : ClusterTask) (timeout : Nat) (world : World) : World × Gathered :=
  cluster.promptMembers.foldl (cluster.pass runner task timeout) (world, Gathered.empty)

theorem broadcastAtOnce_eq (timeout : Nat) (progress : World × Gathered) (node : NodeAddress) :
    broadcastAtOnce runner cluster task progress node =
      if cluster.isPrompt node then cluster.pass runner task timeout progress node
      else progress := by
  unfold broadcastAtOnce isPrompt pass passage
  cases cluster.send node with
  | refused failure => rfl
  | underway handler delay => cases delay <;> rfl

theorem foldl_broadcastAtOnce (timeout : Nat) (nodes : List NodeAddress)
    (progress : World × Gathered) :
    nodes.foldl (broadcastAtOnce runner cluster task) progress =
      (nodes.filter cluster.isPrompt).foldl (cluster.pass runner task timeout) progress := by
  rw [List.foldl_filter]
  congr 1
  funext progress node
  exact broadcastAtOnce_eq timeout progress node

theorem foldl_broadcastLater (runner : TaskRunner Handler World) (timeout : Nat)
    (task : ClusterTask) {deliveries : List (Delayed Handler)}
    (planned : deliveries ⊆ cluster.delayedDeliveries) (progress : World × Gathered) :
    deliveries.foldl (broadcastLater runner timeout task) progress =
      (deliveries.map (·.node)).foldl (cluster.pass runner task timeout) progress := by
  rw [List.foldl_map]
  apply List.foldl_ext
  intro progress delivery inside
  obtain ⟨_, sent⟩ := mem_delayedDeliveries.1 (planned inside)
  unfold broadcastLater pass passage
  simp only [sent]
  split <;> rfl

/-- A broadcast passes the prompt members, pauses, and passes the late ones. -/
theorem broadcast_eq (meanwhile : World → World) (world : World) :
    cluster.broadcast runner meanwhile world task timeout =
      let prompt := cluster.promptRound runner task timeout world
      cluster.lateMembers.foldl (cluster.pass runner task timeout)
        (cluster.paused meanwhile prompt.1, prompt.2) := by
  unfold broadcast promptRound promptMembers
  rw [foldl_broadcastAtOnce timeout]
  generalize (cluster.members.filter cluster.isPrompt).foldl
    (cluster.pass runner task timeout) (world, Gathered.empty) = prompt
  have later := foldl_broadcastLater runner timeout task
    (List.Subset.refl cluster.delayedDeliveries)
  unfold lateMembers paused
  cases deliveries : cluster.delayedDeliveries with
  | nil => simp [lateMembers, deliveries]
  | cons delivery rest =>
      rw [deliveries] at later
      simp only [lateMembers, deliveries, List.map_cons, List.isEmpty_cons, Bool.false_eq_true,
        if_false] at later ⊢
      exact later _

theorem members_perm (cluster : Cluster Handler) :
    (cluster.promptMembers ++ cluster.lateMembers).Perm cluster.members := by
  have delayed : cluster.lateMembers.Perm
      (cluster.members.filter fun node => !cluster.isPrompt node) := by
    have listed : cluster.delayedDeliveries.Perm _ := List.mergeSort_perm _ _
    refine (listed.map (·.node)).trans (List.Perm.of_eq ?_)
    induction cluster.members with
    | nil => rfl
    | cons node nodes ih =>
        cases sent : cluster.send node with
        | refused failure =>
            simp only [List.filterMap_cons, sent, List.filter_cons, isPrompt]
            exact ih
        | underway handler delay =>
            cases delay with
            | none =>
                simp only [List.filterMap_cons, sent, List.filter_cons, isPrompt]
                exact ih
            | some delay =>
                simp only [List.filterMap_cons, sent, List.filter_cons, isPrompt,
                  List.map_cons, Bool.not_false, if_true]
                exact congrArg _ ih
  refine (delayed.append_left _).trans ?_
  exact List.filter_append_perm cluster.isPrompt cluster.members

theorem nodup_members_split (cluster : Cluster Handler) :
    (cluster.promptMembers ++ cluster.lateMembers).Nodup :=
  cluster.members_perm.nodup_iff.2 cluster.nodes.nodup_keys

variable {node : NodeAddress}

theorem mem_members_iff :
    node ∈ cluster.members ↔ node ∈ cluster.promptMembers ∨ node ∈ cluster.lateMembers := by
  rw [← cluster.members_perm.mem_iff, List.mem_append]

theorem mem_promptMembers_iff :
    node ∈ cluster.promptMembers ↔ node ∈ cluster.members ∧ cluster.isPrompt node = true :=
  List.mem_filter

theorem not_mem_of_prompt (prompt : node ∈ cluster.promptMembers) :
    node ∉ cluster.lateMembers :=
  fun late => (List.nodup_append.1 cluster.nodup_members_split).2.2 node prompt node late rfl

/-- A late member that the task does not get to is cut off, whatever the world is like. -/
theorem passage_of_not_reached (late : node ∈ cluster.lateMembers)
    (unreached : ¬cluster.ReachesLate timeout node) (world : World) :
    cluster.passage runner task timeout world node = (world, .error (timedOut node timeout)) := by
  obtain ⟨⟨_, handler, delay⟩, isDelayed, rfl⟩ := List.mem_map.1 late
  obtain ⟨_, sent⟩ := mem_delayedDeliveries.1 isDelayed
  have tooLong : ¬delay ≤ timeout := fun inTime => unreached ⟨handler, delay, sent, inTime⟩
  simp only [passage, sent, if_neg tooLong]

theorem paused_of_late (late : node ∈ cluster.lateMembers) (meanwhile : World → World)
    (world : World) : cluster.paused meanwhile world = meanwhile world := by
  have delayed : cluster.lateMembers.isEmpty = false :=
    List.isEmpty_eq_false_iff_exists_mem.2 ⟨node, late⟩
  rw [paused, delayed, if_neg Bool.false_ne_true]

/-! ### Rounds of passages -/

variable {good : World → Prop} {view : World → NodeAddress → View}
  {nodes : List NodeAddress} {progress : World × Gathered}

theorem keepsOthers_pass
    (passages : KeepsOthers (fun world node => (cluster.passage runner task timeout world node).1)
      good view) :
    KeepsOthers (cluster.pass runner task timeout) (fun progress => good progress.1)
      fun progress node => (view progress.1 node, progress.2.heard node) where
  keeps progress node isGood := passages.keeps progress.1 node isGood
  others progress node other isGood different :=
    Prod.ext (passages.others progress.1 node other isGood different)
      (Gathered.heard_record_of_ne _ different _)

/-- Behind a round, what is seen and recorded of a node that the round passes is what its passage
has left, in a world in which the node is seen as before the round. -/
theorem round_of_mem
    (passages : KeepsOthers (fun world node => (cluster.passage runner task timeout world node).1)
      good view)
    (progress : World × Gathered) (isGood : good progress.1) (distinct : nodes.Nodup)
    (inside : node ∈ nodes) (unheard : progress.2.heard node = (none, none)) :
    ∃ world, good world ∧ view world node = view progress.1 node ∧
      view (nodes.foldl (cluster.pass runner task timeout) progress).1 node =
        view (cluster.passage runner task timeout world node).1 node ∧
      (nodes.foldl (cluster.pass runner task timeout) progress).2.heard node =
        Gathered.entry (cluster.passage runner task timeout world node).2 := by
  obtain ⟨reached, reachedGood, sameBefore, left⟩ :=
    (keepsOthers_pass passages).foldl_of_mem isGood distinct inside
  obtain ⟨sameView, sameHeard⟩ := Prod.mk.inj sameBefore
  obtain ⟨seen, recorded⟩ := Prod.mk.inj left
  exact ⟨reached.1, reachedGood, sameView, seen,
    recorded.trans (Gathered.heard_record_self (sameHeard.trans unheard) _)⟩

theorem round_of_not_mem
    (passages : KeepsOthers (fun world node => (cluster.passage runner task timeout world node).1)
      good view)
    (progress : World × Gathered) (isGood : good progress.1) (outside : node ∉ nodes) :
    view (nodes.foldl (cluster.pass runner task timeout) progress).1 node =
        view progress.1 node ∧
      (nodes.foldl (cluster.pass runner task timeout) progress).2.heard node =
        progress.2.heard node :=
  Prod.mk.inj ((keepsOthers_pass passages).foldl_of_not_mem isGood outside)

theorem good_round
    (passages : KeepsOthers (fun world node => (cluster.passage runner task timeout world node).1)
      good view)
    (nodes : List NodeAddress) (progress : World × Gathered) (isGood : good progress.1) :
    good (nodes.foldl (cluster.pass runner task timeout) progress).1 :=
  (keepsOthers_pass passages).good_foldl nodes isGood

/-! ### Whole broadcasts -/

section

variable {meanwhile : World → World} {world : World}
  (passages : KeepsOthers (fun world node => (cluster.passage runner task timeout world node).1)
    good view)
  (isGood : good world)
  (pausedGood : good (cluster.paused meanwhile (cluster.promptRound runner task timeout world).1))

include passages isGood

theorem promptRound_of_mem (prompt : node ∈ cluster.promptMembers) :
    ∃ reached, good reached ∧ view reached node = view world node ∧
      view (cluster.promptRound runner task timeout world).1 node =
        view (cluster.passage runner task timeout reached node).1 node ∧
      (cluster.promptRound runner task timeout world).2.heard node =
        Gathered.entry (cluster.passage runner task timeout reached node).2 :=
  round_of_mem passages (world, Gathered.empty) isGood
    (List.nodup_append.1 cluster.nodup_members_split).1 prompt (Gathered.heard_empty node)

theorem promptRound_of_not_mem (outside : node ∉ cluster.promptMembers) :
    view (cluster.promptRound runner task timeout world).1 node = view world node ∧
      (cluster.promptRound runner task timeout world).2.heard node = (none, none) :=
  round_of_not_mem passages (world, Gathered.empty) isGood outside

include pausedGood

omit isGood in
/-- What is recorded of a member that is not a late one is recorded before the pause, and the
late passages leave the member alone. -/
theorem broadcast_of_not_late (notLate : node ∉ cluster.lateMembers) :
    view (cluster.broadcast runner meanwhile world task timeout).1 node =
        view (cluster.paused meanwhile (cluster.promptRound runner task timeout world).1) node ∧
      (cluster.broadcast runner meanwhile world task timeout).2.heard node =
        (cluster.promptRound runner task timeout world).2.heard node := by
  rw [broadcast_eq]
  exact round_of_not_mem passages (_, _) pausedGood notLate

/-- A late member is passed in a world in which it is seen as behind the pause. -/
theorem broadcast_of_late (late : node ∈ cluster.lateMembers) :
    ∃ reached, good reached ∧
      view reached node =
        view (cluster.paused meanwhile (cluster.promptRound runner task timeout world).1) node ∧
      view (cluster.broadcast runner meanwhile world task timeout).1 node =
        view (cluster.passage runner task timeout reached node).1 node ∧
      (cluster.broadcast runner meanwhile world task timeout).2.heard node =
        Gathered.entry (cluster.passage runner task timeout reached node).2 := by
  have unheard := (promptRound_of_not_mem passages isGood fun prompt =>
    not_mem_of_prompt prompt late).2
  rw [broadcast_eq]
  exact round_of_mem passages (_, _) pausedGood
    (List.nodup_append.1 cluster.nodup_members_split).2.1 late unheard

/-- Of every member a broadcast records the outcome of its passage. -/
theorem heard_of_member (isMember : node ∈ cluster.members) :
    ∃ reached, good reached ∧
      (cluster.broadcast runner meanwhile world task timeout).2.heard node =
        Gathered.entry (cluster.passage runner task timeout reached node).2 := by
  rcases mem_members_iff.1 isMember with prompt | late
  · obtain ⟨reached, reachedGood, _, _, recorded⟩ := promptRound_of_mem passages isGood prompt
    exact ⟨reached, reachedGood, (broadcast_of_not_late passages pausedGood
      (not_mem_of_prompt prompt)).2.trans recorded⟩
  · obtain ⟨reached, reachedGood, _, _, recorded⟩ :=
      broadcast_of_late passages isGood pausedGood late
    exact ⟨reached, reachedGood, recorded⟩

/-- Where the pause leaves a member alone, one passage tells all of it. -/
theorem broadcast_of_member (isMember : node ∈ cluster.members)
    (steady : ∀ world, view (cluster.paused meanwhile world) node = view world node) :
    ∃ reached, good reached ∧ view reached node = view world node ∧
      view (cluster.broadcast runner meanwhile world task timeout).1 node =
        view (cluster.passage runner task timeout reached node).1 node ∧
      (cluster.broadcast runner meanwhile world task timeout).2.heard node =
        Gathered.entry (cluster.passage runner task timeout reached node).2 := by
  rcases mem_members_iff.1 isMember with prompt | late
  · obtain ⟨reached, reachedGood, sameView, seen, recorded⟩ :=
      promptRound_of_mem passages isGood prompt
    obtain ⟨seenLater, recordedLater⟩ :=
      broadcast_of_not_late passages pausedGood (not_mem_of_prompt prompt)
    exact ⟨reached, reachedGood, sameView, seenLater.trans ((steady _).trans seen),
      recordedLater.trans recorded⟩
  · obtain ⟨reached, reachedGood, sameView, seen, recorded⟩ :=
      broadcast_of_late passages isGood pausedGood late
    have unseen := (promptRound_of_not_mem passages isGood fun prompt =>
      not_mem_of_prompt prompt late).1
    exact ⟨reached, reachedGood, sameView.trans ((steady _).trans unseen), seen, recorded⟩

theorem heard_of_stranger (stranger : node ∉ cluster.members) :
    (cluster.broadcast runner meanwhile world task timeout).2.heard node = (none, none) := by
  rw [mem_members_iff, not_or] at stranger
  exact (broadcast_of_not_late passages pausedGood stranger.2).2.trans
    (promptRound_of_not_mem passages isGood stranger.1).2

end

/-! ### Executed tasks -/

/-- A delivery through a logging runner does what it does without, and logs the handler if it
executes the task; otherwise the delivery fails. -/
theorem deliver_logged (runner : TaskRunner Handler World) (task : ClusterTask)
    (progress : World × List Handler) (node : NodeAddress) (handler : Option Handler) :
    (deliver runner.logged progress node handler task).2 =
        (deliver runner progress.1 node handler task).2 ∧
      (deliver runner.logged progress node handler task).1.1 =
        (deliver runner progress.1 node handler task).1 ∧
      ((deliver runner.logged progress node handler task).1.2 = progress.2 ∧
          (∃ failure, (deliver runner.logged progress node handler task).2 = .error failure) ∨
        ∃ executing received after answer, handler = some executing ∧
          runner.run progress.1 executing received = some (after, answer) ∧
          (deliver runner.logged progress node handler task).1.2 = progress.2 ++ [executing] ∧
          (deliver runner.logged progress node handler task).2 = answer >>= receive) := by
  unfold deliver
  cases Wire.decodeTask? (Wire.encodeTask task) with
  | none => exact ⟨rfl, rfl, Or.inl ⟨rfl, _, rfl⟩⟩
  | some received =>
      cases handler with
      | none => exact ⟨rfl, rfl, Or.inl ⟨rfl, _, rfl⟩⟩
      | some executing =>
          simp only [Option.bind_some, TaskRunner.logged]
          cases ran : runner.run progress.1 executing received with
          | none => exact ⟨rfl, rfl, Or.inl ⟨rfl, _, rfl⟩⟩
          | some result =>
              exact ⟨rfl, rfl, Or.inr ⟨executing, received, result.1, result.2, rfl, ran,
                rfl, rfl⟩⟩

theorem passage_logged (runner : TaskRunner Handler World) (cluster : Cluster Handler)
    (task : ClusterTask) (timeout : Nat) (progress : World × List Handler) (node : NodeAddress) :
    (cluster.passage runner.logged task timeout progress node).2 =
        (cluster.passage runner task timeout progress.1 node).2 ∧
      (cluster.passage runner.logged task timeout progress node).1.1 =
        (cluster.passage runner task timeout progress.1 node).1 := by
  unfold passage
  split
  · exact ⟨rfl, rfl⟩
  · exact (deliver_logged runner task progress node _).imp_right And.left
  · split
    · exact (deliver_logged runner task progress node _).imp_right And.left
    · exact ⟨rfl, rfl⟩

theorem foldl_pass_logged (nodes : List NodeAddress)
    (progress : (World × List Handler) × Gathered) :
    Prod.map Prod.fst id (nodes.foldl (cluster.pass runner.logged task timeout) progress) =
      nodes.foldl (cluster.pass runner task timeout) (Prod.map Prod.fst id progress) := by
  refine (List.foldl_hom (Prod.map Prod.fst id) fun progress node => ?_).symm
  obtain ⟨sameOutcome, sameWorld⟩ :=
    passage_logged runner cluster task timeout progress.1 node
  simp only [pass, Prod.map, id, sameOutcome, sameWorld]

theorem broadcast_logged (runner : TaskRunner Handler World) (cluster : Cluster Handler)
    (task : ClusterTask) (timeout : Nat) (meanwhile : World → World) (world : World)
    (log : List Handler) :
    Prod.map Prod.fst id (cluster.broadcast runner.logged (Prod.map meanwhile id) (world, log)
        task timeout) =
      cluster.broadcast runner meanwhile world task timeout := by
  have prompt : Prod.map Prod.fst id (cluster.promptRound runner.logged task timeout
      (world, log)) = cluster.promptRound runner task timeout world :=
    foldl_pass_logged cluster.promptMembers ((world, log), Gathered.empty)
  have samePause : ∀ progress : World × List Handler,
      (cluster.paused (Prod.map meanwhile id) progress).1 =
        cluster.paused meanwhile progress.1 := by
    intro progress
    unfold paused
    split <;> rfl
  rw [broadcast_eq, broadcast_eq]
  simp only [foldl_pass_logged]
  rw [← prompt]
  congr 1
  exact Prod.ext (samePause _) rfl

end Cluster

end EntitySearch
