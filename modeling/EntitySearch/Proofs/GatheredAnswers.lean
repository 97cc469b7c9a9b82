import EntitySearch.Cluster.Broadcast

/-!
# What a broadcast gathers

A broadcast hears of every member, and what it records as an answer was given by
the member.  Here the answer of a member may depend on a part of the world that
no delivery changes and that is the same behind the broadcast as before it.
-/

namespace EntitySearch

namespace Gathered

/-- The recorded answers are right, and something is recorded for the nodes. -/
structure Accounts (answers : NodeAddress → ClusterResponse → Prop) (heard : List NodeAddress)
    (gathered : Gathered) : Prop where
  right : ∀ node response, gathered.responses.get? node = some response → answers node response
  complete : ∀ node ∈ heard,
    (gathered.responses.get? node).isSome ∨ (gathered.failures.get? node).isSome

/-- Answers and failures are recorded as they were told, and something is recorded for the
nodes. -/
structure Records (told : NodeAddress → Except NodeFailure ClusterResponse → Prop)
    (heard : List NodeAddress) (gathered : Gathered) : Prop where
  responses : ∀ node response, gathered.responses.get? node = some response →
    told node (.ok response)
  failures : ∀ node failure, gathered.failures.get? node = some failure →
    told node (.error failure)
  complete : ∀ node ∈ heard,
    (gathered.responses.get? node).isSome ∨ (gathered.failures.get? node).isSome

variable {told : NodeAddress → Except NodeFailure ClusterResponse → Prop}
  {heard : List NodeAddress} {gathered : Gathered}

theorem records_empty : empty.Records told [] where
  responses node response recorded := by cases recorded
  failures node failure recorded := by cases recorded
  complete node inside := by cases inside

theorem Records.of_subset (records : gathered.Records told heard) {fewer : List NodeAddress}
    (subset : fewer ⊆ heard) : gathered.Records told fewer where
  responses := records.responses
  failures := records.failures
  complete := fun node inside => records.complete node (subset inside)

theorem Records.accounts (records : gathered.Records told heard)
    {answers : NodeAddress → ClusterResponse → Prop}
    (right : ∀ node response, told node (.ok response) → answers node response) :
    gathered.Accounts answers heard where
  right node response recorded := right node response (records.responses node response recorded)
  complete := records.complete

section

variable {Value : Type} (table : Table NodeAddress Value) (key node : NodeAddress)
  (value : Value)

theorem isSome_set :
    ((table.set key value).get? node).isSome =
      (decide (node = key) || (table.get? node).isSome) := by
  by_cases same : node = key
  · subst same
    simp
  · simp [same, table.get?_set_of_ne same]

variable {table key node value}

theorem get?_set_cases {found : Value} (recorded : (table.set key value).get? node = some found) :
    (node = key ∧ found = value) ∨ table.get? node = some found := by
  by_cases same : node = key
  · subst same
    rw [Table.get?_set_self] at recorded
    exact Or.inl ⟨rfl, (Option.some.inj recorded).symm⟩
  · rw [Table.get?_set_of_ne _ same] at recorded
    exact Or.inr recorded

end

theorem Records.record (records : gathered.Records told heard) {node : NodeAddress}
    {outcome : Except NodeFailure ClusterResponse} (isTold : told node outcome) :
    (gathered.record node outcome).Records told (node :: heard) := by
  cases outcome with
  | error failure =>
      refine ⟨records.responses, fun other found recorded => ?_, fun other inside => ?_⟩
      · rcases get?_set_cases recorded with ⟨rfl, rfl⟩ | earlier
        · exact isTold
        · exact records.failures other found earlier
      · rw [Gathered.record, isSome_set, Bool.or_eq_true, decide_eq_true_eq]
        rcases List.mem_cons.1 inside with same | earlier
        · exact Or.inr (Or.inl same)
        · exact (records.complete other earlier).imp_right Or.inr
  | ok response =>
      refine ⟨fun other found recorded => ?_, records.failures, fun other inside => ?_⟩
      · rcases get?_set_cases recorded with ⟨rfl, rfl⟩ | earlier
        · exact isTold
        · exact records.responses other found earlier
      · rw [Gathered.record, isSome_set, Bool.or_eq_true, decide_eq_true_eq]
        rcases List.mem_cons.1 inside with same | earlier
        · exact Or.inl (Or.inl same)
        · exact (records.complete other earlier).imp_left Or.inr

end Gathered

namespace Cluster

variable {Handler World View : Type} {runner : TaskRunner Handler World}
  {cluster : Cluster Handler} {task : ClusterTask} {timeout : Nat} {view : World → View}
  {seen : View} {told : NodeAddress → Except NodeFailure ClusterResponse → Prop}
  {answers : NodeAddress → ClusterResponse → Prop}

/-- What a delivery of the task does: it leaves the view of the world alone, and where the
view is the given one, a member answers what it has to. -/
structure Delivers (runner : TaskRunner Handler World) (cluster : Cluster Handler)
    (task : ClusterTask) (view : World → View) (seen : View)
    (answers : NodeAddress → ClusterResponse → Prop) : Prop where
  keeps : ∀ world node handler, view (deliver runner world node handler task).1 = view world
  right : ∀ world node handler delay response, view world = seen → node ∈ cluster.members →
    cluster.send node = .underway handler delay →
      (deliver runner world node handler task).2 = .ok response → answers node response

/-- What is told of the members: deliveries leave the view of the world alone, and what a member
answers where the view is the given one is told of it, as is its silence. -/
structure Tells (runner : TaskRunner Handler World) (cluster : Cluster Handler)
    (task : ClusterTask) (timeout : Nat) (view : World → View) (seen : View)
    (told : NodeAddress → Except NodeFailure ClusterResponse → Prop) : Prop where
  keeps : ∀ world node handler, view (deliver runner world node handler task).1 = view world
  refused : ∀ node ∈ cluster.members, ∀ failure, cluster.send node = .refused failure →
    told node (.error failure)
  delivered : ∀ node ∈ cluster.members, ∀ world handler delay, view world = seen →
    cluster.send node = .underway handler delay →
      told node (deliver runner world node handler task).2
  late : ∀ node ∈ cluster.members, ∀ handler delay, timeout < delay →
    cluster.send node = .underway handler (some delay) → told node (.error (timedOut node timeout))

theorem Delivers.tells (delivers : Delivers runner cluster task view seen answers)
    (timeout : Nat) :
    Tells runner cluster task timeout view seen fun node outcome =>
      ∀ response, outcome = .ok response → answers node response where
  keeps := delivers.keeps
  refused _ _ _ _ _ same := by cases same
  delivered node isMember world handler delay started sent response :=
    delivers.right world node handler delay response started isMember sent
  late _ _ _ _ _ _ _ same := by cases same

def isPrompt (cluster : Cluster Handler) (node : NodeAddress) : Bool :=
  match cluster.send node with
  | .underway _ (some _) => false
  | _ => true

/-- A node that is sent to at once leaves the view alone and is recorded. -/
theorem Tells.atOnce (tells : Tells runner cluster task timeout view seen told)
    {progress : World × Gathered} {heard : List NodeAddress} {node : NodeAddress}
    (isMember : node ∈ cluster.members) (started : view progress.1 = seen)
    (records : progress.2.Records told heard) :
    view (broadcastAtOnce runner cluster task progress node).1 = seen ∧
      (broadcastAtOnce runner cluster task progress node).2.Records told
        ([node].filter cluster.isPrompt ++ heard) := by
  cases sent : cluster.send node with
  | refused failure =>
      have prompt : cluster.isPrompt node = true := by simp only [isPrompt, sent]
      simp only [broadcastAtOnce, sent, List.filter_cons_of_pos prompt, List.filter_nil]
      exact ⟨started, records.record (tells.refused node isMember failure sent)⟩
  | underway handler delay =>
      cases delay with
      | none =>
          have prompt : cluster.isPrompt node = true := by simp only [isPrompt, sent]
          simp only [broadcastAtOnce, sent, List.filter_cons_of_pos prompt, List.filter_nil]
          exact ⟨(tells.keeps _ _ _).trans started,
            records.record (tells.delivered node isMember _ _ _ started sent)⟩
      | some delay =>
          have late : ¬cluster.isPrompt node = true := by simp only [isPrompt, sent]; decide
          simp only [broadcastAtOnce, sent, List.filter_cons_of_neg late, List.filter_nil]
          exact ⟨started, records⟩

theorem Tells.foldl_atOnce (tells : Tells runner cluster task timeout view seen told)
    {nodes : List NodeAddress} (members : nodes ⊆ cluster.members) {progress : World × Gathered}
    {heard : List NodeAddress} (started : view progress.1 = seen)
    (records : progress.2.Records told heard) :
    view (nodes.foldl (broadcastAtOnce runner cluster task) progress).1 = seen ∧
      (nodes.foldl (broadcastAtOnce runner cluster task) progress).2.Records told
        (nodes.filter cluster.isPrompt ++ heard) := by
  induction nodes generalizing progress heard with
  | nil => exact ⟨started, records⟩
  | cons node nodes ih =>
      obtain ⟨startedNext, recordsNext⟩ :=
        tells.atOnce (members List.mem_cons_self) started records
      obtain ⟨startedLast, recordsLast⟩ :=
        ih (fun other inside => members (List.mem_cons_of_mem _ inside)) startedNext recordsNext
      refine ⟨startedLast, recordsLast.of_subset fun other inside => ?_⟩
      simp only [List.mem_append, List.mem_filter, List.mem_cons, List.not_mem_nil,
        or_false] at inside ⊢
      rcases inside with ⟨same | later, prompt⟩ | before
      · exact Or.inr (Or.inl ⟨same, prompt⟩)
      · exact Or.inl ⟨later, prompt⟩
      · exact Or.inr (Or.inr before)

theorem mem_delayedDeliveries {delivery : Delayed Handler} :
    delivery ∈ cluster.delayedDeliveries ↔ delivery.node ∈ cluster.members ∧
      cluster.send delivery.node = .underway delivery.handler (some delivery.delay) := by
  rw [delayedDeliveries, (List.mergeSort_perm _ _).mem_iff, List.mem_filterMap]
  constructor
  · rintro ⟨node, isMember, found⟩
    split at found
    · rename_i handler delay sent
      cases found
      exact ⟨isMember, sent⟩
    · cases found
  · rintro ⟨isMember, sent⟩
    exact ⟨delivery.node, isMember, by rw [sent]⟩

theorem view_broadcastLater
    (keeps : ∀ world node handler, view (deliver runner world node handler task).1 = view world)
    (timeout : Nat) (progress : World × Gathered) (delivery : Delayed Handler) :
    view (broadcastLater runner timeout task progress delivery).1 = view progress.1 := by
  rw [broadcastLater]
  split
  · exact keeps _ _ _
  · rfl

theorem view_foldl_later
    (keeps : ∀ world node handler, view (deliver runner world node handler task).1 = view world)
    (timeout : Nat) (deliveries : List (Delayed Handler)) (progress : World × Gathered) :
    view (deliveries.foldl (broadcastLater runner timeout task) progress).1 =
      view progress.1 := by
  induction deliveries generalizing progress with
  | nil => rfl
  | cons delivery deliveries ih =>
      rw [List.foldl_cons, ih, view_broadcastLater keeps]

theorem Tells.foldl_later (tells : Tells runner cluster task timeout view seen told)
    {deliveries : List (Delayed Handler)} (planned : deliveries ⊆ cluster.delayedDeliveries)
    {progress : World × Gathered} {heard : List NodeAddress} (started : view progress.1 = seen)
    (records : progress.2.Records told heard) :
    (deliveries.foldl (broadcastLater runner timeout task) progress).2.Records told
      (deliveries.map (·.node) ++ heard) := by
  induction deliveries generalizing progress heard with
  | nil => exact records
  | cons delivery deliveries ih =>
      obtain ⟨isMember, sent⟩ := mem_delayedDeliveries.1 (planned List.mem_cons_self)
      have recordsNext : (broadcastLater runner timeout task progress delivery).2.Records
          told (delivery.node :: heard) := by
        rw [broadcastLater]
        split
        case isTrue =>
          exact records.record (tells.delivered _ isMember _ _ _ started sent)
        case isFalse late =>
          exact records.record (tells.late _ isMember _ _ (Nat.lt_of_not_le late) sent)
      have recordsLast := ih
        (fun other inside => planned (List.mem_cons_of_mem _ inside))
        ((view_broadcastLater tells.keeps timeout progress delivery).trans started)
        recordsNext
      refine recordsLast.of_subset fun other inside => ?_
      simp only [List.map_cons, List.cons_append, List.mem_cons, List.mem_append] at inside ⊢
      rcases inside with same | later | before
      · exact Or.inr (Or.inl same)
      · exact Or.inl later
      · exact Or.inr (Or.inr before)

/-- A broadcast behind which the view is what it was before records what is told of every
member. -/
theorem Tells.broadcast (tells : Tells runner cluster task timeout view seen told)
    {meanwhile : World → World} {world : World} (started : view world = seen)
    (steady : view (cluster.broadcast runner meanwhile world task timeout).1 = seen) :
    (cluster.broadcast runner meanwhile world task timeout).2.Records told
      cluster.members := by
  have begun : view ((world, Gathered.empty) : World × Gathered).1 = seen := started
  obtain ⟨startedNext, recordsNext⟩ :=
    tells.foldl_atOnce (List.Subset.refl _) begun Gathered.records_empty
  have late : ∀ node ∈ cluster.members, cluster.isPrompt node = true ∨
      ∃ delivery ∈ cluster.delayedDeliveries, delivery.node = node := by
    intro node isMember
    cases sent : cluster.send node with
    | refused failure => exact Or.inl (by simp only [isPrompt, sent])
    | underway handler delay =>
        cases delay with
        | none => exact Or.inl (by simp only [isPrompt, sent])
        | some delay =>
            exact Or.inr ⟨⟨node, handler, delay⟩, mem_delayedDeliveries.2 ⟨isMember, sent⟩, rfl⟩
  -- The members that are sent to at once come first, then the delayed ones, if there are any.
  unfold Cluster.broadcast at steady ⊢
  generalize cluster.members.foldl (broadcastAtOnce runner cluster task)
    (world, Gathered.empty) = progress at *
  obtain ⟨atOnce, gathered⟩ := progress
  cases deliveries : cluster.delayedDeliveries with
  | nil =>
      simp only [deliveries] at steady ⊢
      refine recordsNext.of_subset fun node isMember => ?_
      rcases late node isMember with prompt | ⟨delivery, inside, _⟩
      · exact List.mem_append_left _ (List.mem_filter.2 ⟨isMember, prompt⟩)
      · rw [deliveries] at inside
        cases inside
  | cons delivery later =>
      simp only [deliveries] at steady ⊢
      rw [view_foldl_later tells.keeps] at steady
      have recordsLast := tells.foldl_later
        (fun other inside => deliveries ▸ inside) steady recordsNext
      refine recordsLast.of_subset fun node isMember => ?_
      rcases late node isMember with prompt | ⟨found, inside, same⟩
      · exact List.mem_append_right _
          (List.mem_append_left _ (List.mem_filter.2 ⟨isMember, prompt⟩))
      · rw [deliveries] at inside
        exact List.mem_append_left _ (List.mem_map.2 ⟨found, inside, same⟩)

/-- A broadcast behind which the view is what it was before accounts for every member. -/
theorem Delivers.broadcast (delivers : Delivers runner cluster task view seen answers)
    {meanwhile : World → World} {world : World} {timeout : Nat} (started : view world = seen)
    (steady : view (cluster.broadcast runner meanwhile world task timeout).1 = seen) :
    (cluster.broadcast runner meanwhile world task timeout).2.Accounts answers
      cluster.members :=
  ((delivers.tells timeout).broadcast started steady).accounts
    fun _ response told => told response rfl

section Keeping

variable {property : World → Prop}
  (runs : ∀ world handler task after answer,
    runner.run world handler task = some (after, answer) → property world → property after)

include runs

theorem keeps_deliver (world : World) (node : NodeAddress) (handler : Option Handler)
    (holds : property world) : property (deliver runner world node handler task).1 := by
  unfold deliver
  split
  · exact holds
  · split
    · exact holds
    · rename_i ran
      obtain ⟨_, _, run⟩ := Option.bind_eq_some_iff.1 ran
      exact runs _ _ _ _ _ run holds

theorem keeps_atOnce (progress : World × Gathered) (node : NodeAddress)
    (holds : property progress.1) :
    property (broadcastAtOnce runner cluster task progress node).1 := by
  unfold broadcastAtOnce
  split
  · exact holds
  · exact keeps_deliver runs _ _ _ holds
  · exact holds

theorem keeps_later (timeout : Nat) (progress : World × Gathered) (delivery : Delayed Handler)
    (holds : property progress.1) :
    property (broadcastLater runner timeout task progress delivery).1 := by
  unfold broadcastLater
  split
  · exact keeps_deliver runs _ _ _ holds
  · exact holds

theorem keeps_broadcast {meanwhile : World → World}
    (waits : ∀ world, property world → property (meanwhile world)) {world : World}
    (timeout : Nat) (holds : property world) :
    property (cluster.broadcast runner meanwhile world task timeout).1 := by
  have atOnce : property (cluster.members.foldl (broadcastAtOnce runner cluster task)
      (world, Gathered.empty)).1 :=
    List.foldlRecOn (motive := fun progress : World × Gathered => property progress.1)
      cluster.members _ holds fun progress kept node _ => keeps_atOnce runs progress node kept
  unfold Cluster.broadcast
  generalize cluster.members.foldl (broadcastAtOnce runner cluster task)
    (world, Gathered.empty) = progress at *
  obtain ⟨later, gathered⟩ := progress
  simp only
  split
  · exact atOnce
  · exact List.foldlRecOn (motive := fun progress : World × Gathered => property progress.1)
      _ _ (waits later atOnce)
      fun progress kept delivery _ => keeps_later runs timeout progress delivery kept

end Keeping

end Cluster

end EntitySearch
