import EntitySearch.Proofs.ReachedDeployments

/-!
# Removal of projects

The deletion of a project takes the documents of its entities out of an index, and
nothing else: the markers stay, and so does an entity that has the number of the
project in another field.  It is delivered to every member by the name of the
index, so on a node that reports it done this one index has lost the project, and
every other index of the deployment is as it was.
-/

namespace EntitySearch

namespace Document

def isOfProject (project : ProjectId) (document : Document) : Bool :=
  document.isOf .entity && (document.valuesOf CoreField.project).contains (.unsigned project)

theorem isOfProject_documentFor (layout : Layout) (entity : Entity) (project : ProjectId) :
    (layout.documentFor entity).document.isOfProject project = (entity.project == project) := by
  rw [isOfProject, isOf_documentFor, layout.project_documentFor entity, Bool.eq_iff_iff]
  simp only [beq_self_eq_true, Bool.true_and, List.contains_iff_mem, List.mem_singleton,
    FieldValue.unsigned.injEq, beq_iff_eq]
  exact eq_comm

theorem isOfProject_schemaMarker (version : UInt64) (project : ProjectId) :
    (schemaMarker version).isOfProject project = false := rfl

theorem isOfProject_progressMarker (mark : EntityId) (project : ProjectId) :
    (progressMarker mark).isOfProject project = false := rfl

end Document

namespace Chronicle.Describes

variable {chronicle : Chronicle} {content : IndexContent} {document : Document}

/-- A document of an index is a marker, or the one of an entity. -/
theorem mem_documents (describes : chronicle.Describes content)
    (inside : document ∈ content.documents) :
    (∃ version, document = Document.schemaMarker version) ∨
      (∃ mark, document = Document.progressMarker mark) ∨
        ∃ entity, document = (content.layout.documentFor entity).document := by
  obtain ⟨current, shows⟩ := describes.shown
  rcases List.mem_append.1 (shows.documents.mem_iff.1 inside) with isMarker | isCurrent
  · rcases List.mem_append.1 isMarker with isSchema | isProgress
    · obtain ⟨version, _, made⟩ := List.mem_map.1 isSchema
      exact Or.inl ⟨version, made.symm⟩
    · obtain ⟨mark, _, made⟩ := List.mem_map.1 isProgress
      exact Or.inr (Or.inl ⟨mark, made.symm⟩)
  · obtain ⟨entityDocument, present, made⟩ := List.mem_map.1 isCurrent
    obtain ⟨entity, same⟩ := describes.ordinary.documentFor ((shows.surviving _).1 present)
    exact Or.inr (Or.inr ⟨entity, same ▸ made.symm⟩)

/-- The deletion of a project targets the documents of its entities, and no others. -/
theorem targets_deleteProject (describes : chronicle.Describes content)
    (inside : document ∈ content.documents) (project : ProjectId) :
    (IndexChange.deleteProject project).targets content.layout document =
      document.isOfProject project := by
  obtain ⟨configuration, accepted⟩ := describes.accepted
  rcases describes.mem_documents inside with ⟨version, rfl⟩ | ⟨mark, rfl⟩ | ⟨entity, rfl⟩
  · rw [accepted, (IndexChange.IsOrdinary.deleteProject project).targets_schemaMarker,
      Document.isOfProject_schemaMarker]
  · rw [accepted, (IndexChange.IsOrdinary.deleteProject project).targets_progressMarker,
      Document.isOfProject_progressMarker]
    rfl
  · rw [accepted, IndexChange.targets_documentFor, Document.isOfProject_documentFor]
    exact Bool.beq_comm

end Chronicle.Describes

namespace IndexContent

/-- An index after the removal of a project has the former documents except the ones of the
entities of the project, whatever the entities are like, and the former markers. -/
structure IsWithoutProject (project : ProjectId) (former newer : IndexContent) : Prop where
  documents : newer.documents =
    former.documents.filter fun document => !document.isOfProject project
  entities : ∀ (layout : Layout) (entity : Entity),
    (layout.documentFor entity).document ∈ newer.documents ↔
      (layout.documentFor entity).document ∈ former.documents ∧ entity.project ≠ project
  schemaVersion : newer.schemaVersion? = former.schemaVersion?
  progressMark : newer.progressMark = former.progressMark

variable {former newer : IndexContent} {project : ProjectId}

theorem IsDescribed.isWithoutProject (described : former.IsDescribed) (project : ProjectId) :
    former.IsWithoutProject project (former.commit [.deleteProject project]) := by
  obtain ⟨chronicle, describes⟩ := described
  have staged : ∀ change ∈ [IndexChange.deleteProject project],
      change.IsOrdinary former.layout := by
    intro change inside
    rw [List.mem_singleton.1 inside]
    exact .deleteProject project
  have documents : (former.commit [.deleteProject project]).documents =
      former.documents.filter fun document => !document.isOfProject project := by
    rw [documents_commit]
    refine (List.append_nil _).trans (List.filter_congr fun document inside => ?_)
    rw [describes.targets_deleteProject inside]
  obtain ⟨_, _, figures⟩ := describes.statistics
  obtain ⟨_, _, newerFigures⟩ := (describes.commit staged).statistics
  refine ⟨documents, fun layout entity => ?_, ?_, ?_⟩
  · rw [documents, List.mem_filter, Document.isOfProject_documentFor]
    simp
  · exact (congrArg IndexStatistics.schemaVersion newerFigures).trans
      (congrArg IndexStatistics.schemaVersion figures).symm
  · -- The deletion puts no mark, so the last one is the same.
    have sameMark : (chronicle.extend [.deleteProject project]).lastMark? =
        chronicle.lastMark? :=
      chronicle.lastMark?_extend (.deleteProject project)
    have mark := congrArg IndexStatistics.progressMark newerFigures
    simp only [Chronicle.statistics, sameMark] at mark
    exact mark.trans (congrArg IndexStatistics.progressMark figures).symm

theorem IsWithoutProject.isOfProject (without : former.IsWithoutProject project newer)
    {document : Document} (inside : document ∈ newer.documents) :
    document.isOfProject project = false := by
  rw [without.documents, List.mem_filter, Bool.not_eq_true'] at inside
  exact inside.2

end IndexContent

/-- An index removes a project from its directory and lets its reader see this, or fails where
the directory cannot be opened. -/
theorem EntityIndex.answer_deleteProject (owner : EntityIndex) (index : LocalIndex)
    (indexName : String) (project : ProjectId) :
    (∃ former newer, index.directory.openFor owner.layout = .ok former ∧
        newer = former.commit [.deleteProject project] ∧
        owner.answer index (.deleteProject indexName project) =
          (⟨.readable newer, index.snapshot.map fun _ => newer, true⟩, .ok .done)) ∨
      ∃ failure, owner.answer index (.deleteProject indexName project) =
        (index.refresh, .error failure) := by
  cases opened : index.directory.openFor owner.layout with
  | ok former =>
      refine Or.inl ⟨former, _, rfl, rfl, ?_⟩
      simp only [answer, localDeleteProject, LocalIndex.transact, LocalIndex.runTransaction,
        LocalIndex.openDirectory_ok opened]
      rfl
  | error failure =>
      refine Or.inr ⟨failure, ?_⟩
      simp only [answer, localDeleteProject, LocalIndex.transact, LocalIndex.runTransaction,
        LocalIndex.openDirectory_error opened]
      rfl

namespace Deployment

/-! ### Nodes that lose a project -/

namespace NodeView

/-- The service that is registered on the node for an index has removed a project from it: the
directory holds what it held without the project, and an open reader shows this.  Every other
directory and every other service is as before. -/
inductive LosesProject (indexName : String) (project : ProjectId) (before after : NodeView) : Prop
  | intro (registry : Registry) (id : ServiceId) (service : Service) (former newer : IndexContent)
    (isRegistry : before.state.bind (·.registry) = some registry)
    (registered : before.serviceIn? registry indexName = some (id, service))
    (held : (before.directoryAt indexName).openFor service.index.layout = .ok former)
    (without : former.IsWithoutProject project newer)
    (holds : after.directoryAt indexName = .readable newer)
    (shows : after.services id = some
      { service with snapshot := service.snapshot.map fun _ => newer, hasCommitted := true })
    (otherDirectories : ∀ other, other ≠ indexName →
      after.directoryAt other = before.directoryAt other)
    (otherServices : ∀ other, other ≠ id → after.services other = before.services other)

/-- All directories of the node are as before, and so are its services, except that a reader of
the index can have been refreshed. -/
structure KeepsIndexes (indexName : String) (before after : NodeView) : Prop where
  directories : ∀ other, after.directoryAt other = before.directoryAt other
  services : ∀ id, after.services id = before.services id ∨
    ∃ service, before.services id = some service ∧ service.index.name = indexName ∧
      after.services id = some
        { service with
          snapshot := service.snapshot.map fun earlier =>
            ((before.directoryAt indexName).content?).getD earlier }

theorem KeepsIndexes.refl (indexName : String) (view : NodeView) :
    view.KeepsIndexes indexName view where
  directories _ := rfl
  services _ := Or.inl rfl

theorem LosesProject.isOfProject {indexName : String} {project : ProjectId}
    {before after : NodeView} (loses : before.LosesProject indexName project after)
    {content : IndexContent} (readable : after.directoryAt indexName = .readable content)
    {document : Document} (inside : document ∈ content.documents) :
    document.isOfProject project = false := by
  obtain ⟨_, _, _, _, _, _, _, _, without, holds, _, _, _⟩ := loses
  cases holds.symm.trans readable
  exact without.isOfProject inside

end NodeView

variable {deployment : Deployment} {owner : Nat → Option NodeAddress} {node : NodeAddress}
  {cluster : Cluster Nat} {project : ProjectId} {timeout : Nat}

section

variable {id : ServiceId} {service : Service} {state : NodeState} {indexName : String}
  (present : deployment.services.get? id = some service)
  (isNode : deployment.nodes.get? service.node = some state)
  (named : service.index.name = indexName)

include present isNode named

theorem losesProject_of_opened (described : deployment.IsDescribed) {registry : Registry}
    (isRegistry : state.registry = some registry)
    (registered : (deployment.viewOf service.node).serviceIn? registry indexName =
      some (id, service))
    {former : IndexContent}
    (opened : (deployment.localIndexOf service).directory.openFor service.index.layout =
      .ok former) (project : ProjectId) :
    let newer := former.commit [.deleteProject project]
    (deployment.viewOf service.node).LosesProject indexName project
      ((deployment.setLocalIndex id service
        ⟨.readable newer, service.snapshot.map fun _ => newer, true⟩).viewOf service.node) := by
  intro newer
  have changed := viewOf_setLocalIndex present isNode
  have formerDescribed : former.IsDescribed :=
    (((described.localIndexOf present).openDirectory service.index.configuration).2 former
      (congrArg Prod.snd (LocalIndex.openDirectory_ok opened))).2.2
  have isRegistryOf : (deployment.viewOf service.node).state.bind (·.registry) =
      some registry := by
    rw [viewOf, isNode]
    exact isRegistry
  refine .intro registry id service former newer isRegistryOf registered ?_
    (formerDescribed.isWithoutProject project) ?_ ?_ ?_ ?_
  · rw [directoryAt_viewOf, ← named]
    exact opened
  · rw [directoryAt_setLocalIndex present isNode, if_pos named.symm]
  · rw [changed]
    exact if_pos rfl
  · intro other different
    rw [directoryAt_setLocalIndex present isNode, if_neg (named ▸ different)]
  · intro other different
    rw [changed]
    exact if_neg different

theorem keepsIndexes_refresh :
    (deployment.viewOf service.node).KeepsIndexes indexName
      ((deployment.setLocalIndex id service
        (deployment.localIndexOf service).refresh).viewOf service.node) where
  directories := by
    intro other
    rw [directoryAt_setLocalIndex present isNode]
    split
    · rename_i same
      rw [same, directoryAt_viewOf]
      rfl
    · rfl
  services := by
    intro other
    rw [viewOf_setLocalIndex present isNode]
    by_cases same : other = id
    · refine Or.inr ⟨service, ?_, named, ?_⟩
      · rw [same]
        exact Deployment.services_viewOf present
      · rw [directoryAt_viewOf, ← named]
        exact if_pos same
    · exact Or.inl (if_neg same)

end

/-- When the deletion of a project passes a node, the node reports it done and has lost the
project, or it fails and has lost nothing. -/
theorem KeepsApart.passage_deleteProject (apart : deployment.KeepsApart owner)
    (described : deployment.IsDescribed) (handlers : OwnHandlers owner cluster)
    (indexName : String) (project : ProjectId) (timeout : Nat) (node : NodeAddress) :
    let passed := cluster.passage taskRunner (.deleteProject indexName project) timeout deployment
      node
    (passed.2 = .ok .done ∧
        (deployment.viewOf node).LosesProject indexName project (passed.1.viewOf node)) ∨
      (∃ failure, passed.2 = .error failure) ∧
        (deployment.viewOf node).KeepsIndexes indexName (passed.1.viewOf node) := by
  have unchanged := NodeView.KeepsIndexes.refl indexName (deployment.viewOf node)
  rcases Cluster.passage_cases taskRunner cluster (.deleteProject indexName project) timeout
    deployment node with ⟨handler, delay, sent, passed⟩ | ⟨failure, passed⟩
  case inr =>
    simp only [passed]
    exact Or.inr ⟨⟨failure, rfl⟩, unchanged⟩
  simp only [passed, apart.deliver_eq (handlers.of_send sent), ClusterTask.index]
  cases heard : (deployment.viewOf node).registryFor? handler with
  | none => exact Or.inr ⟨⟨_, rfl⟩, unchanged⟩
  | some registry =>
      cases listed : (deployment.viewOf node).serviceIn? registry indexName with
      | none =>
          simp only [listed]
          exact Or.inr ⟨⟨_, rfl⟩, unchanged⟩
      | some found =>
          obtain ⟨id, service⟩ := found
          obtain ⟨present, rfl, named⟩ := apart.of_serviceIn? heard listed
          obtain ⟨number, _, filtered⟩ := Option.bind_eq_some_iff.1 heard
          obtain ⟨isRegistered, _⟩ := Option.filter_eq_some_iff.1 filtered
          obtain ⟨state, isNode, isRegistry⟩ := Option.bind_eq_some_iff.1 isRegistered
          simp only [listed]
          rcases service.index.answer_deleteProject (deployment.localIndexOf service) indexName
            project with ⟨former, _, opened, rfl, answered⟩ | ⟨failure, answered⟩
          · simp only [answered]
            exact Or.inl ⟨receive_eq .done, losesProject_of_opened present isNode named described
              isRegistry listed opened project⟩
          · simp only [answered]
            exact Or.inr ⟨⟨failure.toNode, rfl⟩, keepsIndexes_refresh present isNode named⟩

/-! ### Broadcasts of a deletion -/

/-- The node has reported that it has done what it was asked for. -/
def ReportsDone (gathered : Gathered) (node : NodeAddress) : Prop :=
  gathered.responses.get? node = some .done

/-- Certain nodes lose a project, and all others keep their indexes. -/
structure RemovesProject (losing : NodeAddress → Prop) (indexName : String)
    (project : ProjectId) (before after : Deployment) : Prop where
  loses : ∀ node, losing node →
    (before.viewOf node).LosesProject indexName project (after.viewOf node)
  keeps : ∀ node, ¬losing node → (before.viewOf node).KeepsIndexes indexName (after.viewOf node)

theorem RemovesProject.of_cases {losing : NodeAddress → Prop} {indexName : String}
    {before after : Deployment}
    (cases : ∀ node,
      (losing node ∧
          (before.viewOf node).LosesProject indexName project (after.viewOf node)) ∨
        ¬losing node ∧ (before.viewOf node).KeepsIndexes indexName (after.viewOf node)) :
    RemovesProject losing indexName project before after where
  loses node isLosing := ((cases node).resolve_right fun other => other.1 isLosing).2
  keeps node notLosing := ((cases node).resolve_left fun other => notLosing other.1).2

section

variable {indexName : String} (apart : deployment.KeepsApart owner)
  (described : deployment.IsDescribed)

include apart in
theorem KeepsApart.keepsOthers_described (task : ClusterTask) (timeout : Nat) :
    KeepsOthers
      (fun world node => (deployment.cluster.passage taskRunner task timeout world node).1)
      (fun world => IsAround owner deployment world ∧ world.IsDescribed) viewOf :=
  (keepsOthers_passage apart.handlers deployment task timeout).and
    fun _ node around worldDescribed =>
      around.apart.isDescribed_passage worldDescribed apart.handlers task timeout node

include apart described

theorem KeepsApart.described_paused (task : ClusterTask) (timeout : Nat) :
    IsAround owner deployment (deployment.cluster.paused Deployment.settle
        (deployment.cluster.promptRound taskRunner task timeout deployment).1) ∧
      (deployment.cluster.paused Deployment.settle
        (deployment.cluster.promptRound taskRunner task timeout deployment).1).IsDescribed := by
  have promptDescribed := (Cluster.good_round (apart.keepsOthers_described task timeout)
    deployment.cluster.promptMembers (deployment, Gathered.empty) ⟨apart.around, described⟩).2
  refine ⟨apart.pausedAround task timeout, ?_⟩
  unfold Cluster.paused
  split
  · exact promptDescribed
  · exact promptDescribed.settle

omit apart described in
/-- What a passage of the deletion does to a node is told by what is recorded of the node. -/
theorem IsAround.loses_or_keeps {reached : Deployment}
    (around : IsAround owner deployment reached) (reachedDescribed : reached.IsDescribed)
    (handlers : OwnHandlers owner cluster) {gathered : Gathered}
    (heard : gathered.heard node = Gathered.entry (cluster.passage taskRunner
      (.deleteProject indexName project) timeout reached node).2) :
    let after := (cluster.passage taskRunner (.deleteProject indexName project) timeout reached
      node).1
    (ReportsDone gathered node ∧
        (reached.viewOf node).LosesProject indexName project (after.viewOf node)) ∨
      ¬ReportsDone gathered node ∧
        (reached.viewOf node).KeepsIndexes indexName (after.viewOf node) := by
  obtain ⟨response, _⟩ := Prod.mk.inj heard
  rcases around.apart.passage_deleteProject reachedDescribed handlers indexName project timeout
    node with ⟨done, loses⟩ | ⟨⟨failure, failed⟩, keeps⟩
  · exact Or.inl ⟨response.trans (Gathered.entry_eq_response.2 done), loses⟩
  · refine Or.inr ⟨fun reports => ?_, keeps⟩
    have done := Gathered.entry_eq_response.1 (response.symm.trans reports)
    cases failed.symm.trans done

omit apart described in
/-- A round of the deletion takes the project off the nodes that it passes and that report it
done. -/
theorem RemovesProject.of_round (deployment : Deployment) (timeout : Nat)
    {passed : NodeAddress → Prop} {before after : Deployment} {gathered : Gathered}
    (handlers : OwnHandlers owner cluster)
    (passages : ∀ node, passed node → ∃ reached,
      (IsAround owner deployment reached ∧ reached.IsDescribed) ∧
        reached.viewOf node = before.viewOf node ∧
        after.viewOf node = (cluster.passage taskRunner (.deleteProject indexName project) timeout
          reached node).1.viewOf node ∧
        gathered.heard node = Gathered.entry (cluster.passage taskRunner
          (.deleteProject indexName project) timeout reached node).2)
    (others : ∀ node, ¬passed node → after.viewOf node = before.viewOf node) :
    RemovesProject (fun node => passed node ∧ ReportsDone gathered node) indexName project
      before after := by
  refine .of_cases fun node => ?_
  by_cases isPassed : passed node
  · obtain ⟨reached, ⟨around, reachedDescribed⟩, sameView, seen, heard⟩ := passages node isPassed
    rw [seen, ← sameView]
    rcases around.loses_or_keeps reachedDescribed handlers heard with
      ⟨reports, loses⟩ | ⟨silent, keeps⟩
    · exact Or.inl ⟨⟨isPassed, reports⟩, loses⟩
    · exact Or.inr ⟨fun both => silent both.2, keeps⟩
  · rw [others node isPassed]
    exact Or.inr ⟨fun both => isPassed both.1, .refl indexName _⟩

/-- Before the pause of the broadcast, the prompt members that report the deletion done lose the
project. -/
theorem KeepsApart.removes_before_pause (indexName : String) (project : ProjectId)
    (timeout : Nat) :
    let task := ClusterTask.deleteProject indexName project
    RemovesProject
      (fun node => node ∈ deployment.cluster.promptMembers ∧
        ReportsDone (deployment.gathers task timeout) node) indexName project deployment
      (deployment.cluster.promptRound taskRunner task timeout deployment).1 := by
  intro task
  have passages := apart.keepsOthers_described task timeout
  have pausedGood := apart.described_paused described task timeout
  refine .of_round deployment timeout apart.handlers ?members ?others
  case members =>
    intro node prompt
    obtain ⟨reached, good, sameView, seen, recorded⟩ :=
      Cluster.promptRound_of_mem passages ⟨apart.around, described⟩ prompt
    have heard :=
      (Cluster.broadcast_of_not_late passages pausedGood (Cluster.not_mem_of_prompt prompt)).2
    exact ⟨reached, good, sameView, seen, heard.trans recorded⟩
  case others =>
    intro node notPrompt
    exact (Cluster.promptRound_of_not_mem passages ⟨apart.around, described⟩ notPrompt).1

/-- Behind the pause, the late members that report the deletion done lose the project. -/
theorem KeepsApart.removes_behind_pause (indexName : String) (project : ProjectId)
    (timeout : Nat) :
    let task := ClusterTask.deleteProject indexName project
    RemovesProject
      (fun node => node ∈ deployment.cluster.lateMembers ∧
        ReportsDone (deployment.gathers task timeout) node) indexName project
      (deployment.cluster.paused Deployment.settle
        (deployment.cluster.promptRound taskRunner task timeout deployment).1)
      (deployment.cluster.broadcast taskRunner Deployment.settle deployment task timeout).1 := by
  intro task
  have passages := apart.keepsOthers_described task timeout
  have pausedGood := apart.described_paused described task timeout
  exact .of_round deployment timeout apart.handlers
    (fun _ late => Cluster.broadcast_of_late passages ⟨apart.around, described⟩ pausedGood late)
    fun _ notLate => (Cluster.broadcast_of_not_late passages pausedGood notLate).1

omit described in
/-- The pause leaves a node as it is if there is none, or if the pool of the node is idle. -/
theorem KeepsApart.viewOf_paused_of_quiet
    (quiet : deployment.cluster.lateMembers = [] ∨ (deployment.viewOf node).IsIdle)
    (task : ClusterTask) (timeout : Nat) :
    let prompt := (deployment.cluster.promptRound taskRunner task timeout deployment).1
    (deployment.cluster.paused Deployment.settle prompt).viewOf node = prompt.viewOf node := by
  intro prompt
  have passages := keepsOthers_passage apart.handlers deployment task timeout
  unfold Cluster.paused
  split
  · rfl
  · rename_i late
    have idle := quiet.resolve_left fun none => late (by rw [none]; rfl)
    refine (apart.around.promptRound apart.handlers task timeout).viewOf_settle_of_idle ?_
    by_cases isPrompt : node ∈ deployment.cluster.promptMembers
    · obtain ⟨reached, around, sameView, seen, _⟩ :=
        Cluster.promptRound_of_mem passages apart.around isPrompt
      rw [seen]
      exact around.apart.isIdle_passage apart.handlers task timeout node (sameView ▸ idle)
    · rw [(Cluster.promptRound_of_not_mem passages apart.around isPrompt).1]
      exact idle

/-- Where the pause leaves a node alone, the node loses the project or keeps all its indexes. -/
theorem KeepsApart.loses_or_keeps_of_quiet
    (quiet : deployment.cluster.lateMembers = [] ∨ (deployment.viewOf node).IsIdle)
    (indexName : String) (project : ProjectId) (timeout : Nat) :
    let task := ClusterTask.deleteProject indexName project
    let after :=
      (deployment.cluster.broadcast taskRunner Deployment.settle deployment task timeout).1
    (ReportsDone (deployment.gathers task timeout) node ∧
        (deployment.viewOf node).LosesProject indexName project (after.viewOf node)) ∨
      ¬ReportsDone (deployment.gathers task timeout) node ∧
        (deployment.viewOf node).KeepsIndexes indexName (after.viewOf node) := by
  intro task after
  have passages := apart.keepsOthers_described task timeout
  have pausedGood := apart.described_paused described task timeout
  have steady := apart.viewOf_paused_of_quiet quiet task timeout
  have before := apart.removes_before_pause described indexName project timeout
  have behind := apart.removes_behind_pause described indexName project timeout
  by_cases late : node ∈ deployment.cluster.lateMembers
  · have unseen := (Cluster.promptRound_of_not_mem passages ⟨apart.around, described⟩
      fun prompt => Cluster.not_mem_of_prompt prompt late).1
    rw [← unseen, ← steady]
    by_cases reports : ReportsDone (deployment.gathers task timeout) node
    · exact Or.inl ⟨reports, behind.loses node ⟨late, reports⟩⟩
    · exact Or.inr ⟨reports, behind.keeps node fun both => reports both.2⟩
  · have seen := (Cluster.broadcast_of_not_late passages pausedGood late).1
    rw [seen, steady]
    by_cases reports : ReportsDone (deployment.gathers task timeout) node
    · have isMember : node ∈ deployment.cluster.members := by
        by_contra stranger
        obtain ⟨unheard, _⟩ := Prod.mk.inj (Cluster.heard_of_stranger passages
          ⟨apart.around, described⟩ pausedGood stranger)
        cases unheard.symm.trans reports
      have prompt := (Cluster.mem_members_iff.1 isMember).resolve_right late
      exact Or.inl ⟨reports, before.loses node ⟨prompt, reports⟩⟩
    · exact Or.inr ⟨reports, before.keeps node fun both => reports both.2⟩

theorem KeepsApart.reports_or_fails (isMember : node ∈ deployment.cluster.members)
    (indexName : String) (project : ProjectId) (timeout : Nat) :
    let gathered := deployment.gathers (.deleteProject indexName project) timeout
    ReportsDone gathered node ∨ ∃ failure, gathered.failures.get? node = some failure := by
  intro gathered
  obtain ⟨reached, ⟨around, reachedDescribed⟩, heard⟩ := Cluster.heard_of_member
    (apart.keepsOthers_described _ timeout) ⟨apart.around, described⟩
      (apart.described_paused described _ timeout) isMember
  obtain ⟨response, failure⟩ := Prod.mk.inj heard
  rcases around.apart.passage_deleteProject reachedDescribed apart.handlers indexName project
    timeout node with ⟨done, _⟩ | ⟨⟨found, failed⟩, _⟩
  · exact Or.inl (response.trans (Gathered.entry_eq_response.2 done))
  · exact Or.inr ⟨found, failure.trans (Gathered.entry_eq_failure.2 failed)⟩

end

/-- The deletion of a project takes the documents of its entities out of the index of every node
that reports it done, and nothing else out of any index.  It does so in two rounds, with a pause
between them in which background batches go on if members are slow; a node that the pause leaves
alone differs from what it was by the deletion only. -/
theorem deleteProject_removes_project_alone (reached : deployment.IsReached) (service : Service)
    (project : ProjectId) :
    let indexName := service.index.name
    let task := ClusterTask.deleteProject indexName project
    let cluster := deployment.cluster
    let gathered := (deployment.broadcast service task).2
    let middle := (cluster.promptRound taskRunner task
      service.index.settings.cluster.answerTimeout.toNat deployment).1
    let after := (deployment.deleteProject service project).1
    RemovesProject (fun node => node ∈ cluster.promptMembers ∧ ReportsDone gathered node)
        indexName project deployment middle ∧
      RemovesProject (fun node => node ∈ cluster.lateMembers ∧ ReportsDone gathered node)
        indexName project (cluster.paused Deployment.settle middle) after ∧
      ∀ node, cluster.lateMembers = [] ∨ (deployment.viewOf node).IsIdle →
        (ReportsDone gathered node →
            (deployment.viewOf node).LosesProject indexName project (after.viewOf node)) ∧
          (¬ReportsDone gathered node →
            (deployment.viewOf node).KeepsIndexes indexName (after.viewOf node)) := by
  intro indexName task cluster gathered middle after
  obtain ⟨owner, apart⟩ := reached.isSeparate
  have described := reached.isDescribed
  have behind := apart.removes_behind_pause described indexName project
    service.index.settings.cluster.answerTimeout.toNat
  refine ⟨apart.removes_before_pause described indexName project _,
    ⟨behind.loses, behind.keeps⟩, fun node quiet => ?_⟩
  rcases apart.loses_or_keeps_of_quiet described quiet indexName project
    service.index.settings.cluster.answerTimeout.toNat with ⟨reports, loses⟩ | ⟨silent, keeps⟩
  · exact ⟨fun _ => loses, fun silent => absurd reports silent⟩
  · exact ⟨fun reports => absurd reports silent, fun _ => keeps⟩

/-- Three nodes with indexes of issues: each has one issue of the first project, and one of the
second that is numbered like the first. -/
def projectNodes : Deployment :=
  empty.run
    [.join "a" 1, .install IndexLife.issueOwner "issue" "a", .work 1 .start,
      .work 1 (.transact (.ok [.upsert ⟨5, 1, []⟩, .upsert ⟨1, 2, [("state", .text "1")]⟩])),
      .join "b" 1, .install IndexLife.issueOwner "issue" "b", .work 3 .start,
      .work 3 (.transact (.ok [.upsert ⟨6, 1, []⟩, .upsert ⟨1, 2, [("state", .text "1")]⟩])),
      .join "c" 1, .install IndexLife.issueOwner "issue" "c", .work 5 .start,
      .work 5 (.transact (.ok [.upsert ⟨7, 1, []⟩, .upsert ⟨1, 2, [("state", .text "1")]⟩])),
      .settle]

/-- One of these nodes is out of reach, and one is slow. -/
def strainedProjectNodes : Deployment :=
  { projectNodes with
    cluster := (projectNodes.cluster.setReachable "b" false).setDelay "c" (some 100) }

theorem isReached_strainedProjectNodes : strainedProjectNodes.IsReached := by
  have reached : projectNodes.IsReached := by
    refine IsReached.empty.run fun operation inside deployment => ?_
    simp only [List.mem_cons, List.not_mem_nil, or_false] at inside
    rcases inside with
      rfl | rfl | rfl | rfl | rfl | rfl | rfl | rfl | rfl | rfl | rfl | rfl | rfl <;> trivial
  exact (reached.setReachable "b" false).setDelay "c" (some 100)

def idsIn (directory : IndexDirectory) : List (Option UInt64 × Option UInt64) :=
  directory.content?.toList.flatMap fun content =>
    (content.documents.filter (·.isOf .entity)).map fun document =>
      (document.storedUnsigned? CoreField.entity, document.storedUnsigned? CoreField.project)

/-- The service through which a project is removed from these indexes. -/
def issueService : Service := ⟨IndexLife.issueOwner, "issue", "a", none, false⟩

theorem reportsDone_of_any {gathered : Gathered} {node : NodeAddress}
    (done : (gathered.responses.get? node).any (· matches .done) = true) :
    ReportsDone gathered node := by
  unfold ReportsDone
  cases given : gathered.responses.get? node with
  | none =>
      rw [given] at done
      cases done
  | some response =>
      rw [given] at done
      cases response with
      | count number => cases done
      | scores hits => cases done
      | done => rfl

/-- The first project is gone from the nodes in reach, the second one stays. -/
theorem reachable_nodes_lose_first_project :
    let after := (strainedProjectNodes.deleteProject issueService 1).1
    (strainedProjectNodes.viewOf "a").LosesProject "issue" 1 (after.viewOf "a") ∧
      (strainedProjectNodes.viewOf "b").KeepsIndexes "issue" (after.viewOf "b") ∧
      (strainedProjectNodes.viewOf "c").LosesProject "issue" 1 (after.viewOf "c") ∧
      (["a", "b", "c"].map fun node => idsIn (after.directoryAt node "issue")) =
        [[(some 1, some 2)], [(some 6, some 1), (some 1, some 2)], [(some 1, some 2)]] := by
  intro after
  have idle : ∀ node ∈ ["a", "b", "c"], (strainedProjectNodes.viewOf node).IsIdle := by
    have idle : ∀ node ∈ ["a", "b", "c"],
        (strainedProjectNodes.nodes.get? node).all (·.pool.pool.isIdle) = true := by
      decide +kernel
    intro node inside state isNode
    exact (Option.all_eq_true ..).1 (idle node inside) state isNode
  obtain ⟨_, _, effect⟩ :=
    deleteProject_removes_project_alone isReached_strainedProjectNodes issueService 1
  have answers : ∀ node ∈ ["a", "c"], ((strainedProjectNodes.broadcast issueService
      (.deleteProject "issue" 1)).2.responses.get? node).any (· matches .done) = true := by
    decide +kernel
  have unheard : ((strainedProjectNodes.broadcast issueService
      (.deleteProject "issue" 1)).2.responses.get? "b").isNone = true := by
    decide +kernel
  have reports : ∀ node ∈ ["a", "c"], ReportsDone (strainedProjectNodes.broadcast issueService
      (.deleteProject "issue" 1)).2 node :=
    fun node inside => reportsDone_of_any (answers node inside)
  have silent : ¬ReportsDone (strainedProjectNodes.broadcast issueService
      (.deleteProject "issue" 1)).2 "b" := by
    intro reports
    cases (Option.isNone_iff_eq_none.1 unheard).symm.trans reports
  refine ⟨?_, ?_, ?_, by decide +kernel⟩
  · exact (effect "a" (Or.inr (idle "a" (by simp)))).1 (reports "a" (by simp))
  · exact (effect "b" (Or.inr (idle "b" (by simp)))).2 silent
  · exact (effect "c" (Or.inr (idle "c" (by simp)))).1 (reports "c" (by simp))

/-! ### What is left of a project -/

/-- Behind a deletion, a member without batches to run holds documents of the project only if the
member is recorded as failed. -/
theorem failed_of_remaining_document (reached : deployment.IsReached) (service : Service)
    (project : ProjectId) (isMember : node ∈ deployment.cluster.members)
    (quiet : deployment.cluster.lateMembers = [] ∨ (deployment.viewOf node).IsIdle)
    {content : IndexContent} {document : Document}
    (holds : (deployment.deleteProject service project).1.directoryAt node service.index.name =
      .readable content)
    (inside : document ∈ content.documents) (remains : document.isOfProject project = true) :
    ∃ failure, (deployment.broadcast service
      (.deleteProject service.index.name project)).2.failures.get? node = some failure := by
  obtain ⟨owner, apart⟩ := reached.isSeparate
  have described := reached.isDescribed
  rcases apart.reports_or_fails described isMember service.index.name project
    service.index.settings.cluster.answerTimeout.toNat with reports | failed
  · rcases apart.loses_or_keeps_of_quiet described quiet service.index.name project
      service.index.settings.cluster.answerTimeout.toNat with ⟨_, loses⟩ | ⟨silent, _⟩
    · rw [loses.isOfProject holds inside] at remains
      cases remains
    · exact absurd reports silent
  · exact failed

theorem exists_remaining_issue :
    ∃ content, (strainedProjectNodes.deleteProject issueService 1).1.directoryAt "b" "issue" =
        .readable content ∧
      ∃ document ∈ content.documents, document.isOfProject 1 = true := by
  have remains : ((strainedProjectNodes.deleteProject issueService 1).1.directoryAt "b"
      "issue").content?.any (fun content => content.documents.any (·.isOfProject 1)) = true := by
    decide +kernel
  obtain ⟨content, readable, found⟩ := (Option.any_eq_true ..).1 remains
  exact ⟨content, IndexDirectory.content?_eq_some.1 readable, List.any_eq_true.1 found⟩

theorem member_out_of_reach : "b" ∈ strainedProjectNodes.cluster.members := by
  have isMember : strainedProjectNodes.cluster.members.contains "b" = true := by decide +kernel
  exact List.contains_iff_mem.1 isMember

/-- The node out of reach is recorded as failed. -/
theorem unreachable_node_is_failed :
    ∃ failure, (strainedProjectNodes.broadcast issueService
      (.deleteProject issueService.index.name 1)).2.failures.get? "b" = some failure := by
  have idle : (strainedProjectNodes.nodes.get? "b").all (·.pool.pool.isIdle) = true := by
    decide +kernel
  obtain ⟨content, holds, document, inside, remains⟩ := exists_remaining_issue
  exact failed_of_remaining_document isReached_strainedProjectNodes issueService 1
    member_out_of_reach (Or.inr fun state isNode => (Option.all_eq_true ..).1 idle state isNode)
    holds inside remains

/-- The node out of reach keeps the issue of the first project, though the deletion succeeds. -/
theorem unreachable_node_keeps_first_project :
    (strainedProjectNodes.deleteProject issueService 1).2 = .ok () ∧
      "b" ∈ strainedProjectNodes.cluster.members ∧
      ∃ content, (strainedProjectNodes.deleteProject issueService 1).1.directoryAt "b" "issue" =
          .readable content ∧
        ∃ document ∈ content.documents, document.isOfProject 1 = true :=
  ⟨rfl, member_out_of_reach, exists_remaining_issue⟩

end Deployment

end EntitySearch
