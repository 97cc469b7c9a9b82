import EntitySearch.Proofs.IndexChronicle

/-!
# Local indexes that keep a chronicle

A local index keeps a chronicle when its directory holds what the chronicle says
and its reader, where it is open, shows the same.  Every operation of a local
index keeps the chronicle or carries it on: a transaction that succeeds enters
its changes, a start that rebuilds begins a new chronicle.
-/

namespace EntitySearch

namespace IndexDirectory

theorem content?_eq_some {directory : IndexDirectory} {content : IndexContent} :
    directory.content? = some content ↔ directory = .readable content := by
  cases directory <;> simp [content?]

theorem openFor_eq_ok {layout : Layout} {directory : IndexDirectory} {content : IndexContent}
    (opened : directory.openFor layout = .ok content) :
    content.layout = layout ∧
      (directory = .readable content ∨
        directory.content? = none ∧ content = IndexContent.empty layout) := by
  cases directory with
  | missing => simp [openFor] at opened
  | blocked => simp [openFor] at opened
  | vacant =>
      cases opened
      exact ⟨rfl, Or.inr ⟨rfl, rfl⟩⟩
  | unreadable => simp [openFor] at opened
  | readable present =>
      simp only [openFor] at opened
      split at opened
      · rename_i sameLayout
        cases opened
        exact ⟨sameLayout, Or.inl rfl⟩
      · cases opened

theorem openFor_readable {layout : Layout} {content : IndexContent}
    (sameLayout : content.layout = layout) :
    (IndexDirectory.readable content).openFor layout = .ok content := by
  simp [openFor, sameLayout]

theorem content?_create {directory created : IndexDirectory}
    (made : directory.create = .ok created) : created.content? = directory.content? := by
  cases directory <;> cases made <;> rfl

/-- An index with the layout is in the later directory if one was in the earlier. -/
def Follows (layout : Layout) (later earlier : IndexDirectory) : Prop :=
  ∀ content, earlier = .readable content → content.layout = layout →
    ∃ newer, later = .readable newer ∧ newer.layout = layout

theorem follows_refl (layout : Layout) (directory : IndexDirectory) :
    Follows layout directory directory :=
  fun content readable sameLayout => ⟨content, readable, sameLayout⟩

theorem follows_readable {layout : Layout} {content : IndexContent}
    (sameLayout : content.layout = layout) (directory : IndexDirectory) :
    Follows layout (.readable content) directory :=
  fun _ _ _ => ⟨content, rfl, sameLayout⟩

end IndexDirectory

namespace Chronicle

/-- The chronicle after a transaction, whose changes count if it succeeds. -/
def enter (chronicle : Chronicle) (staged : Except SearchFailure (List IndexChange))
    (outcome : Except SearchFailure Unit) : Chronicle :=
  match staged, outcome with
  | .ok changes, .ok () => chronicle.extend changes
  | _, _ => chronicle

@[simp]
theorem enter_error (chronicle : Chronicle) (staged : Except SearchFailure (List IndexChange))
    (failure : SearchFailure) : chronicle.enter staged (.error failure) = chronicle := by
  cases staged <;> rfl

@[simp]
theorem version_enter (chronicle : Chronicle) (staged : Except SearchFailure (List IndexChange))
    (outcome : Except SearchFailure Unit) :
    (chronicle.enter staged outcome).version = chronicle.version := by
  cases staged <;> rcases outcome with _ | _ <;> rfl

/-- The chronicle after a start: a new one, unless the index in the directory has the
layout and the version. -/
def atStart (chronicle : Chronicle) (spec : IndexSpec) (directory : IndexDirectory) :
    Chronicle :=
  if LocalIndex.storedVersion? spec.layout directory = some spec.version then chronicle
  else ⟨some spec.version, []⟩

/-- All staged changes are ordinary ones; there is nothing to ask where staging failed. -/
def StagesOrdinary (layout : Layout) (staged : Except SearchFailure (List IndexChange)) : Prop :=
  ∀ changes, staged = .ok changes → ∀ change ∈ changes, change.IsOrdinary layout

end Chronicle

namespace LocalIndex

/-- The directory holds what the chronicle says, and an open reader shows it. -/
structure Keeps (index : LocalIndex) (chronicle : Chronicle) : Prop where
  unbuilt : index.directory.content? = none → chronicle = Chronicle.blank
  described : ∀ content, index.directory = .readable content → chronicle.Describes content
  shown : ∀ content, index.snapshot = some content → index.directory = .readable content

def Holds (index : LocalIndex) (layout : Layout) : Prop :=
  ∃ content, index.directory = .readable content ∧ content.layout = layout

theorem Holds.follows {layout : Layout} {later earlier : LocalIndex} (holds : earlier.Holds layout)
    (follows : later.directory.Follows layout earlier.directory) : later.Holds layout := by
  obtain ⟨content, readable, sameLayout⟩ := holds
  exact follows content readable sameLayout

variable {index : LocalIndex} {chronicle : Chronicle}

theorem keeps_closed {directory : IndexDirectory} (unbuilt : directory.content? = none) :
    (closed directory).Keeps Chronicle.blank where
  unbuilt := fun _ => rfl
  described := by
    intro content readable
    have present : directory.content? = some content :=
      IndexDirectory.content?_eq_some.2 readable
    rw [unbuilt] at present
    cases present
  shown := by
    intro content isShown
    cases isShown

theorem Keeps.reopen (keeps : index.Keeps chronicle) :
    (closed index.directory).Keeps chronicle where
  unbuilt := keeps.unbuilt
  described := keeps.described
  shown := by
    intro content isShown
    cases isShown

theorem Keeps.stop (keeps : index.Keeps chronicle) : index.stop.Keeps chronicle where
  unbuilt := keeps.unbuilt
  described := keeps.described
  shown := by
    intro content isShown
    cases isShown

theorem keeps_readable {content : IndexContent} (describes : chronicle.Describes content)
    (committed : Bool) :
    Keeps (refresh ⟨.readable content, index.snapshot, committed⟩) chronicle where
  unbuilt := by
    intro none
    cases none
  described := by
    intro other readable
    cases readable
    exact describes
  shown := by
    intro other isShown
    simp only [refresh, IndexDirectory.content?, Option.getD_some] at isShown ⊢
    cases present : index.snapshot with
    | none => simp [present] at isShown
    | some earlier =>
        rw [present] at isShown
        cases isShown
        rfl

/-- Where the reader shows the directory already, a refresh keeps the chronicle. -/
theorem Keeps.refresh (keeps : index.Keeps chronicle) : index.refresh.Keeps chronicle where
  unbuilt := keeps.unbuilt
  described := keeps.described
  shown := by
    intro content isShown
    obtain ⟨earlier, present, same⟩ := Option.map_eq_some_iff.1 isShown
    have readable := keeps.shown earlier present
    rw [IndexDirectory.content?_eq_some.2 readable, Option.getD_some] at same
    rw [← same]
    exact readable

theorem openDirectory_ok {layout : Layout} {content : IndexContent}
    (opened : index.directory.openFor layout = .ok content) :
    index.openDirectory layout = ({ index with directory := .readable content }, .ok content) := by
  simp only [openDirectory, opened]

theorem openDirectory_error {layout : Layout} {failure : SearchFailure}
    (refused : index.directory.openFor layout = .error failure) :
    index.openDirectory layout = (index, .error failure) := by
  simp only [openDirectory, refused]

theorem Keeps.openDirectory (keeps : index.Keeps chronicle)
    (configuration : IndexConfiguration) :
    (index.openDirectory configuration.layout).1.Keeps chronicle ∧
      (index.openDirectory configuration.layout).1.directory.Follows configuration.layout
        index.directory ∧
      ∀ content, (index.openDirectory configuration.layout).2 = .ok content →
        (index.openDirectory configuration.layout).1 =
            { index with directory := .readable content } ∧
          content.layout = configuration.layout ∧ chronicle.Describes content := by
  cases opened : index.directory.openFor configuration.layout with
  | error failure =>
      rw [openDirectory_error opened]
      refine ⟨keeps, IndexDirectory.follows_refl _ _, ?_⟩
      intro content isOpened
      cases isOpened
  | ok content =>
      rw [openDirectory_ok opened]
      obtain ⟨sameLayout, before | ⟨unbuilt, new⟩⟩ := IndexDirectory.openFor_eq_ok opened
      · have same : { index with directory := IndexDirectory.readable content } = index := by
          rw [← before]
        refine ⟨by rw [same]; exact keeps, IndexDirectory.follows_readable sameLayout _, ?_⟩
        intro other isOpened
        cases isOpened
        exact ⟨rfl, sameLayout, keeps.described content before⟩
      · have describes : chronicle.Describes content := by
          rw [keeps.unbuilt unbuilt, new]
          exact Chronicle.Describes.empty configuration
        refine ⟨⟨?_, ?_, ?_⟩, IndexDirectory.follows_readable sameLayout _, ?_⟩
        · intro none
          cases none
        · intro other readable
          cases readable
          exact describes
        · intro other isShown
          have readable := keeps.shown other isShown
          rw [IndexDirectory.content?_eq_some.2 readable] at unbuilt
          cases unbuilt
        · intro other isOpened
          cases isOpened
          exact ⟨rfl, sameLayout, describes⟩

theorem Keeps.transact (keeps : index.Keeps chronicle) {configuration : IndexConfiguration}
    {staged : Except SearchFailure (List IndexChange)}
    (ordinary : Chronicle.StagesOrdinary configuration.layout staged) :
    (index.transact configuration.layout staged).1.Keeps
        (chronicle.enter staged (index.transact configuration.layout staged).2) ∧
      (index.transact configuration.layout staged).1.directory.Follows configuration.layout
        index.directory := by
  obtain ⟨openedKeeps, openedFollows, openedOk⟩ :=
    keeps.openDirectory configuration
  unfold LocalIndex.transact runTransaction
  generalize index.openDirectory configuration.layout = result at *
  obtain ⟨opened, outcome⟩ := result
  cases outcome with
  | error failure =>
      rw [Chronicle.enter_error]
      exact ⟨openedKeeps.refresh, openedFollows⟩
  | ok content =>
      obtain ⟨sameIndex, sameLayout, describes⟩ := openedOk content rfl
      cases staged with
      | error failure => exact ⟨openedKeeps.refresh, openedFollows⟩
      | ok changes =>
          have staged := ordinary changes rfl
          rw [← sameLayout] at staged
          have keptLayout : (content.commit changes).layout = configuration.layout := sameLayout
          exact ⟨keeps_readable (describes.commit staged) true,
            IndexDirectory.follows_readable keptLayout _⟩

theorem storedVersion?_eq_some {layout : Layout} {directory : IndexDirectory} {version : UInt64} :
    storedVersion? layout directory = some version ↔
      ∃ content, directory = .readable content ∧ content.layout = layout ∧
        content.schemaVersion? = some version := by
  unfold storedVersion?
  cases present : directory.content? with
  | none =>
      simp only [reduceCtorEq, false_iff]
      rintro ⟨content, readable, _⟩
      rw [IndexDirectory.content?_eq_some.2 readable] at present
      cases present
  | some content =>
      have readable := IndexDirectory.content?_eq_some.1 present
      by_cases sameLayout : content.layout = layout <;> simp [readable, sameLayout]

theorem start_current {spec : IndexSpec} {content : IndexContent}
    (readable : index.directory = .readable content) (sameLayout : content.layout = spec.layout)
    (recorded : content.schemaVersion? = some spec.version) :
    index.start spec = (⟨.readable content, some content, index.hasCommitted⟩, .ok ()) := by
  have current : storedVersion? spec.layout (.readable content) = some spec.version :=
    storedVersion?_eq_some.2 ⟨content, rfl, sameLayout, recorded⟩
  have opened : ({ index with directory := .readable content } : LocalIndex).directory.openFor
      spec.layout = .ok content := IndexDirectory.openFor_readable sameLayout
  simp only [start, readable, IndexDirectory.create, current, openReader, openDirectory_ok opened,
    ite_true]

/-- A start empties every other directory that there can be and puts the version into a new
index. -/
theorem start_stale {spec : IndexSpec} {directory : IndexDirectory}
    (created : index.directory.create = .ok directory)
    (stale : storedVersion? spec.layout index.directory ≠ some spec.version) :
    index.start spec =
      let marked := (IndexContent.empty spec.layout).commit [.putSchemaMarker spec.version]
      (⟨.readable marked, some marked, true⟩, .ok ()) := by
  have staleCreated : storedVersion? spec.layout directory ≠ some spec.version := by
    unfold storedVersion? at stale ⊢
    rw [IndexDirectory.content?_create created]
    exact stale
  have newOpened : IndexDirectory.vacant.openFor spec.layout =
      .ok (IndexContent.empty spec.layout) := rfl
  have reopened := IndexDirectory.openFor_readable
    (show ((IndexContent.empty spec.layout).commit [.putSchemaMarker spec.version]).layout =
      spec.layout from rfl)
  simp only [start, created, staleCreated, ite_false, transact, runTransaction, openReader,
    openDirectory, IndexDirectory.wipe, newOpened, refresh, reopened]

theorem start_error {spec : IndexSpec} {failure : SearchFailure}
    (failed : (index.start spec).2 = .error failure) : (index.start spec).1 = index := by
  cases created : index.directory.create with
  | error refusal => simp only [start, created]
  | ok directory =>
      by_cases current : storedVersion? spec.layout index.directory = some spec.version
      · obtain ⟨content, readable, sameLayout, recorded⟩ := storedVersion?_eq_some.1 current
        rw [start_current readable sameLayout recorded] at failed
        cases failed
      · rw [start_stale created current] at failed
        cases failed

/-- A start that succeeds begins a new chronicle unless the index is current, and leaves an
index of the layout and the version. -/
theorem Keeps.start (keeps : index.Keeps chronicle) (configuration : IndexConfiguration)
    (version : UInt64) (started : (index.start ⟨configuration.layout, version⟩).2 = .ok ()) :
    (index.start ⟨configuration.layout, version⟩).1.Keeps
        (chronicle.atStart ⟨configuration.layout, version⟩ index.directory) ∧
      (index.start ⟨configuration.layout, version⟩).1.Holds configuration.layout ∧
      (chronicle.atStart ⟨configuration.layout, version⟩ index.directory).version =
        some version := by
  by_cases current : storedVersion? configuration.layout index.directory = some version
  · obtain ⟨content, readable, sameLayout, recorded⟩ := storedVersion?_eq_some.1 current
    have describes := keeps.described content readable
    have versionKept : chronicle.version = some version := by
      obtain ⟨entities, _, figures⟩ := describes.statistics
      rw [← recorded]
      exact (congrArg IndexStatistics.schemaVersion figures).symm
    rw [start_current readable sameLayout recorded, Chronicle.atStart,
      ite_cond_eq_true _ _ (eq_true current)]
    refine ⟨⟨?_, ?_, ?_⟩, ⟨content, rfl, sameLayout⟩, versionKept⟩
    · intro none
      cases none
    · intro other isThere
      cases isThere
      exact describes
    · intro other isShown
      cases isShown
      rfl
  · cases created : index.directory.create with
    | error refusal =>
        simp only [LocalIndex.start, created] at started
        cases started
    | ok directory =>
        rw [start_stale created current, Chronicle.atStart,
          ite_cond_eq_false _ _ (eq_false current)]
        refine ⟨⟨?_, ?_, ?_⟩, ⟨_, rfl, rfl⟩, rfl⟩
        · intro none
          cases none
        · intro other isThere
          cases isThere
          exact Chronicle.Describes.rebuilt configuration version
        · intro other isShown
          cases isShown
          rfl

theorem Keeps.statistics (keeps : index.Keeps chronicle)
    (configuration : IndexConfiguration) :
    (index.statistics configuration.layout).1.Keeps chronicle ∧
      (index.statistics configuration.layout).1.directory.Follows configuration.layout
        index.directory ∧
      ∀ figures, (index.statistics configuration.layout).2 = .ok figures →
        ∃ content, chronicle.Describes content ∧ figures = content.statistics := by
  unfold LocalIndex.statistics
  cases present : index.snapshot with
  | some content =>
      refine ⟨keeps, IndexDirectory.follows_refl _ _, ?_⟩
      intro figures told
      cases told
      exact ⟨content, keeps.described content (keeps.shown content present), rfl⟩
  | none =>
      obtain ⟨openedKeeps, openedFollows, openedOk⟩ :=
        keeps.openDirectory configuration
      refine ⟨openedKeeps, openedFollows, ?_⟩
      intro figures told
      cases opened : (index.openDirectory configuration.layout).2 with
      | error failure => simp [opened, Except.map] at told
      | ok content =>
          obtain ⟨_, _, describes⟩ := openedOk content opened
          simp only [opened, Except.map, Except.ok.injEq] at told
          exact ⟨content, describes, told.symm⟩

end LocalIndex

end EntitySearch
