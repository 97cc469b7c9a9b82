import EntitySearch.Proofs.DescribedIndexes

/-!
# Starting an index

Whatever is found in the place of an index, a start that succeeds ends with an open
index of the configured layout, whose schema marker has the configured version.
An index that is current is left as it is; anything else is emptied first and gets
its only marker.  Since the marker is committed last, a start that is interrupted
on the way leaves a directory that counts as stale.  A start looks at one marker
and does not count them, so an index that somebody else gave several keeps them;
what transactions make has one at most.
-/

namespace EntitySearch

theorem IndexContent.IsDescribed.length_schemaMarkers_le {content : IndexContent}
    (described : content.IsDescribed) : (content.ofKind .schemaMarker).length ≤ 1 := by
  obtain ⟨chronicle, describes⟩ := described
  obtain ⟨configuration, accepted⟩ := describes.accepted
  obtain ⟨current, shows⟩ := describes.shown
  have markers : ((content.ofKind .schemaMarker).map (·.document)).Perm
      (chronicle.version.toList.map Document.schemaMarker) :=
    shows.ofKind accepted describes.ordinary .schemaMarker
  have counted := markers.length_eq
  rw [List.length_map, List.length_map] at counted
  rw [counted]
  cases chronicle.version <;> simp

namespace IndexSpec

def rebuilt (spec : IndexSpec) : IndexContent :=
  (IndexContent.empty spec.layout).commit [.putSchemaMarker spec.version]

variable (configuration : IndexConfiguration) (version : UInt64)

theorem shows_rebuilt : Chronicle.Shows ⟨some version, []⟩
    (rebuilt ⟨configuration.layout, version⟩).documents [] := by
  rw [rebuilt, IndexContent.documents_commit]
  exact Chronicle.shows_built (some version)

theorem ofKind_rebuilt (kind : DocumentKind) :
    (((rebuilt ⟨configuration.layout, version⟩).ofKind kind).map (·.document)).Perm
      (if kind = .schemaMarker then [Document.schemaMarker version] else []) := by
  have ordinary : Chronicle.IsOrdinary ⟨some version, []⟩ configuration.layout := by
    intro change inside
    cases inside
  have documents := (shows_rebuilt configuration version).ofKind rfl ordinary kind
  cases kind <;> exact documents

theorem statistics_rebuilt :
    (rebuilt ⟨configuration.layout, version⟩).statistics = ⟨1, 0, some version, 0⟩ := by
  have ordinary : Chronicle.IsOrdinary ⟨some version, []⟩ configuration.layout := by
    intro change inside
    cases inside
  exact (shows_rebuilt configuration version).statistics rfl ordinary

end IndexSpec

/-! ### Interrupted starts -/

/-- What a start that rebuilds does to the directory, one thing after the other. -/
inductive RebuildStep
  | remove
  | recreate
  | openNew
  | commitMarker

namespace IndexDirectory

def rebuildStep (spec : IndexSpec) (directory : IndexDirectory) : RebuildStep → IndexDirectory
  | .remove => .missing
  | .recreate => directory.create.toOption.getD directory
  | .openNew => ((directory.openFor spec.layout).toOption.map .readable).getD directory
  | .commitMarker =>
      (directory.content?.map fun content =>
        .readable (content.commit [.putSchemaMarker spec.version])).getD directory

def rebuildSteps : List RebuildStep := [.remove, .recreate, .openNew, .commitMarker]

/-- The directory behind the first steps of a rebuild. -/
def afterSteps (spec : IndexSpec) (directory : IndexDirectory) (steps : Nat) : IndexDirectory :=
  (rebuildSteps.take steps).foldl (rebuildStep spec) directory

theorem afterSteps_cases (spec : IndexSpec) (directory : IndexDirectory) {steps : Nat}
    (wiped : 0 < steps) (unmarked : steps < rebuildSteps.length) :
    directory.afterSteps spec steps = .missing ∨ directory.afterSteps spec steps = .vacant ∨
      directory.afterSteps spec steps = .readable (IndexContent.empty spec.layout) := by
  have isOne : steps = 1 ∨ steps = 2 ∨ steps = 3 := by
    simp only [rebuildSteps, List.length_cons, List.length_nil] at unmarked
    omega
  rcases isOne with rfl | rfl | rfl
  · exact Or.inl rfl
  · exact Or.inr (Or.inl rfl)
  · exact Or.inr (Or.inr rfl)

/-- A rebuild that has not come to its last step leaves no version. -/
theorem storedVersion?_afterSteps (layout : Layout) (spec : IndexSpec)
    (directory : IndexDirectory) {steps : Nat} (wiped : 0 < steps)
    (unmarked : steps < rebuildSteps.length) :
    LocalIndex.storedVersion? layout (directory.afterSteps spec steps) = none := by
  have unversioned : (IndexContent.empty spec.layout).schemaVersion? = none := rfl
  rcases directory.afterSteps_cases spec wiped unmarked with same | same | same
  · rw [same]
    rfl
  · rw [same]
    rfl
  · rw [same, LocalIndex.storedVersion?]
    simp only [content?, unversioned, ite_self]

end IndexDirectory

namespace LocalIndex

variable {index : LocalIndex}

theorem create_ok_of_ne {directory : IndexDirectory} (free : directory ≠ .blocked) :
    ∃ created, directory.create = .ok created := by
  cases directory with
  | blocked => exact (free rfl).elim
  | _ => exact ⟨_, rfl⟩

theorem start_ok_iff {spec : IndexSpec} :
    (index.start spec).2 = .ok () ↔ index.directory ≠ .blocked := by
  constructor
  · intro started isFile
    simp only [start, isFile, IndexDirectory.create] at started
    cases started
  · intro free
    by_cases current : storedVersion? spec.layout index.directory = some spec.version
    · obtain ⟨content, readable, sameLayout, recorded⟩ := storedVersion?_eq_some.1 current
      rw [start_current readable sameLayout recorded]
    · obtain ⟨created, isCreated⟩ := create_ok_of_ne free
      rw [start_stale isCreated current]

/-- A start that rebuilds takes all the steps of a rebuild. -/
theorem directory_start_stale {spec : IndexSpec} (free : index.directory ≠ .blocked)
    (stale : storedVersion? spec.layout index.directory ≠ some spec.version) :
    (index.start spec).1.directory =
      index.directory.afterSteps spec IndexDirectory.rebuildSteps.length := by
  obtain ⟨created, isCreated⟩ := create_ok_of_ne free
  rw [start_stale isCreated stale]
  have whole : IndexDirectory.rebuildSteps.length = 4 := rfl
  rw [whole]
  rfl

theorem length_schemaMarkers_pos {content : IndexContent} {version : UInt64}
    (recorded : content.schemaVersion? = some version) :
    0 < (content.ofKind .schemaMarker).length := by
  rw [List.length_pos_iff]
  intro none
  simp [IndexContent.schemaVersion?, IndexContent.marker?, none] at recorded

/-- What a start for a configuration and a version ends with, where it has found the
directory. -/
structure EndsCurrent (configuration : IndexConfiguration) (version : UInt64)
    (found : IndexDirectory) (ended : LocalIndex) (content : IndexContent) : Prop where
  readable : ended.directory = .readable content
  opened : ended.snapshot = some content
  sameLayout : content.layout = configuration.layout
  /-- There is one marker, unless a current index with several was found. -/
  oneMarker : (content.ofKind .schemaMarker).length = 1 ∨
    1 < (content.ofKind .schemaMarker).length ∧ found = .readable content
  recorded : content.schemaVersion? = some version
  /-- A current index is kept with all its documents, the progress mark included. -/
  kept : storedVersion? configuration.layout found = some version → found = .readable content
  /-- Nothing is left of anything else. -/
  emptied : storedVersion? configuration.layout found ≠ some version →
    content.ofKind .entity = [] ∧ content.progressMark = 0
  /-- Another start, whoever makes it, opens the index as it is. -/
  again : ∀ snapshot committed,
    (⟨ended.directory, snapshot, committed⟩ : LocalIndex).start ⟨configuration.layout, version⟩ =
      (⟨ended.directory, some content, committed⟩, .ok ())

variable {configuration : IndexConfiguration} {version : UInt64}

theorem endsCurrent_of_current {content : IndexContent}
    (readable : index.directory = .readable content)
    (sameLayout : content.layout = configuration.layout)
    (recorded : content.schemaVersion? = some version) :
    EndsCurrent configuration version index.directory
      (index.start ⟨configuration.layout, version⟩).1 content := by
  rw [start_current readable sameLayout recorded]
  constructor
  case readable => rfl
  case opened => rfl
  case sameLayout => exact sameLayout
  case oneMarker =>
    have marked := length_schemaMarkers_pos recorded
    rcases Nat.lt_or_eq_of_le marked with several | one
    · exact Or.inr ⟨several, readable⟩
    · exact Or.inl one.symm
  case recorded => exact recorded
  case kept => exact fun _ => readable
  case emptied =>
    intro stale
    exact (stale (storedVersion?_eq_some.2 ⟨content, readable, sameLayout, recorded⟩)).elim
  case again => exact fun snapshot committed => start_current rfl sameLayout recorded

theorem endsCurrent_of_stale (free : index.directory ≠ .blocked)
    (stale : storedVersion? configuration.layout index.directory ≠ some version) :
    EndsCurrent configuration version index.directory
      (index.start ⟨configuration.layout, version⟩).1
      (IndexSpec.rebuilt ⟨configuration.layout, version⟩) := by
  obtain ⟨created, isCreated⟩ := create_ok_of_ne free
  have rebuilds : index.start ⟨configuration.layout, version⟩ = _ := start_stale isCreated stale
  rw [rebuilds]
  have figures := IndexSpec.statistics_rebuilt configuration version
  have recorded : (IndexSpec.rebuilt ⟨configuration.layout, version⟩).schemaVersion? =
      some version :=
    congrArg IndexStatistics.schemaVersion figures
  constructor
  case readable => rfl
  case opened => rfl
  case sameLayout => rfl
  case oneMarker =>
    have marker := (IndexSpec.ofKind_rebuilt configuration version .schemaMarker).length_eq
    exact Or.inl (by simpa using marker)
  case recorded => exact recorded
  case kept => exact fun current => (stale current).elim
  case emptied =>
    intro _
    have none := congrArg IndexStatistics.entityDocuments figures
    exact ⟨List.eq_nil_of_length_eq_zero none, congrArg IndexStatistics.progressMark figures⟩
  case again => exact fun snapshot committed => start_current rfl rfl recorded

/-- Every start that succeeds ends with a current index that is open: it is the one that was
there if that was current, and an empty one otherwise.  A start that rebuilds takes all the steps
of a rebuild, and what a start leaves that is interrupted between the wipe and the commit of the
marker is never current. -/
theorem start_ends_current (index : LocalIndex) (configuration : IndexConfiguration)
    (version : UInt64) :
    ((index.start ⟨configuration.layout, version⟩).2 = .ok () ↔ index.directory ≠ .blocked) ∧
      ((index.start ⟨configuration.layout, version⟩).2 = .ok () →
        ∃ content, EndsCurrent configuration version index.directory
          (index.start ⟨configuration.layout, version⟩).1 content) ∧
      ∀ earlier : IndexSpec,
        (index.directory ≠ .blocked →
          storedVersion? earlier.layout index.directory ≠ some earlier.version →
            (index.start earlier).1.directory =
              index.directory.afterSteps earlier IndexDirectory.rebuildSteps.length) ∧
        ∀ steps : Nat, 0 < steps → steps < IndexDirectory.rebuildSteps.length →
          let left := closed (index.directory.afterSteps earlier steps)
          (left.start ⟨configuration.layout, version⟩).2 = .ok () ∧
            ∃ content, EndsCurrent configuration version left.directory
                (left.start ⟨configuration.layout, version⟩).1 content ∧
              content.ofKind .entity = [] ∧ content.progressMark = 0 := by
  refine ⟨start_ok_iff, fun started => ?_,
    fun earlier => ⟨directory_start_stale, fun steps wiped unmarked => ?_⟩⟩
  · by_cases current : storedVersion? configuration.layout index.directory = some version
    · obtain ⟨content, readable, sameLayout, recorded⟩ := storedVersion?_eq_some.1 current
      exact ⟨content, endsCurrent_of_current readable sameLayout recorded⟩
    · exact ⟨_, endsCurrent_of_stale (start_ok_iff.1 started) current⟩
  · intro left
    have free : left.directory ≠ .blocked := by
      intro isFile
      rcases index.directory.afterSteps_cases earlier wiped unmarked with same | same | same <;>
        cases same.symm.trans isFile
    have stale : storedVersion? configuration.layout left.directory ≠ some version := by
      have none : storedVersion? configuration.layout left.directory = none :=
        IndexDirectory.storedVersion?_afterSteps _ _ _ wiped unmarked
      simp [none]
    have ends := endsCurrent_of_stale free stale
    exact ⟨start_ok_iff.2 free, _, ends, ends.emptied stale⟩

/-- A start of its version keeps the index of issues, one of the next version empties it. -/
theorem issues_end_current :
    let index := IndexLife.issueLife.index
    let configuration := IndexLife.issueOwner.configuration
    (∃ content, EndsCurrent configuration 3 index.directory
        (index.start ⟨configuration.layout, 3⟩).1 content ∧
      index.directory = .readable content) ∧
      (∃ content, EndsCurrent configuration 4 index.directory
          (index.start ⟨configuration.layout, 4⟩).1 content ∧
        content.ofKind .entity = [] ∧ content.progressMark = 0) ∧
      ((closed (index.directory.afterSteps ⟨configuration.layout, 4⟩ 3)).start
        ⟨configuration.layout, 3⟩).2 = .ok () := by
  intro index configuration
  have version : storedVersion? configuration.layout index.directory = some 3 := by
    decide +kernel
  have stale : storedVersion? configuration.layout index.directory ≠ some 4 := by
    rw [version]
    decide
  have free : index.directory ≠ .blocked := by
    intro isFile
    rw [isFile] at version
    cases version
  obtain ⟨startsOk, ends, interrupted⟩ := start_ends_current index configuration 3
  obtain ⟨newStartsOk, newEnds, _⟩ := start_ends_current index configuration 4
  obtain ⟨kept, keptEnds⟩ := ends (startsOk.2 free)
  obtain ⟨emptied, emptiedEnds⟩ := newEnds (newStartsOk.2 free)
  exact ⟨⟨kept, keptEnds, keptEnds.kept version⟩, ⟨emptied, emptiedEnds, emptiedEnds.emptied stale⟩,
    ((interrupted ⟨configuration.layout, 4⟩).2 3 (by decide) (by decide)).1⟩

/-- An index of issues that has its marker twice. -/
def twiceMarked : IndexContent :=
  ⟨IndexLife.issueOwner.configuration.layout,
    [[.added (Document.schemaMarker 3), .added (Document.schemaMarker 3)]]⟩

/-- A start keeps both markers of a current index. -/
theorem twiceMarked_stays :
    (closed (.readable twiceMarked)).start ⟨IndexLife.issueOwner.configuration.layout, 3⟩ =
        (⟨.readable twiceMarked, some twiceMarked, false⟩, .ok ()) ∧
      (twiceMarked.ofKind .schemaMarker).length = 2 := by
  have recorded : twiceMarked.schemaVersion? = some 3 := by decide +kernel
  exact ⟨start_current rfl rfl recorded, by decide +kernel⟩

/-- What a chronicle describes has one marker behind every start that succeeds. -/
theorem EndsCurrent.length_schemaMarkers {found : IndexDirectory} {ended : LocalIndex}
    {content : IndexContent} (ends : EndsCurrent configuration version found ended content)
    (described : ∀ before, found = .readable before → before.IsDescribed) :
    (content.ofKind .schemaMarker).length = 1 := by
  rcases ends.oneMarker with one | ⟨several, isFound⟩
  · exact one
  · exact absurd (described content isFound).length_schemaMarkers_le (Nat.not_le.2 several)

end LocalIndex

end EntitySearch
