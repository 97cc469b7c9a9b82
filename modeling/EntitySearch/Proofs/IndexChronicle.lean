import EntitySearch.Index.LocalIndex
import EntitySearch.Proofs.DocumentTerms

/-!
# The chronicle of an index

A chronicle is what has been committed to an index since it was last rebuilt: the
version that the rebuild recorded, and the changes of the successful transactions
one behind the other.  It determines the live documents of the index: the markers
that were put last, and for every entity the document that was upserted last,
unless a later change removed it.
-/

namespace EntitySearch

namespace IndexChange

def mark? : IndexChange → Option EntityId
  | .putProgressMark mark => some mark
  | _ => none

def upserted? : IndexChange → Option EntityDocument
  | .upsert document => some document
  | _ => none

/-- A change that a client can stage: the documents are those of entities, and the version
of the index is left alone. -/
inductive IsOrdinary (layout : Layout) : IndexChange → Prop
  | upsert (entity : Entity) : IsOrdinary layout (.upsert (layout.documentFor entity))
  | deleteEntity (id : EntityId) : IsOrdinary layout (.deleteEntity id)
  | deleteProject (project : ProjectId) : IsOrdinary layout (.deleteProject project)
  | putProgressMark (mark : EntityId) : IsOrdinary layout (.putProgressMark mark)

variable {configuration : IndexConfiguration} {change : IndexChange}

theorem IsOrdinary.addition {layout : Layout} (ordinary : IsOrdinary layout change) :
    change.addition?.toList =
      change.mark?.toList.map Document.progressMarker ++
        change.upserted?.toList.map (·.document) := by
  cases ordinary <;> rfl

theorem IsOrdinary.targets_schemaMarker (ordinary : IsOrdinary configuration.layout change)
    (version : UInt64) :
    change.targets configuration.layout (Document.schemaMarker version) = false := by
  rw [targets_eq]
  cases ordinary <;> rfl

theorem IsOrdinary.targets_progressMarker (ordinary : IsOrdinary configuration.layout change)
    (mark : EntityId) :
    change.targets configuration.layout (Document.progressMarker mark) =
      change.mark?.isSome := by
  rw [targets_eq]
  cases ordinary <;> rfl

end IndexChange

/-- What has been committed to an index since it was last rebuilt: the version on record,
and the changes of the successful transactions in order. -/
structure Chronicle where
  version : Option UInt64
  changes : List IndexChange
deriving Repr, DecidableEq

namespace Chronicle

/-- The chronicle of an index that was never built. -/
def blank : Chronicle := ⟨none, []⟩

def extend (chronicle : Chronicle) (changes : List IndexChange) : Chronicle :=
  { chronicle with changes := chronicle.changes ++ changes }

/-- The document was upserted, and no later change removed it. -/
def Survives (chronicle : Chronicle) (document : EntityDocument) : Prop :=
  ∃ earlier later, chronicle.changes = earlier ++ .upsert document :: later ∧
    ∀ change ∈ later, change.removes document = false

/-- The progress mark that was put last. -/
def lastMark? (chronicle : Chronicle) : Option EntityId :=
  (chronicle.changes.filterMap IndexChange.mark?).getLast?

def markers (chronicle : Chronicle) : List Document :=
  chronicle.version.toList.map Document.schemaMarker ++
    chronicle.lastMark?.toList.map Document.progressMarker

theorem extend_extend (chronicle : Chronicle) (first second : List IndexChange) :
    (chronicle.extend first).extend second = chronicle.extend (first ++ second) := by
  simp [extend]

theorem extend_nil (chronicle : Chronicle) : chronicle.extend [] = chronicle := by
  simp [extend]

theorem lastMark?_extend (chronicle : Chronicle) (change : IndexChange) :
    (chronicle.extend [change]).lastMark? = change.mark?.or chronicle.lastMark? := by
  cases marked : change.mark? <;> simp [lastMark?, extend, marked]

/-- A document survives a further change if the change upserts it, or if it survived
before and the change does not remove it. -/
theorem survives_extend (chronicle : Chronicle) (change : IndexChange)
    (document : EntityDocument) :
    (chronicle.extend [change]).Survives document ↔
      change = .upsert document ∨
        chronicle.Survives document ∧ change.removes document = false := by
  constructor
  · rintro ⟨earlier, later, split, kept⟩
    simp only [extend] at split
    rcases List.eq_nil_or_concat later with none | ⟨before, last, whole⟩
    · rw [none] at split
      have same := (List.append_inj' split rfl).2
      exact Or.inl (List.singleton_inj.1 same)
    · rw [List.concat_eq_append] at whole
      rw [whole, ← List.cons_append, ← List.append_assoc] at split
      have parts := List.append_inj' split rfl
      have same : change = last := List.singleton_inj.1 parts.2
      right
      refine ⟨⟨earlier, before, parts.1, fun earlierChange inside => ?_⟩, ?_⟩
      · exact kept earlierChange (whole ▸ List.mem_append_left _ inside)
      · exact same ▸ kept last (whole ▸ List.mem_append_right _ List.mem_cons_self)
  · rintro (upserted | ⟨⟨earlier, later, split, kept⟩, notRemoved⟩)
    · exact ⟨chronicle.changes, [], by rw [upserted]; rfl, by simp⟩
    · refine ⟨earlier, later ++ [change], by simp [extend, split], fun laterChange inside => ?_⟩
      rcases List.mem_append.1 inside with before | last
      · exact kept laterChange before
      · rw [List.mem_singleton.1 last]
        exact notRemoved

/-- The current entities of a chronicle are the surviving ones, at most one for each
identifier. -/
structure IsCurrent (chronicle : Chronicle) (current : List EntityDocument) : Prop where
  distinct : (current.map (·.id)).Nodup
  surviving : ∀ document, document ∈ current ↔ chronicle.Survives document

/-- The documents are the markers of the chronicle and those of the current entities. -/
structure Shows (chronicle : Chronicle) (documents : List Document)
    (current : List EntityDocument) : Prop extends chronicle.IsCurrent current where
  documents : documents.Perm (chronicle.markers ++ current.map (·.document))

theorem shows_built (version : Option UInt64) :
    Shows ⟨version, []⟩ (version.toList.map Document.schemaMarker) [] where
  distinct := List.nodup_nil
  surviving := by
    intro document
    simp [Survives]
  documents := by
    simp [markers, lastMark?]

/-- All changes of the chronicle are ordinary ones. -/
def IsOrdinary (chronicle : Chronicle) (layout : Layout) : Prop :=
  ∀ change ∈ chronicle.changes, change.IsOrdinary layout

theorem IsOrdinary.documentFor {chronicle : Chronicle} {layout : Layout}
    (ordinary : chronicle.IsOrdinary layout) {document : EntityDocument}
    (survives : chronicle.Survives document) :
    ∃ entity, document = layout.documentFor entity := by
  obtain ⟨earlier, later, split, _⟩ := survives
  have staged := ordinary (.upsert document) (by simp [split])
  cases staged with
  | upsert entity => exact ⟨entity, rfl⟩

def updated (current : List EntityDocument) (change : IndexChange) : List EntityDocument :=
  current.filter (fun document => !change.removes document) ++ change.upserted?.toList

theorem mem_updated {current : List EntityDocument} {change : IndexChange}
    {document : EntityDocument} :
    document ∈ updated current change ↔
      change = .upsert document ∨ document ∈ current ∧ change.removes document = false := by
  have added : document ∈ change.upserted?.toList ↔ change = .upsert document := by
    cases change <;> simp [IndexChange.upserted?, eq_comm]
  rw [updated, List.mem_append, List.mem_filter, added, Bool.not_eq_true', or_comm]

theorem nodup_updated {current : List EntityDocument} (distinct : (current.map (·.id)).Nodup)
    (change : IndexChange) : ((updated current change).map (·.id)).Nodup := by
  have keptDistinct : ((current.filter fun document => !change.removes document).map
      (·.id)).Nodup :=
    distinct.sublist (List.filter_sublist.map _)
  cases change with
  | upsert newer =>
      simp only [updated, IndexChange.upserted?, Option.toList_some, List.map_append,
        List.map_cons, List.map_nil]
      refine List.nodup_append.2 ⟨keptDistinct, by simp, ?_⟩
      intro id inKept other inAdded same
      obtain ⟨document, kept, sameId⟩ := List.mem_map.1 inKept
      have notRemoved := (List.mem_filter.1 kept).2
      rw [List.mem_singleton.1 inAdded] at same
      simp [IndexChange.removes, sameId, same] at notRemoved
  | deleteEntity id => simpa [updated, IndexChange.upserted?] using keptDistinct
  | deleteProject project => simpa [updated, IndexChange.upserted?] using keptDistinct
  | putSchemaMarker version => simpa [updated, IndexChange.upserted?] using keptDistinct
  | putProgressMark mark => simpa [updated, IndexChange.upserted?] using keptDistinct

section Steps

variable {configuration : IndexConfiguration} {chronicle : Chronicle} {change : IndexChange}

/-- A new progress mark takes the place of the old marker; everything else leaves both
markers alone. -/
theorem markers_extend (ordinary : change.IsOrdinary configuration.layout) :
    (chronicle.extend [change]).markers =
      chronicle.markers.filter
          (fun document => !change.targets configuration.layout document) ++
        change.mark?.toList.map Document.progressMarker := by
  have versionKept : (chronicle.version.toList.map Document.schemaMarker).filter
      (fun document => !change.targets configuration.layout document) =
      chronicle.version.toList.map Document.schemaMarker := by
    rw [List.filter_eq_self]
    intro document inside
    obtain ⟨version, _, made⟩ := List.mem_map.1 inside
    rw [← made, ordinary.targets_schemaMarker]
    rfl
  have markReplaced : ((chronicle.lastMark?.toList.map Document.progressMarker).filter
      fun document => !change.targets configuration.layout document) ++
      change.mark?.toList.map Document.progressMarker =
      (change.mark?.or chronicle.lastMark?).toList.map Document.progressMarker := by
    cases last : chronicle.lastMark? with
    | none => simp
    | some mark => cases put : change.mark? <;> simp [ordinary.targets_progressMarker, put]
  rw [markers, lastMark?_extend, ← markReplaced, markers, List.filter_append, versionKept,
    List.append_assoc]
  rfl

/-- A change acts on the documents of entities as it acts on the entities. -/
theorem filter_documents {current : List EntityDocument}
    (made : ∀ document ∈ current, ∃ entity, document = configuration.layout.documentFor entity) :
    (current.map (·.document)).filter
        (fun document => !change.targets configuration.layout document) =
      (current.filter fun document => !change.removes document).map (·.document) := by
  rw [List.filter_map]
  congr 1
  apply List.filter_congr
  intro document inside
  obtain ⟨entity, same⟩ := made document inside
  simp only [Function.comp_apply]
  rw [same, IndexChange.targets_documentFor]

open scoped List in
/-- What a chronicle shows is kept up by an ordinary change. -/
theorem Shows.extend {documents : List Document} {current : List EntityDocument}
    (shows : chronicle.Shows documents current)
    (ordinary : chronicle.IsOrdinary configuration.layout)
    (staged : change.IsOrdinary configuration.layout) :
    (chronicle.extend [change]).Shows (change.apply configuration.layout documents)
      (updated current change) where
  distinct := nodup_updated shows.distinct change
  surviving := by
    intro document
    rw [mem_updated, shows.surviving, survives_extend]
  documents := by
    have made : ∀ document ∈ current,
        ∃ entity, document = configuration.layout.documentFor entity :=
      fun document inside => ordinary.documentFor ((shows.surviving document).1 inside)
    have filtered := shows.documents.filter
      fun document => !change.targets configuration.layout document
    rw [List.filter_append, filter_documents made] at filtered
    rw [IndexChange.apply, staged.addition, markers_extend staged, updated, List.map_append]
    generalize chronicle.markers.filter _ = keptMarkers at filtered ⊢
    generalize (current.filter _).map _ = keptDocuments at filtered ⊢
    generalize change.mark?.toList.map _ = addedMarkers
    generalize change.upserted?.toList.map _ = addedDocuments
    calc
      documents.filter _ ++ (addedMarkers ++ addedDocuments)
      _ ~ (keptMarkers ++ keptDocuments) ++ (addedMarkers ++ addedDocuments) :=
          filtered.append_right _
      _ ~ (keptMarkers ++ addedMarkers) ++ (keptDocuments ++ addedDocuments) := by
          simp only [List.append_assoc]
          refine List.Perm.append_left keptMarkers ?_
          rw [← List.append_assoc, ← List.append_assoc]
          exact List.perm_append_comm.append_right addedDocuments

theorem IsOrdinary.extend {layout : Layout} (ordinary : chronicle.IsOrdinary layout)
    {changes : List IndexChange} (staged : ∀ change ∈ changes, change.IsOrdinary layout) :
    (chronicle.extend changes).IsOrdinary layout := by
  intro change inside
  rcases List.mem_append.1 inside with earlier | later
  · exact ordinary change earlier
  · exact staged change later

theorem Shows.commit {documents : List Document} {current : List EntityDocument}
    (shows : chronicle.Shows documents current)
    (ordinary : chronicle.IsOrdinary configuration.layout) {changes : List IndexChange}
    (staged : ∀ change ∈ changes, change.IsOrdinary configuration.layout) :
    (chronicle.extend changes).Shows
      (changes.foldl (IndexChange.apply configuration.layout) documents)
      (changes.foldl updated current) := by
  induction changes generalizing chronicle documents current with
  | nil =>
      rw [extend_nil]
      exact shows
  | cons change changes ih =>
      have firstStaged := staged change List.mem_cons_self
      have onlyFirst : ∀ other ∈ [change], other.IsOrdinary configuration.layout := by
        intro other inside
        rw [List.mem_singleton.1 inside]
        exact firstStaged
      have next := ih (shows.extend ordinary firstStaged) (ordinary.extend onlyFirst)
        (fun other inside => staged other (List.mem_cons_of_mem _ inside))
      rw [extend_extend] at next
      exact next

end Steps

end Chronicle

namespace Document

def isOf (kind : DocumentKind) (document : Document) : Bool :=
  (document.valuesOf CoreField.kind).contains (.text kind.name)

theorem isOf_schemaMarker (kind : DocumentKind) (version : UInt64) :
    (schemaMarker version).isOf kind = (kind == .schemaMarker) := by
  cases kind <;> rfl

theorem isOf_progressMarker (kind : DocumentKind) (mark : EntityId) :
    (progressMarker mark).isOf kind = (kind == .progressMarker) := by
  cases kind <;> rfl

theorem isOf_documentFor (layout : Layout) (kind : DocumentKind) (entity : Entity) :
    (layout.documentFor entity).document.isOf kind = (kind == .entity) := by
  rw [isOf, layout.kind_documentFor entity]
  cases kind <;> rfl

end Document

namespace IndexContent

variable {content : IndexContent} {configuration : IndexConfiguration}

theorem documents_ofKind (accepted : content.layout = configuration.layout)
    (kind : DocumentKind) :
    (content.ofKind kind).map (·.document) = content.documents.filter (·.isOf kind) := by
  rw [documents, List.filter_map, ofKind]
  congr 1
  apply List.filter_congr
  intro stored _
  have terms := configuration.hasTerm_core (Or.inl rfl) stored.document kind.fitsTerm_name
  rw [← accepted] at terms
  exact (stored.content.hasTerm_eq CoreField.kind (.text kind.name)).trans terms

theorem marker?_eq (kind : DocumentKind) (field : String) :
    content.marker? kind field =
      (((content.ofKind kind).map (·.document)).head?).bind (·.storedUnsigned? field) := by
  unfold marker?
  cases content.ofKind kind <;> rfl

end IndexContent

namespace Chronicle

def statistics (chronicle : Chronicle) (current : List EntityDocument) : IndexStatistics where
  totalDocuments := current.length + chronicle.markers.length
  entityDocuments := current.length
  schemaVersion := chronicle.version
  progressMark := chronicle.lastMark?.getD 0

/-- The content of an accepted layout is what the chronicle says. -/
structure Describes (chronicle : Chronicle) (content : IndexContent) : Prop where
  accepted : ∃ configuration : IndexConfiguration, content.layout = configuration.layout
  ordinary : chronicle.IsOrdinary content.layout
  shown : ∃ current, chronicle.Shows content.documents current

namespace Shows

variable {content : IndexContent} {configuration : IndexConfiguration} {chronicle : Chronicle}
  {current : List EntityDocument}

theorem ofKind (shows : chronicle.Shows content.documents current)
    (accepted : content.layout = configuration.layout)
    (ordinary : chronicle.IsOrdinary content.layout) (kind : DocumentKind) :
    ((content.ofKind kind).map (·.document)).Perm <|
      match kind with
      | .schemaMarker => chronicle.version.toList.map Document.schemaMarker
      | .progressMarker => chronicle.lastMark?.toList.map Document.progressMarker
      | .entity => current.map (·.document) := by
  have onlyEntities : (current.map (·.document)).filter (·.isOf kind) =
      if kind = .entity then current.map (·.document) else [] := by
    have marked : ∀ document ∈ current.map (·.document),
        document.isOf kind = (kind == .entity) := by
      intro document inside
      obtain ⟨entityDocument, isCurrent, same⟩ := List.mem_map.1 inside
      obtain ⟨entity, made⟩ := ordinary.documentFor ((shows.surviving _).1 isCurrent)
      rw [← same, made, Document.isOf_documentFor]
    rw [List.filter_congr marked]
    cases kind <;> simp
  have filtered := shows.documents.filter (·.isOf kind)
  rw [← IndexContent.documents_ofKind accepted kind, List.filter_append, onlyEntities, markers,
    List.filter_append] at filtered
  cases kind <;>
    cases versions : chronicle.version <;>
    cases marks : chronicle.lastMark? <;>
    simpa [versions, marks, Document.isOf_schemaMarker, Document.isOf_progressMarker]
      using filtered

theorem statistics (shows : chronicle.Shows content.documents current)
    (accepted : content.layout = configuration.layout)
    (ordinary : chronicle.IsOrdinary content.layout) :
    content.statistics = chronicle.statistics current := by
  have total : content.live.length = current.length + chronicle.markers.length := by
    have sameLength := shows.documents.length_eq
    simp only [IndexContent.documents, List.length_map, List.length_append] at sameLength
    omega
  have entities : (content.ofKind .entity).length = current.length := by
    have sameLength := (shows.ofKind accepted ordinary .entity).length_eq
    simpa using sameLength
  have version : content.schemaVersion? = chronicle.version := by
    have only : ((content.ofKind .schemaMarker).map (·.document)).Perm
        (chronicle.version.toList.map Document.schemaMarker) :=
      shows.ofKind accepted ordinary .schemaMarker
    rw [IndexContent.schemaVersion?, IndexContent.marker?_eq]
    cases recorded : chronicle.version with
    | none =>
        rw [recorded] at only
        rw [List.perm_nil.1 only]
        rfl
    | some version =>
        rw [recorded] at only
        rw [List.perm_singleton.1 only]
        rfl
  have mark : content.progressMark = chronicle.lastMark?.getD 0 := by
    have only : ((content.ofKind .progressMarker).map (·.document)).Perm
        (chronicle.lastMark?.toList.map Document.progressMarker) :=
      shows.ofKind accepted ordinary .progressMarker
    rw [IndexContent.progressMark, IndexContent.marker?_eq]
    cases recorded : chronicle.lastMark? with
    | none =>
        rw [recorded] at only
        rw [List.perm_nil.1 only]
        rfl
    | some mark =>
        rw [recorded] at only
        rw [List.perm_singleton.1 only]
        rfl
  simp only [IndexContent.statistics, Chronicle.statistics, total, entities, version, mark]

end Shows

namespace Describes

variable {chronicle : Chronicle} {content : IndexContent}

theorem empty (configuration : IndexConfiguration) :
    blank.Describes (IndexContent.empty configuration.layout) where
  accepted := ⟨configuration, rfl⟩
  ordinary := by
    intro change inside
    simp [blank] at inside
  shown := ⟨[], shows_built none⟩

theorem rebuilt (configuration : IndexConfiguration) (version : UInt64) :
    Chronicle.Describes ⟨some version, []⟩
      ((IndexContent.empty configuration.layout).commit [.putSchemaMarker version]) where
  accepted := ⟨configuration, rfl⟩
  ordinary := by
    intro change inside
    simp at inside
  shown := by
    refine ⟨[], ?_⟩
    rw [IndexContent.documents_commit]
    exact shows_built (some version)

theorem commit (describes : chronicle.Describes content) {changes : List IndexChange}
    (staged : ∀ change ∈ changes, change.IsOrdinary content.layout) :
    (chronicle.extend changes).Describes (content.commit changes) where
  accepted := describes.accepted
  ordinary := describes.ordinary.extend staged
  shown := by
    obtain ⟨configuration, accepted⟩ := describes.accepted
    obtain ⟨current, shows⟩ := describes.shown
    have ordinary := describes.ordinary
    rw [accepted] at ordinary staged
    rw [IndexContent.documents_commit, accepted]
    exact ⟨_, shows.commit ordinary staged⟩

theorem statistics (describes : chronicle.Describes content) :
    ∃ current, chronicle.Shows content.documents current ∧
      content.statistics = chronicle.statistics current := by
  obtain ⟨configuration, accepted⟩ := describes.accepted
  obtain ⟨current, shows⟩ := describes.shown
  exact ⟨current, shows, shows.statistics accepted describes.ordinary⟩

end Describes

end Chronicle

end EntitySearch
