import EntitySearch.Proofs.ChronicledIndex

/-!
# Documents put in place of others

A commit that upserts documents with different identifiers puts each of them in
the place of the document with its identifier and leaves all other documents of
entities alone.
-/

namespace EntitySearch

/-- The live documents of a content are the markers of a version and of a mark, and the
documents of entities, at most one for each identifier. -/
structure IndexContent.Consists (content : IndexContent) (version : Option UInt64)
    (mark : Option EntityId) (current : List EntityDocument) : Prop where
  distinct : (current.map (·.id)).Nodup
  made : ∀ document ∈ current, ∃ entity, document = content.layout.documentFor entity
  documents : content.documents.Perm
    (version.toList.map Document.schemaMarker ++ mark.toList.map Document.progressMarker ++
      current.map (·.document))

/-- Documents with newer ones in the place of those that have their identifiers. -/
def overlay (current newer : List EntityDocument) : List EntityDocument :=
  current.filter (fun document => newer.all (·.id != document.id)) ++ newer

@[simp]
theorem overlay_nil (current : List EntityDocument) : overlay current [] = current := by
  simp [overlay]

theorem mem_overlay {current newer : List EntityDocument} {document : EntityDocument} :
    document ∈ overlay current newer ↔
      document ∈ newer ∨ document ∈ current ∧ ∀ other ∈ newer, other.id ≠ document.id := by
  simp [overlay, or_comm]

/-- A document stays if no newer one but itself has its identifier. -/
theorem mem_overlay_of_only {current newer : List EntityDocument} {document : EntityDocument}
    (present : document ∈ current ∨ document ∈ newer)
    (only : ∀ other ∈ newer, other.id = document.id → other = document) :
    document ∈ overlay current newer := by
  by_cases replaced : document ∈ newer
  · exact mem_overlay.2 (Or.inl replaced)
  · refine mem_overlay.2 (Or.inr ⟨present.resolve_right replaced, fun other inside same => ?_⟩)
    exact replaced (only other inside same ▸ inside)

/-- Newer documents that have no identifier in common with earlier ones join them. -/
theorem overlay_overlay (current : List EntityDocument) {first second : List EntityDocument}
    (apart : ∀ earlier ∈ first, ∀ later ∈ second, later.id ≠ earlier.id) :
    overlay (overlay current first) second = overlay current (first ++ second) := by
  have firstKept : first.filter (fun document => second.all (·.id != document.id)) = first := by
    rw [List.filter_eq_self]
    intro earlier inFirst
    simpa using apart earlier inFirst
  simp only [overlay, List.filter_append, List.filter_filter, firstKept, List.all_append,
    List.append_assoc, Bool.and_comm]

namespace Chronicle

theorem updated_upsert (current : List EntityDocument) (document : EntityDocument) :
    updated current (.upsert document) = overlay current [document] := by
  simp [updated, overlay, IndexChange.removes, IndexChange.upserted?, bne]

@[simp]
theorem updated_putProgressMark (current : List EntityDocument) (mark : EntityId) :
    updated current (.putProgressMark mark) = current := by
  simp [updated, IndexChange.removes, IndexChange.upserted?]

theorem foldl_updated_upserts (current : List EntityDocument) {newer : List EntityDocument}
    (distinct : (newer.map (·.id)).Nodup) :
    (newer.map IndexChange.upsert).foldl updated current = overlay current newer := by
  induction newer generalizing current with
  | nil => simp
  | cons document newer ih =>
      obtain ⟨fresh, laterDistinct⟩ := List.nodup_cons.1 distinct
      have apart : ∀ earlier ∈ [document], ∀ later ∈ newer, later.id ≠ earlier.id := by
        intro earlier isDocument later inside same
        rw [List.mem_singleton.1 isDocument] at same
        exact fresh (List.mem_map.2 ⟨later, inside, same⟩)
      rw [List.map_cons, List.foldl_cons, ih _ laterDistinct, updated_upsert,
        overlay_overlay current apart, List.singleton_append]

theorem lastMark?_extend_putProgressMark (chronicle : Chronicle) (changes : List IndexChange)
    (mark : EntityId) :
    (chronicle.extend (changes ++ [.putProgressMark mark])).lastMark? = some mark := by
  simp [lastMark?, extend, IndexChange.mark?]

/-- The content of an accepted layout is what the chronicle says, with these entities. -/
structure DescribesAs (chronicle : Chronicle) (content : IndexContent)
    (current : List EntityDocument) : Prop where
  accepted : ∃ configuration : IndexConfiguration, content.layout = configuration.layout
  ordinary : chronicle.IsOrdinary content.layout
  shown : chronicle.Shows content.documents current

theorem Describes.exists_current {chronicle : Chronicle} {content : IndexContent}
    (describes : chronicle.Describes content) : ∃ current, chronicle.DescribesAs content current := by
  obtain ⟨current, shown⟩ := describes.shown
  exact ⟨current, describes.accepted, describes.ordinary, shown⟩

namespace DescribesAs

variable {chronicle : Chronicle} {content : IndexContent} {current : List EntityDocument}

theorem commit (describes : chronicle.DescribesAs content current) {changes : List IndexChange}
    (staged : ∀ change ∈ changes, change.IsOrdinary content.layout) :
    (chronicle.extend changes).DescribesAs (content.commit changes)
      (changes.foldl updated current) where
  accepted := describes.accepted
  ordinary := describes.ordinary.extend staged
  shown := by
    obtain ⟨configuration, accepted⟩ := describes.accepted
    have ordinary := describes.ordinary
    rw [accepted] at ordinary staged
    rw [IndexContent.documents_commit, accepted]
    exact describes.shown.commit ordinary staged

theorem consists (describes : chronicle.DescribesAs content current) :
    content.Consists chronicle.version chronicle.lastMark? current where
  distinct := describes.shown.distinct
  made document inside :=
    describes.ordinary.documentFor ((describes.shown.surviving document).1 inside)
  documents := describes.shown.documents

theorem progressMark (describes : chronicle.DescribesAs content current) :
    content.progressMark = chronicle.lastMark?.getD 0 := by
  obtain ⟨configuration, accepted⟩ := describes.accepted
  have figures := describes.shown.statistics accepted describes.ordinary
  exact congrArg IndexStatistics.progressMark figures

end DescribesAs

end Chronicle

namespace LocalIndex

theorem transact_of_opened {layout : Layout} {index : LocalIndex} {content : IndexContent}
    (opened : index.directory.openFor layout = .ok content) (changes : List IndexChange) :
    ∃ after, index.transact layout (.ok changes) = (after, .ok ()) ∧
      after.directory.openFor layout = .ok (content.commit changes) := by
  have sameLayout := (IndexDirectory.openFor_eq_ok opened).1
  simp only [transact, runTransaction, openDirectory_ok opened]
  exact ⟨_, rfl, IndexDirectory.openFor_readable sameLayout⟩

theorem readProgressMark_of_opened {layout : Layout} {index : LocalIndex}
    {content : IndexContent} (opened : index.directory.openFor layout = .ok content) :
    ∃ after, index.readProgressMark layout = (after, .ok content.progressMark) ∧
      after.directory.openFor layout = .ok content := by
  have sameLayout := (IndexDirectory.openFor_eq_ok opened).1
  simp only [readProgressMark, openDirectory_ok opened]
  exact ⟨_, rfl, IndexDirectory.openFor_readable sameLayout⟩

end LocalIndex

end EntitySearch
