import EntitySearch.Index.Change

/-!
# Committed documents

A commit spreads documents over segments, leaves deleted ones in their segments,
drops segments and merges others.  None of this shows in the live documents: they
are what a plain list of documents becomes when every change first removes what
it targets and then adds its own document at the end.
-/

namespace EntitySearch

namespace IndexedDocument

variable {layout : Layout}

theorem hasTerm_eq (indexed : IndexedDocument layout) (field : String) (value : FieldValue) :
    indexed.hasTerm field value = (layout.index indexed.document).hasTerm field value := by
  simp only [hasTerm, Layout.index, indexed.indexed]

end IndexedDocument

namespace IndexChange

def targets (layout : Layout) (change : IndexChange) (document : Document) : Bool :=
  (layout.index document).hasTerm change.target.1 change.target.2

/-- What a change leaves of a list of documents, and what it adds to them. -/
def apply (layout : Layout) (documents : List Document) (change : IndexChange) :
    List Document :=
  documents.filter (fun document => !change.targets layout document) ++
    change.addition?.toList

end IndexChange

namespace StoredDocument

variable {layout : Layout}

theorem document_deleteTerm (stored : StoredDocument layout) (field : String)
    (value : FieldValue) : (stored.deleteTerm field value).document = stored.document := by
  unfold deleteTerm
  split <;> rfl

/-- A document stays live where the change does not remove it. -/
theorem live_deleteTerm (stored : StoredDocument layout) (change : IndexChange) :
    (stored.deleteTerm change.target.1 change.target.2).live =
      (stored.live && !change.targets layout stored.document) := by
  have sameTerms : change.targets layout stored.document =
      stored.content.hasTerm change.target.1 change.target.2 :=
    (stored.content.hasTerm_eq change.target.1 change.target.2).symm
  unfold deleteTerm
  split
  case isTrue targeted => simp [sameTerms, targeted]
  case isFalse untargeted => simp [sameTerms, untargeted]

end StoredDocument

namespace Segment

variable {layout : Layout}

def liveDocuments (segment : Segment layout) : List Document :=
  (segment.filter (·.live)).map (·.document)

@[simp]
theorem liveDocuments_nil : liveDocuments ([] : Segment layout) = [] := rfl

theorem liveDocuments_cons (stored : StoredDocument layout) (segment : Segment layout) :
    liveDocuments (stored :: segment) =
      if stored.live then stored.document :: liveDocuments segment
      else liveDocuments segment := by
  cases live : stored.live <;> simp [liveDocuments, live]

@[simp]
theorem liveDocuments_append (first second : Segment layout) :
    liveDocuments (first ++ second) = liveDocuments first ++ liveDocuments second := by
  simp [liveDocuments]

theorem liveDocuments_flatten (segments : List (Segment layout)) :
    liveDocuments segments.flatten = (segments.map liveDocuments).flatten := by
  induction segments with
  | nil => rfl
  | cons segment segments ih => simp [ih]

theorem liveDocuments_eq_nil {segment : Segment layout}
    (dead : segment.any (·.live) = false) : liveDocuments segment = [] := by
  rw [liveDocuments, List.map_eq_nil_iff, List.filter_eq_nil_iff]
  intro stored inside isLive
  rw [List.any_eq_false] at dead
  exact dead stored inside isLive

theorem liveDocuments_deleteTerm (segment : Segment layout) (change : IndexChange) :
    liveDocuments
        (segment.map (·.deleteTerm change.target.1 change.target.2) : Segment layout) =
      (liveDocuments segment).filter (fun document => !change.targets layout document) := by
  induction segment with
  | nil => rfl
  | cons stored segment ih =>
      rw [List.map_cons, liveDocuments_cons, liveDocuments_cons, ih,
        StoredDocument.live_deleteTerm, StoredDocument.document_deleteTerm]
      cases targeted : change.targets layout stored.document <;>
        cases live : stored.live <;> simp [targeted]

theorem liveDocuments_compact (segment : Segment layout) :
    liveDocuments segment.compact = liveDocuments segment := by
  unfold compact
  split
  · rfl
  · have sameLive : ((fun stored : StoredDocument layout => stored.live) ∘
        fun stored : StoredDocument layout => { stored with estimated := true }) =
        fun stored => stored.live := rfl
    have sameDocument : ((fun stored : StoredDocument layout => stored.document) ∘
        fun stored : StoredDocument layout => { stored with estimated := true }) =
        fun stored => stored.document := rfl
    simp only [liveDocuments, List.filter_map, List.map_map, List.filter_filter, sameLive,
      sameDocument, Bool.and_self]

/-- Leaving out the segments without live documents changes nothing that is shown. -/
theorem liveDocuments_dropDead (segments : List (Segment layout)) :
    liveDocuments (segments.filter (·.any (·.live))).flatten = liveDocuments segments.flatten := by
  induction segments with
  | nil => rfl
  | cons segment segments ih =>
      cases shown : segment.any (·.live) with
      | true => simp [shown, ih]
      | false => simp [shown, ih, liveDocuments_eq_nil shown]

/-- Merging changes nothing that is shown. -/
theorem liveDocuments_mergeSegments (segments : List (Segment layout)) :
    liveDocuments (mergeSegments segments).flatten = liveDocuments segments.flatten := by
  unfold mergeSegments
  split
  · have sameSegments : (segments.map compact).map liveDocuments =
        segments.map liveDocuments := by
      simp only [List.map_map]
      apply List.map_congr_left
      intro segment _
      exact liveDocuments_compact segment
    rw [List.flatten_singleton, liveDocuments_flatten, sameSegments, liveDocuments_flatten]
  · rfl

end Segment

namespace Transaction

open Segment

variable {layout : Layout}

def liveDocuments (transaction : Transaction layout) : List Document :=
  Segment.liveDocuments (transaction.committed.flatten ++ transaction.added)

theorem liveDocuments_stage (transaction : Transaction layout) (change : IndexChange) :
    (transaction.stage change).liveDocuments =
      change.apply layout transaction.liveDocuments := by
  have addedLive : Segment.liveDocuments
      (change.addition?.map StoredDocument.added : Option (StoredDocument layout)).toList =
      change.addition?.toList := by
    cases change.addition? <;> rfl
  have flattened : (transaction.committed.map
      (·.map (·.deleteTerm change.target.1 change.target.2))).flatten =
      transaction.committed.flatten.map (·.deleteTerm change.target.1 change.target.2) :=
    List.map_flatten.symm
  simp only [liveDocuments, stage, flattened, liveDocuments_append, addedLive,
    liveDocuments_deleteTerm, IndexChange.apply, List.filter_append, List.append_assoc]

theorem liveDocuments_stages (changes : List IndexChange) (transaction : Transaction layout) :
    (changes.foldl Transaction.stage transaction).liveDocuments =
      changes.foldl (IndexChange.apply layout) transaction.liveDocuments := by
  induction changes generalizing transaction with
  | nil => rfl
  | cons change changes ih =>
      rw [List.foldl_cons, ih, liveDocuments_stage, List.foldl_cons]

end Transaction

namespace IndexContent

open Segment

theorem documents_eq (content : IndexContent) :
    content.documents = liveDocuments content.stored := rfl

@[simp]
theorem layout_commit (content : IndexContent) (changes : List IndexChange) :
    (content.commit changes).layout = content.layout := rfl

@[simp]
theorem documents_empty (layout : Layout) : (empty layout).documents = [] := rfl

/-- A commit applies its changes to the live documents one after the other. -/
theorem documents_commit (content : IndexContent) (changes : List IndexChange) :
    (content.commit changes).documents =
      changes.foldl (IndexChange.apply content.layout) content.documents := by
  have started : (Transaction.start content.segments).liveDocuments = content.documents := by
    simp [Transaction.start, Transaction.liveDocuments, documents_eq, stored]
  calc
    (content.commit changes).documents =
        liveDocuments (mergeSegments (changes.foldl Transaction.stage
          (Transaction.start content.segments)).segments).flatten := rfl
    _ = liveDocuments (changes.foldl Transaction.stage
          (Transaction.start content.segments)).segments.flatten :=
        liveDocuments_mergeSegments _
    _ = (changes.foldl Transaction.stage
          (Transaction.start content.segments)).liveDocuments := by
        simp only [Transaction.segments, liveDocuments_dropDead, Transaction.liveDocuments,
          List.flatten_append, List.flatten_singleton]
    _ = changes.foldl (IndexChange.apply content.layout) content.documents := by
        rw [Transaction.liveDocuments_stages, started]

end IndexContent

end EntitySearch
