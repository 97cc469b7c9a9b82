import EntitySearch.Proofs.ReadingInGroups
import EntitySearch.Query.Translation
import EntitySearch.Search.Matching
import Mathlib.Data.Set.Basic

/-!
# Boolean operators

What a list of clauses matches does not depend on the form that its combination
takes: a single clause, a list of forbidden clauses only, or a list of any other
kind.  The operators of the query language are therefore the set operations on
the documents that their operands find, and the complement is taken among the
entity documents.
-/

namespace EntitySearch

namespace QueryPlan

theorem isAllowed_append (postings : List Posting) (first second : List (Occurrence × QueryPlan)) :
    isAllowed postings (first ++ second) =
      (isAllowed postings first && isAllowed postings second) := by
  induction first with
  | nil => simp [isAllowed]
  | cons clause first ih =>
      obtain ⟨part, plan⟩ := clause
      cases part <;> simp [isAllowed, ih, Bool.and_assoc]

/-- Whether a list of clauses holds for a document: what is demanded matches, what is
forbidden does not, and where nothing else than wishes is left one of them matches. -/
def holds (postings : List Posting) (clauses : List (Occurrence × QueryPlan)) : Bool :=
  isAllowed postings clauses &&
    (demandsAny clauses || isWished postings clauses || clauses.all (·.1 == .mustNot))

theorem holds_single (postings : List Posting) (plan : QueryPlan) :
    holds postings [(.should, plan)] = plan.isMatch postings := by
  have notMust : (Occurrence.should == Occurrence.must) = false := by decide
  have notMustNot : (Occurrence.should == Occurrence.mustNot) = false := by decide
  simp [holds, isAllowed, demandsAny, isWished, notMust, notMustNot]

theorem holds_wishes (postings : List Posting) (first second : QueryPlan) :
    holds postings [(.should, first), (.should, second)] =
      (first.isMatch postings || second.isMatch postings) := by
  have notMust : (Occurrence.should == Occurrence.must) = false := by decide
  have notMustNot : (Occurrence.should == Occurrence.mustNot) = false := by decide
  simp [holds, isAllowed, demandsAny, isWished, notMust, notMustNot]

theorem holds_negation (postings : List Posting) (plan : QueryPlan) :
    holds postings [(.mustNot, plan)] = !plan.isMatch postings := by
  simp [holds, isAllowed]

/-- A combination with a demand matches where all its clauses are met. -/
theorem isMatch_demand (postings : List Posting) (plan : QueryPlan)
    (clauses : List (Occurrence × QueryPlan)) :
    (QueryPlan.combination ((.must, plan) :: clauses)).isMatch postings =
      (plan.isMatch postings && isAllowed postings clauses) := by
  simp [isMatch, isAllowed, demandsAny]

end QueryPlan

namespace Translator

open Query QueryPlan

theorem combine_eq_none_iff {clauses : List (Occurrence × QueryPlan)} :
    combine clauses = none ↔ clauses = [] := by
  unfold combine
  split
  · simp
  · simp
  · simp
  case h_4 notEmpty _ _ =>
    split <;> simpa using notEmpty

theorem isMatch_of_combine {clauses : List (Occurrence × QueryPlan)} {plan : QueryPlan}
    (combined : combine clauses = some plan) (postings : List Posting) :
    plan.isMatch postings = holds postings clauses := by
  unfold combine at combined
  split at combined
  case h_1 => simp at combined
  case h_2 only =>
    cases combined
    exact (holds_single postings plan).symm
  case h_3 only =>
    cases combined
    simp [holds, isAllowed, demandsAny]
  case h_4 =>
    split at combined
    case isTrue forbidden =>
      cases combined
      simp [holds, isMatch, isAllowed_append, isAllowed, demandsAny, forbidden]
    case isFalse notForbidden =>
      cases combined
      simp [holds, isMatch, notForbidden]

/-- The query is read, and its parts translate to these clauses. -/
def HasClauses (translator : Translator) (query : String)
    (clauses : List (Occurrence × QueryPlan)) : Prop :=
  ∃ tree, Query.read? query.toList = some tree ∧
    disjunctionClauses translator none tree = .ok clauses

/-- The query is accepted, and something is left of it besides stop words. -/
def YieldsClause (translator : Translator) (query : String) : Prop :=
  ∃ clauses, translator.HasClauses query clauses ∧ clauses ≠ []

/-- The plan of a query with clauses demands their combination among the entities. -/
theorem translate_of_hasClauses {translator : Translator} {query : String}
    {clauses : List (Occurrence × QueryPlan)} (translated : translator.HasClauses query clauses)
    {plan : QueryPlan} (combined : combine clauses = some plan) :
    translator.translate query =
      .ok (.combination [(.must, plan), (.must, entitiesOnly)]) := by
  obtain ⟨tree, read, planned⟩ := translated
  simp only [translate, read, planOf, planned, combined]

theorem isMatch_entitiesOnly {layout : Layout} (stored : StoredDocument layout) :
    entitiesOnly.isMatch stored.postings =
      stored.content.hasTerm CoreField.kind (.text DocumentKind.entity.name) := by
  simp only [entitiesOnly, isMatch, hasValue, IndexedDocument.hasTerm, StoredDocument.postings]

end Translator

namespace IndexContent

open QueryPlan Translator

def entities (content : IndexContent) : Set (StoredDocument content.layout) :=
  {stored | stored ∈ content.ofKind .entity}

/-- The translator accepts the query, which finds exactly these documents. -/
def Finds (content : IndexContent) (translator : Translator) (query : String)
    (found : Set (StoredDocument content.layout)) : Prop :=
  ∃ plan, translator.translate query = .ok plan ∧
    {stored | stored ∈ content.matching plan} = found

/-- A query with clauses finds the entity documents for which the clauses hold. -/
theorem finds_of_hasClauses (content : IndexContent) {translator : Translator} {query : String}
    {clauses : List (Occurrence × QueryPlan)} (translated : translator.HasClauses query clauses)
    (notEmpty : clauses ≠ []) :
    content.Finds translator query
      {stored | stored ∈ content.entities ∧ holds stored.postings clauses = true} := by
  cases combined : combine clauses with
  | none => exact (notEmpty (combine_eq_none_iff.1 combined)).elim
  | some plan =>
      refine ⟨_, translate_of_hasClauses translated combined, ?_⟩
      ext stored
      simp only [matching, entities, ofKind, isMatch, isAllowed, demandsAny,
        isMatch_of_combine combined, isMatch_entitiesOnly, List.any_cons, beq_self_eq_true,
        Bool.true_or, Bool.and_true, List.mem_filter, Bool.and_eq_true, Set.mem_ofPred_eq]
      constructor
      · rintro ⟨live, held, entity⟩
        exact ⟨⟨live, entity⟩, held⟩
      · rintro ⟨⟨live, entity⟩, held⟩
        exact ⟨live, held, entity⟩

theorem finds_of_no_clause (content : IndexContent) {translator : Translator} {query : String}
    (translated : translator.HasClauses query []) : content.Finds translator query ∅ := by
  obtain ⟨tree, read, planned⟩ := translated
  refine ⟨.empty, ?_, ?_⟩
  · simp only [Translator.translate, read, planOf, planned, combine]
  · ext stored
    simp [matching, isMatch]

end IndexContent

namespace Translator

open Query

section Compounds

variable {translator : Translator} {first second : String}
  {firstClauses secondClauses : List (Occurrence × QueryPlan)}
  {firstPlan secondPlan : QueryPlan}

theorem clausePlan_inGroup {tree : Disjunction}
    (planned : disjunctionClauses translator none tree = .ok firstClauses)
    (combined : combine firstClauses = some firstPlan) (modifier : Option Modifier) :
    clausePlan translator none (inGroup modifier tree) =
      .ok (some (occurrence modifier, firstPlan)) := by
  simp only [inGroup, clausePlan, bodyPlan, planned, Except.map, combined, boosted]
  rfl

theorem hasClauses_negation (translated : translator.HasClauses first firstClauses)
    (paired : endsUnpaired first.toList = false)
    (combined : combine firstClauses = some firstPlan) :
    translator.HasClauses ("NOT (" ++ first ++ ")") [(.mustNot, firstPlan)] := by
  obtain ⟨tree, read, planned⟩ := translated
  have text : ("NOT (" ++ first ++ ")").toList =
      ['N', 'O', 'T', ' '] ++ parenthesised first.toList [] := by
    simp [String.toList_append, parenthesised]
  refine ⟨_, text ▸ read?_negation read paired, ?_⟩
  simp only [disjunctionClauses, conjunctionClauses, clausePlan_inGroup planned combined]
  rfl

/-- What stands between the operator and the second query may forbid it. -/
theorem hasClauses_conjunction {query : String} {lead : List Char}
    {modifier : Option Modifier} (translatedFirst : translator.HasClauses first firstClauses)
    (pairedFirst : endsUnpaired first.toList = false)
    (combinedFirst : combine firstClauses = some firstPlan)
    (translatedSecond : translator.HasClauses second secondClauses)
    (pairedSecond : endsUnpaired second.toList = false)
    (combinedSecond : combine secondClauses = some secondPlan)
    (text : query.toList = parenthesised first.toList
      ([' ', 'A', 'N', 'D', ' '] ++ (lead ++ parenthesised second.toList [])))
    (modified : (readModifier (skipBlanks (lead ++ parenthesised second.toList []))).1 =
        modifier ∧
      skipBlanks (readModifier (skipBlanks (lead ++ parenthesised second.toList []))).2 =
        parenthesised second.toList []) :
    translator.HasClauses query
      [(.should, .combination
        [(.must, firstPlan), demanded (occurrence modifier, secondPlan)])] := by
  obtain ⟨firstTree, readFirst, plannedFirst⟩ := translatedFirst
  obtain ⟨secondTree, readSecond, plannedSecond⟩ := translatedSecond
  refine ⟨_, text ▸ read?_conjunction readFirst pairedFirst readSecond pairedSecond
    modified, ?_⟩
  simp only [disjunctionClauses, conjunctionClauses,
    clausePlan_inGroup plannedFirst combinedFirst,
    clausePlan_inGroup plannedSecond combinedSecond]
  rfl

theorem hasClauses_disjunction (translatedFirst : translator.HasClauses first firstClauses)
    (pairedFirst : endsUnpaired first.toList = false)
    (combinedFirst : combine firstClauses = some firstPlan)
    (translatedSecond : translator.HasClauses second secondClauses)
    (pairedSecond : endsUnpaired second.toList = false)
    (combinedSecond : combine secondClauses = some secondPlan) :
    translator.HasClauses ("(" ++ first ++ ") OR (" ++ second ++ ")")
      [(.should, firstPlan), (.should, secondPlan)] := by
  obtain ⟨firstTree, readFirst, plannedFirst⟩ := translatedFirst
  obtain ⟨secondTree, readSecond, plannedSecond⟩ := translatedSecond
  have text : ("(" ++ first ++ ") OR (" ++ second ++ ")").toList =
      parenthesised first.toList ([' ', 'O', 'R', ' '] ++
        parenthesised second.toList []) := by
    simp [String.toList_append, parenthesised]
  refine ⟨_, text ▸ read?_disjunction readFirst pairedFirst readSecond pairedSecond, ?_⟩
  simp only [disjunctionClauses, conjunctionClauses,
    clausePlan_inGroup plannedFirst combinedFirst,
    clausePlan_inGroup plannedSecond combinedSecond]
  rfl

end Compounds

end Translator

namespace IndexContent

open Query QueryPlan Translator

variable {content : IndexContent} {translator : Translator} {query : String}
  {found : Set (StoredDocument content.layout)}

theorem Finds.unique {other : Set (StoredDocument content.layout)}
    (finds : content.Finds translator query found)
    (findsOther : content.Finds translator query other) : found = other := by
  obtain ⟨plan, translated, rfl⟩ := finds
  obtain ⟨otherPlan, otherTranslated, rfl⟩ := findsOther
  rw [translated] at otherTranslated
  cases otherTranslated
  rfl

theorem Finds.congr {other : Set (StoredDocument content.layout)}
    (finds : content.Finds translator query found)
    (same : ∀ stored, stored ∈ found ↔ stored ∈ other) :
    content.Finds translator query other :=
  Set.ext same ▸ finds

/-- A query with clauses has a plan for what its clauses match among the entities. -/
theorem Finds.exists_plan (finds : content.Finds translator query found)
    (yields : translator.YieldsClause query) :
    ∃ clauses plan, translator.HasClauses query clauses ∧ combine clauses = some plan ∧
      found = {stored | stored ∈ content.entities ∧ plan.isMatch stored.postings = true} := by
  obtain ⟨clauses, translated, notEmpty⟩ := yields
  cases combined : combine clauses with
  | none => exact (notEmpty (combine_eq_none_iff.1 combined)).elim
  | some plan =>
      refine ⟨clauses, plan, translated, combined, ?_⟩
      simpa only [isMatch_of_combine combined] using
        finds.unique (content.finds_of_hasClauses translated notEmpty)

/-- The operators of the query language are the set operations on what their operands find. -/
theorem operators_are_set_operations {first second : String}
    {firstFound secondFound : Set (StoredDocument content.layout)}
    (findsFirst : content.Finds translator first firstFound)
    (findsSecond : content.Finds translator second secondFound)
    (yieldsFirst : translator.YieldsClause first)
    (yieldsSecond : translator.YieldsClause second)
    (pairedFirst : endsUnpaired first.toList = false)
    (pairedSecond : endsUnpaired second.toList = false) :
    firstFound ⊆ content.entities ∧
      content.Finds translator ("(" ++ first ++ ") AND (" ++ second ++ ")")
        (firstFound ∩ secondFound) ∧
      content.Finds translator ("(" ++ first ++ ") OR (" ++ second ++ ")")
        (firstFound ∪ secondFound) ∧
      content.Finds translator ("NOT (" ++ first ++ ")") (content.entities \ firstFound) ∧
      content.Finds translator ("(" ++ first ++ ") AND NOT (" ++ second ++ ")")
        (firstFound \ secondFound) := by
  obtain ⟨firstClauses, firstPlan, translatedFirst, combinedFirst, rfl⟩ :=
    findsFirst.exists_plan yieldsFirst
  obtain ⟨secondClauses, secondPlan, translatedSecond, combinedSecond, rfl⟩ :=
    findsSecond.exists_plan yieldsSecond
  have andText : ("(" ++ first ++ ") AND (" ++ second ++ ")").toList =
      parenthesised first.toList ([' ', 'A', 'N', 'D', ' '] ++
        ([] ++ parenthesised second.toList [])) := by
    simp [String.toList_append, parenthesised]
  have andNotText : ("(" ++ first ++ ") AND NOT (" ++ second ++ ")").toList =
      parenthesised first.toList ([' ', 'A', 'N', 'D', ' '] ++
        (['N', 'O', 'T', ' '] ++ parenthesised second.toList [])) := by
    simp [String.toList_append, parenthesised]
  have conjunction : translator.HasClauses ("(" ++ first ++ ") AND (" ++ second ++ ")")
      [(.should, .combination [(.must, firstPlan), (.must, secondPlan)])] :=
    hasClauses_conjunction translatedFirst pairedFirst combinedFirst translatedSecond
      pairedSecond combinedSecond andText ⟨rfl, rfl⟩
  have difference : translator.HasClauses ("(" ++ first ++ ") AND NOT (" ++ second ++ ")")
      [(.should, .combination [(.must, firstPlan), (.mustNot, secondPlan)])] :=
    hasClauses_conjunction translatedFirst pairedFirst combinedFirst translatedSecond
      pairedSecond combinedSecond andNotText ⟨rfl, rfl⟩
  have disjunction := hasClauses_disjunction translatedFirst pairedFirst combinedFirst
    translatedSecond pairedSecond combinedSecond
  have negation := hasClauses_negation translatedFirst pairedFirst combinedFirst
  refine ⟨fun stored member => member.1,
    (content.finds_of_hasClauses conjunction (List.cons_ne_nil _ _)).congr fun stored => ?_,
    (content.finds_of_hasClauses disjunction (List.cons_ne_nil _ _)).congr fun stored => ?_,
    (content.finds_of_hasClauses negation (List.cons_ne_nil _ _)).congr fun stored => ?_,
    (content.finds_of_hasClauses difference (List.cons_ne_nil _ _)).congr fun stored => ?_⟩
  · simp only [holds_single, isMatch_demand, isAllowed, Bool.and_true, Bool.and_eq_true,
      Set.mem_inter_iff, Set.mem_ofPred_eq]
    constructor
    · rintro ⟨entity, inFirst, inSecond⟩
      exact ⟨⟨entity, inFirst⟩, entity, inSecond⟩
    · rintro ⟨⟨entity, inFirst⟩, -, inSecond⟩
      exact ⟨entity, inFirst, inSecond⟩
  · simp only [holds_wishes, Bool.or_eq_true, Set.mem_union, Set.mem_ofPred_eq]
    exact and_or_left
  · simp only [holds_negation, Bool.not_eq_true', Set.mem_sdiff, Set.mem_ofPred_eq, not_and,
      Bool.not_eq_true]
    constructor
    · rintro ⟨entity, outside⟩
      exact ⟨entity, fun _ => outside⟩
    · rintro ⟨entity, outside⟩
      exact ⟨entity, outside entity⟩
  · simp only [holds_single, isMatch_demand, isAllowed, Bool.and_true, Bool.and_eq_true,
      Bool.not_eq_true', Set.mem_sdiff, Set.mem_ofPred_eq, not_and, Bool.not_eq_true]
    constructor
    · rintro ⟨entity, inFirst, outside⟩
      exact ⟨⟨entity, inFirst⟩, fun _ => outside⟩
    · rintro ⟨⟨entity, inFirst⟩, outside⟩
      exact ⟨entity, inFirst, outside entity⟩

/-- The translator of an index whose only field besides the core ones holds a state. -/
def stateTranslator : Translator :=
  ⟨[⟨"state", .whole⟩], [⟨"state", .whole⟩]⟩

def stateClause (state : List Char) : Occurrence × QueryPlan :=
  (.should, .term "state" (.text (String.ofList state)))

theorem hasClauses_open :
    stateTranslator.HasClauses "open" [stateClause ['o', 'p', 'e', 'n']] := by
  have text : "open".toList = ['o', 'p', 'e', 'n'] := by simp
  refine ⟨.single (.single (.mk none (.leaf ⟨.term, ['o', 'p', 'e', 'n']⟩) none)), ?_, rfl⟩
  rw [text]
  rfl

theorem hasClauses_new : stateTranslator.HasClauses "new" [stateClause ['n', 'e', 'w']] := by
  have text : "new".toList = ['n', 'e', 'w'] := by simp
  refine ⟨.single (.single (.mk none (.leaf ⟨.term, ['n', 'e', 'w']⟩) none)), ?_, rfl⟩
  rw [text]
  rfl

/-- An index with an open and a new entity. -/
def stateContent : IndexContent where
  layout := Layout.ofSpecs [⟨"state", .keyword⟩]
  segments := [["open", "new"].map fun state => StoredDocument.added
    ((Layout.ofSpecs [⟨"state", .keyword⟩]).documentFor
      ⟨1, 1, [("state", .text state)]⟩).document]

def inState (state : List Char) : Set (StoredDocument stateContent.layout) :=
  {stored | stored ∈ stateContent.entities ∧
    holds stored.postings [stateClause state] = true}

theorem operators_on_states :
    inState ['o', 'p', 'e', 'n'] ⊆ stateContent.entities ∧
      stateContent.Finds stateTranslator ("(" ++ "open" ++ ") AND (" ++ "new" ++ ")")
        (inState ['o', 'p', 'e', 'n'] ∩ inState ['n', 'e', 'w']) ∧
      stateContent.Finds stateTranslator ("(" ++ "open" ++ ") OR (" ++ "new" ++ ")")
        (inState ['o', 'p', 'e', 'n'] ∪ inState ['n', 'e', 'w']) ∧
      stateContent.Finds stateTranslator ("NOT (" ++ "open" ++ ")")
        (stateContent.entities \ inState ['o', 'p', 'e', 'n']) ∧
      stateContent.Finds stateTranslator ("(" ++ "open" ++ ") AND NOT (" ++ "new" ++ ")")
        (inState ['o', 'p', 'e', 'n'] \ inState ['n', 'e', 'w']) :=
  operators_are_set_operations
    (stateContent.finds_of_hasClauses hasClauses_open (List.cons_ne_nil _ _))
    (stateContent.finds_of_hasClauses hasClauses_new (List.cons_ne_nil _ _))
    ⟨_, hasClauses_open, List.cons_ne_nil _ _⟩ ⟨_, hasClauses_new, List.cons_ne_nil _ _⟩
    (by simp [endsUnpaired]) (by simp [endsUnpaired])

end IndexContent

end EntitySearch
