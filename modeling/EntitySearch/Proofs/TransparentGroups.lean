import EntitySearch.Proofs.AlikePlans
import EntitySearch.Proofs.CheckedRanges
import EntitySearch.Proofs.QuotedSearches

/-!
# Transparent groups

Parentheses around a query change nothing: it has the same plan with them, or is
refused for the same reason.  The name of the only default field in front of them
changes nothing either, as long as the grammar reads the name as one.  A layout may
have a field of another name, and then the query under this name is refused.
-/

namespace EntitySearch

namespace Query

variable {query : String} {tree : Disjunction}

theorem read?_parenthesised (read : read? query.toList = some tree)
    (paired : endsUnpaired query.toList = false) :
    read? ("(" ++ query ++ ")").toList = some (oneClause none (.group tree)) := by
  have characters : ("(" ++ query ++ ")").toList = parenthesised query.toList [] := by
    simp [parenthesised]
  have ample : readingAllowance query.toList ≤
      readingAllowance (parenthesised query.toList []) := by
    simp only [readingAllowance, parenthesised, List.length_cons, List.length_append]
    omega
  have clause := readClause?_of_read? (parenthesised query.toList []) read paired ample
    ⟨rfl, rfl⟩ ⟨rfl, rfl, rfl⟩
  rw [characters]
  exact read?_of_readDisjunction? rfl (Nat.le_add_right _ 5)
    (readDisjunction?_single (readConjunction?_single clause rfl))

end Query

namespace Translator

open Query QueryPlan

variable {translator : Translator} {field : QueryField}

/-! ### The only default field -/

theorem leafOn_default (single : translator.defaults = [field]) (leaf : Leaf) :
    leafOn translator (some field) leaf = leafOn translator none leaf := by
  simp only [leafOn, single, List.isEmpty_cons, List.mapM_cons, List.mapM_nil]
  cases leafPlan leaf field with
  | error fault => rfl
  | ok planned => cases planned <;> rfl

theorem disjunctionClauses_default (single : translator.defaults = [field])
    (tree : Disjunction) :
    disjunctionClauses translator (some field) tree =
      disjunctionClauses translator none tree := by
  have alike := disjunctionClauses_alike isCongruence_eq (rfl : translator.fields = _)
    (some field) none tree fun leaf _ => by
      rw [LeafAlike, leafOn_default single]
      exact .refl (optionRel_refl fun _ => rfl) _
  exact alike.eq forall₂_clausesAlike_eq

theorem find?_default {layout : Layout} (distinct : (layout.fields.map (·.name)).Nodup)
    {defaultNames : List String} (made : ofLayout layout defaultNames = .ok translator)
    (isDefault : field ∈ translator.defaults) :
    find? translator.fields field.name = some field := by
  obtain ⟨fields, ⟨-, byClass⟩ | ⟨-, byName⟩⟩ := ofLayout_cases made
  · rw [byClass, fields] at isDefault
    rw [fields]
    exact find?_of_distinct distinct (List.mem_filter.1 isDefault).1
  · obtain ⟨name, -, isField⟩ := exists_of_mapM_ok byName isDefault
    have found := find?_of_defaultField? isField
    rw [name_of_find? found]
    exact found

/-- Parentheses around a query change nothing, and neither does the name of the only default
field in front of them if it consists of letters, digits and underscores. -/
theorem groups_are_transparent {layout : Layout} (distinct : (layout.fields.map (·.name)).Nodup)
    {defaultNames : List String} (made : ofLayout layout defaultNames = .ok translator)
    {query : String} (readable : (read? query.toList).isSome = true)
    (paired : endsUnpaired query.toList = false) :
    translator.translate ("(" ++ query ++ ")") = translator.translate query ∧
      ∀ field, translator.defaults = [field] → isFieldName field.name = true →
        field.name ≠ "NOT" →
          translator.translate (field.name ++ ":(" ++ query ++ ")") =
            translator.translate query := by
  obtain ⟨tree, read⟩ := Option.isSome_iff_exists.1 readable
  have plain : translator.translate query = translator.planOf tree := by
    simp only [translate, read]
  constructor
  · rw [plain, translate, read?_parenthesised read paired]
    simp only [planOf_oneClause, bodyPlan]
    exact (planOf_eq_map translator tree).symm
  · intro field single named notNegation
    have known := find?_default distinct made (single ▸ List.mem_singleton_self field)
    rw [plain, translate, read?_fieldGroup named notNegation read paired]
    simp only [planOf_oneClause, bodyPlan, String.ofList_toList, known,
      disjunctionClauses_default single]
    exact (planOf_eq_map translator tree).symm

theorem negation_in_group_is_transparent :
    (keywordTranslator "state").translate ("(" ++ "NOT (open OR state:new)" ++ ")") =
        (keywordTranslator "state").translate "NOT (open OR state:new)" ∧
      (keywordTranslator "state").translate ("state" ++ ":(" ++ "NOT (open OR state:new)" ++ ")") =
        (keywordTranslator "state").translate "NOT (open OR state:new)" := by
  have distinct : ((keywordLayout "state").fields.map (·.name)).Nodup := by decide
  have made : ofLayout (keywordLayout "state") ["state"] = .ok (keywordTranslator "state") := rfl
  have readable : (read? "NOT (open OR state:new)".toList).isSome = true := by decide +kernel
  have paired : endsUnpaired "NOT (open OR state:new)".toList = false := by decide +kernel
  obtain ⟨inGroup, underName⟩ := groups_are_transparent distinct made readable paired
  exact ⟨inGroup, underName ⟨"state", .whole⟩ rfl (by decide) (by decide)⟩

/-- Under the name of an only default field with a hyphen a query is refused that is accepted
on its own. -/
theorem hyphenated_default_is_not_transparent :
    ofLayout (keywordLayout "due-date") ["due-date"] = .ok (keywordTranslator "due-date") ∧
      (keywordTranslator "due-date").defaults = [⟨"due-date", .whole⟩] ∧ "due-date" ≠ "NOT" ∧
      (read? "open".toList).isSome = true ∧ endsUnpaired "open".toList = false ∧
      (keywordTranslator "due-date").translate ("due-date" ++ ":(" ++ "open" ++ ")") ≠
        (keywordTranslator "due-date").translate "open" := by
  have accepted : (keywordTranslator "due-date").translate "open" = .ok
      (.combination [(.must, .term "due-date" (.text "open")), (.must, entitiesOnly)]) := rfl
  have characters : ("due-date" ++ ":(" ++ "open" ++ ")").toList =
      ['d', 'u', 'e', '-', 'd', 'a', 't', 'e', ':', '(', 'o', 'p', 'e', 'n', ')'] := by
    simp
  -- the hyphen makes the name a term, and no term goes on with a colon
  have unreadable : read? ("due-date" ++ ":(" ++ "open" ++ ")").toList = none := by
    rw [characters]
    rfl
  refine ⟨rfl, rfl, by decide, rfl, rfl, ?_⟩
  rw [accepted, translate, unreadable]
  intro same
  cases same

end Translator

end EntitySearch
