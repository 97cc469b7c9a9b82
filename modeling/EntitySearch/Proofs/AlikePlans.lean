import EntitySearch.Proofs.BooleanOperators
import EntitySearch.Proofs.FieldClauses
import Mathlib.Data.List.Forall2

/-!
# Alike plans

The plan of a query is put together from the plans of its leaves, and neither the
fields that queries can name nor the target changes how.  So two translators that
know the same fields make alike plans of a query, or refuse it for the same
reason, as soon as this holds of the leaves that stand outside all clauses about a
field.  What alike means is left open: it may be any relation that boosts and
combinations respect.
-/

namespace EntitySearch

/-! ### Outcomes and options -/

/-- Two computations that fail alike or succeed with related values. -/
inductive OutcomesAlike {Failure First Second : Type} (related : First → Second → Prop) :
    Except Failure First → Except Failure Second → Prop
  | error (failure : Failure) : OutcomesAlike related (.error failure) (.error failure)
  | ok {first : First} {second : Second} (values : related first second) :
      OutcomesAlike related (.ok first) (.ok second)

namespace OutcomesAlike

variable {Failure First Second FirstImage SecondImage : Type} {related : First → Second → Prop}
  {images : FirstImage → SecondImage → Prop} {first : Except Failure First}
  {second : Except Failure Second}

theorem refl {related : First → First → Prop} (reflexive : ∀ value, related value value)
    (outcome : Except Failure First) : OutcomesAlike related outcome outcome := by
  cases outcome with
  | error failure => exact .error failure
  | ok value => exact .ok (reflexive value)

theorem bind (alike : OutcomesAlike related first second)
    {next : First → Except Failure FirstImage} {otherNext : Second → Except Failure SecondImage}
    (later : ∀ {value other}, related value other →
      OutcomesAlike images (next value) (otherNext other)) :
    OutcomesAlike images (first >>= next) (second >>= otherNext) := by
  cases alike with
  | error failure => exact .error failure
  | ok values => exact later values

theorem map (alike : OutcomesAlike related first second) {image : First → FirstImage}
    {otherImage : Second → SecondImage}
    (later : ∀ {value other}, related value other → images (image value) (otherImage other)) :
    OutcomesAlike images (first.map image) (second.map otherImage) := by
  cases alike with
  | error failure => exact .error failure
  | ok values => exact .ok (later values)

theorem eq {related : First → First → Prop} {first second : Except Failure First}
    (alike : OutcomesAlike related first second)
    (same : ∀ {value other}, related value other → value = other) : first = second := by
  cases alike with
  | error failure => rfl
  | ok values => rw [same values]

end OutcomesAlike

theorem optionRel_refl {Value : Type} {related : Value → Value → Prop}
    (reflexive : ∀ value, related value value) (value : Option Value) :
    Option.Rel related value value := by
  cases value with
  | none => exact .none
  | some value => exact .some (reflexive value)

theorem optionRel_map {First Second FirstImage SecondImage : Type}
    {related : First → Second → Prop} {images : FirstImage → SecondImage → Prop}
    {first : Option First} {second : Option Second} (values : Option.Rel related first second)
    {image : First → FirstImage} {otherImage : Second → SecondImage}
    (later : ∀ {value other}, related value other → images (image value) (otherImage other)) :
    Option.Rel images (first.map image) (second.map otherImage) := by
  cases values with
  | none => exact .none
  | some value => exact .some (later value)

theorem forall₂_toList {Value : Type} {related : Value → Value → Prop}
    {first second : Option Value} (values : Option.Rel related first second) :
    List.Forall₂ related first.toList second.toList := by
  cases values with
  | none => exact .nil
  | some value => exact .cons value .nil

/-! ### Relations of plans -/

namespace QueryPlan

/-- Two clauses that play the same part with alike plans. -/
structure ClausesAlike (alike : QueryPlan → QueryPlan → Prop)
    (first second : Occurrence × QueryPlan) : Prop where
  part : first.1 = second.1
  plan : alike first.2 second.2

/-- Boosts and combinations of alike plans are alike. -/
structure IsCongruence (alike : QueryPlan → QueryPlan → Prop) : Prop where
  refl : ∀ plan, alike plan plan
  boost : ∀ {first second} factor, alike first second →
    alike (.boost factor first) (.boost factor second)
  combination : ∀ {first second}, List.Forall₂ (ClausesAlike alike) first second →
    alike (.combination first) (.combination second)

theorem forall₂_clausesAlike_eq {first second : List (Occurrence × QueryPlan)}
    (clauses : List.Forall₂ (ClausesAlike Eq) first second) : first = second := by
  induction clauses with
  | nil => rfl
  | cons clause _ ih => rw [Prod.ext clause.part clause.plan, ih]

theorem isCongruence_eq : IsCongruence Eq where
  refl _ := rfl
  boost factor same := congrArg (QueryPlan.boost factor) same
  combination clauses := congrArg QueryPlan.combination (forall₂_clausesAlike_eq clauses)

/-- Two plans that match the same documents. -/
def MatchesLike (first second : QueryPlan) : Prop :=
  ∀ postings, first.isMatch postings = second.isMatch postings

theorem isMatch_combination_congr {first second : List (Occurrence × QueryPlan)}
    (clauses : List.Forall₂ (ClausesAlike MatchesLike) first second) (postings : List Posting) :
    isAllowed postings first = isAllowed postings second ∧
      demandsAny first = demandsAny second ∧
        isWished postings first = isWished postings second := by
  induction clauses with
  | nil => exact ⟨rfl, rfl, rfl⟩
  | @cons clause other _ _ alike _ ih =>
      obtain ⟨allowed, demands, wished⟩ := ih
      obtain ⟨part, plan⟩ := clause
      obtain ⟨otherPart, otherPlan⟩ := other
      obtain ⟨rfl, matched⟩ := alike
      have demandsBoth : demandsAny ((part, plan) :: _) = demandsAny ((part, otherPlan) :: _) :=
        congrArg (part == .must || ·) demands
      cases part <;>
        simp only [isAllowed, isWished, allowed, wished, demandsBoth, matched postings, and_self]

theorem isCongruence_matchesLike : IsCongruence MatchesLike where
  refl _ _ := rfl
  boost factor matched postings := by
    simpa only [isMatch] using matched postings
  combination clauses postings := by
    obtain ⟨allowed, demands, wished⟩ := isMatch_combination_congr clauses postings
    rw [isMatch, isMatch, allowed, demands, wished]

end QueryPlan

/-! ### Leaves outside clauses about a field -/

namespace Query

mutual

/-- The leaves of a disjunction that stand under no field name, from left to right. -/
def Disjunction.bareLeaves : Disjunction → List Leaf
  | .single first => first.bareLeaves
  | .more first rest => first.bareLeaves ++ rest.bareLeaves

def Conjunction.bareLeaves : Conjunction → List Leaf
  | .single first => first.bareLeaves
  | .more first rest => first.bareLeaves ++ rest.bareLeaves

def Clause.bareLeaves : Clause → List Leaf
  | .mk _ body _ => body.bareLeaves

def Body.bareLeaves : Body → List Leaf
  | .group inner => inner.bareLeaves
  | .matchAll => []
  | .leaf leaf => [leaf]
  | .fieldGroup _ _ => []
  | .fieldLeaf _ _ => []
  | .fieldRange _ _ _ => []

end

end Query

/-! ### Translating -/

namespace Translator

open Query QueryPlan

variable {alike : QueryPlan → QueryPlan → Prop}

theorem combine_alike (congruence : IsCongruence alike)
    {first second : List (Occurrence × QueryPlan)}
    (clauses : List.Forall₂ (ClausesAlike alike) first second) :
    Option.Rel alike (combine first) (combine second) := by
  have parts (part : Occurrence) : first.all (·.1 == part) = second.all (·.1 == part) := by
    induction clauses with
    | nil => rfl
    | cons clause _ ih => rw [List.all_cons, List.all_cons, clause.part, ih]
  -- what `combine` makes of all but a single wish or demand
  have many : Option.Rel alike
      (if first.all (·.1 == .mustNot) then some (.combination (first ++ [(.must, .all)]))
        else some (.combination first))
      (if second.all (·.1 == .mustNot) then some (.combination (second ++ [(.must, .all)]))
        else some (.combination second)) := by
    rw [parts]
    split
    · exact .some (congruence.combination
        (List.rel_append clauses (.cons ⟨rfl, congruence.refl .all⟩ .nil)))
    · exact .some (congruence.combination clauses)
  cases clauses with
  | nil => exact .none
  | @cons clause other rest others single behind =>
      obtain ⟨part, plan⟩ := clause
      obtain ⟨otherPart, otherPlan⟩ := other
      obtain ⟨rfl, planned⟩ := single
      cases behind with
      | nil =>
          cases part with
          | should => exact .some planned
          | must => exact .some planned
          | mustNot => exact many
      | cons next later => cases part <;> exact many

theorem demanded_alike {first second : Occurrence × QueryPlan}
    (clause : ClausesAlike alike first second) :
    ClausesAlike alike (demanded first) (demanded second) := by
  obtain ⟨part, plan⟩ := first
  obtain ⟨otherPart, otherPlan⟩ := second
  obtain ⟨rfl, planned⟩ := clause
  cases part <;> exact ⟨rfl, planned⟩

theorem conjoin_alike (congruence : IsCongruence alike)
    {first second : List (Occurrence × QueryPlan)}
    (clauses : List.Forall₂ (ClausesAlike alike) first second) :
    List.Forall₂ (ClausesAlike alike) (conjoin first).toList (conjoin second).toList := by
  refine forall₂_toList ?_
  cases clauses with
  | nil => exact .none
  | cons clause behind =>
      cases behind with
      | nil => exact .some clause
      | cons next later =>
          have clauses : List.Forall₂ (ClausesAlike alike) (_ :: _ :: _) (_ :: _ :: _) :=
            .cons clause (.cons next later)
          have demands := List.rel_map (fun _ _ single => demanded_alike single) clauses
          exact optionRel_map (combine_alike congruence demands) fun planned => ⟨rfl, planned⟩

theorem boosted_alike (congruence : IsCongruence alike) (weight : Option Boost)
    {first second : QueryPlan} (planned : alike first second) :
    alike (boosted weight first) (boosted weight second) := by
  cases weight with
  | none => exact planned
  | some weight => exact congruence.boost _ planned

section Trees

variable {first second : Translator} {target other : Option QueryField}

/-- The two translators make alike plans of a leaf, each under its own target. -/
def LeafAlike (alike : QueryPlan → QueryPlan → Prop) (first second : Translator)
    (target other : Option QueryField) (leaf : Leaf) : Prop :=
  OutcomesAlike (Option.Rel alike) (leafOn first target leaf) (leafOn second other leaf)

mutual

/-- Two translators that know the same fields make alike clauses of a disjunction if they do so
of its bare leaves. -/
theorem disjunctionClauses_alike (congruence : IsCongruence alike)
    (fields : first.fields = second.fields) :
    ∀ (target other : Option QueryField) (tree : Disjunction),
      (∀ leaf ∈ tree.bareLeaves, LeafAlike alike first second target other leaf) →
      OutcomesAlike (List.Forall₂ (ClausesAlike alike))
        (disjunctionClauses first target tree) (disjunctionClauses second other tree)
  | target, other, .single conjunction, leaves => by
      rw [disjunctionClauses, disjunctionClauses]
      exact (conjunctionClauses_alike congruence fields target other conjunction leaves).bind
        fun clauses => .ok (conjoin_alike congruence clauses)
  | target, other, .more conjunction rest, leaves => by
      rw [disjunctionClauses, disjunctionClauses]
      have before := conjunctionClauses_alike congruence fields target other conjunction
        fun leaf inside => leaves leaf (List.mem_append_left _ inside)
      have behind := disjunctionClauses_alike congruence fields target other rest
        fun leaf inside => leaves leaf (List.mem_append_right _ inside)
      exact before.bind fun clauses => behind.bind fun others =>
        .ok (List.rel_append (conjoin_alike congruence clauses) others)

theorem conjunctionClauses_alike (congruence : IsCongruence alike)
    (fields : first.fields = second.fields) :
    ∀ (target other : Option QueryField) (tree : Conjunction),
      (∀ leaf ∈ tree.bareLeaves, LeafAlike alike first second target other leaf) →
      OutcomesAlike (List.Forall₂ (ClausesAlike alike))
        (conjunctionClauses first target tree) (conjunctionClauses second other tree)
  | target, other, .single clause, leaves => by
      rw [conjunctionClauses, conjunctionClauses]
      exact (clausePlan_alike congruence fields target other clause leaves).bind
        fun planned => .ok (forall₂_toList planned)
  | target, other, .more clause rest, leaves => by
      rw [conjunctionClauses, conjunctionClauses]
      have before := clausePlan_alike congruence fields target other clause
        fun leaf inside => leaves leaf (List.mem_append_left _ inside)
      have behind := conjunctionClauses_alike congruence fields target other rest
        fun leaf inside => leaves leaf (List.mem_append_right _ inside)
      exact before.bind fun planned => behind.bind fun others =>
        .ok (List.rel_append (forall₂_toList planned) others)

theorem clausePlan_alike (congruence : IsCongruence alike)
    (fields : first.fields = second.fields) :
    ∀ (target other : Option QueryField) (clause : Clause),
      (∀ leaf ∈ clause.bareLeaves, LeafAlike alike first second target other leaf) →
      OutcomesAlike (Option.Rel (ClausesAlike alike))
        (clausePlan first target clause) (clausePlan second other clause)
  | target, other, .mk modifier body weight, leaves => by
      rw [clausePlan, clausePlan]
      exact (bodyPlan_alike congruence fields target other body leaves).bind fun planned =>
        .ok (optionRel_map planned fun alikePlans =>
          ⟨rfl, boosted_alike congruence weight alikePlans⟩)

theorem bodyPlan_alike (congruence : IsCongruence alike) (fields : first.fields = second.fields) :
    ∀ (target other : Option QueryField) (body : Body),
      (∀ leaf ∈ body.bareLeaves, LeafAlike alike first second target other leaf) →
      OutcomesAlike (Option.Rel alike) (bodyPlan first target body) (bodyPlan second other body)
  | target, other, .group inner, leaves => by
      rw [bodyPlan, bodyPlan]
      exact (disjunctionClauses_alike congruence fields target other inner leaves).map
        (combine_alike congruence)
  | target, other, .matchAll, leaves => by
      rw [bodyPlan, bodyPlan]
      exact .refl (optionRel_refl congruence.refl) _
  | target, other, .leaf leaf, leaves => by
      rw [bodyPlan, bodyPlan]
      exact leaves leaf (List.mem_singleton_self leaf)
  | target, other, .fieldGroup name inner, leaves => by
      rw [bodyPlan, bodyPlan, fields]
      split
      case h_1 field _ =>
        -- under the name of a field both translators have this field as their target
        exact (disjunctionClauses_alike congruence fields (some field) (some field) inner
          fun leaf _ => .refl (optionRel_refl congruence.refl) _).map (combine_alike congruence)
      case h_2 => exact .refl (optionRel_refl congruence.refl) _
  | target, other, .fieldLeaf name leaf, leaves => by
      rw [bodyPlan, bodyPlan, fields]
      exact .refl (optionRel_refl congruence.refl) _
  | target, other, .fieldRange name lower upper, leaves => by
      rw [bodyPlan, bodyPlan, fields]
      exact .refl (optionRel_refl congruence.refl) _

end

end Trees

/-! ### Translators of one layout -/

theorem find?_of_defaultField? {fields : List QueryField} {name : String} {field : QueryField}
    (isDefault : defaultField? fields name = .ok field) : find? fields name = some field := by
  unfold defaultField? at isDefault
  split at isDefault
  case h_1 known found =>
    split at isDefault
    case isTrue => cases isDefault
    case isFalse =>
      cases isDefault
      exact found
  case h_2 => cases isDefault

/-- A translator knows the fields of its layout.  Its defaults are the fields of analysed text,
unless it has been given names of defaults. -/
theorem ofLayout_cases {layout : Layout} {defaultNames : List String} {translator : Translator}
    (made : ofLayout layout defaultNames = .ok translator) :
    translator.fields = layout.fields.filterMap LayoutField.queryField? ∧
      (defaultNames = [] ∧
          translator.defaults = translator.fields.filter (·.fieldClass == .words) ∨
        defaultNames ≠ [] ∧
          defaultNames.mapM (defaultField? translator.fields) = .ok translator.defaults) := by
  unfold ofLayout at made
  split at made
  case h_1 => cases made
  case h_2 =>
    simp only at made
    split at made
    case isTrue unnamed =>
      cases made
      exact ⟨rfl, .inl ⟨List.isEmpty_iff.1 unnamed, rfl⟩⟩
    case isFalse named =>
      split at made
      case h_1 defaults found =>
        cases made
        exact ⟨rfl, .inr ⟨fun unnamed => named (List.isEmpty_iff.2 unnamed), found⟩⟩
      case h_2 => cases made

/-- The layout of an index with one field of texts taken whole. -/
def keywordLayout (name : String) : Layout :=
  Layout.ofSpecs [⟨name, .keyword⟩]

/-- The translator of such an index that searches the field by default. -/
def keywordTranslator (name : String) : Translator where
  fields := [⟨CoreField.entity, .unsigned⟩, ⟨CoreField.project, .unsigned⟩, ⟨name, .whole⟩]
  defaults := [⟨name, .whole⟩]

/-! ### Whole queries -/

/-- The plan of a whole query that is left with this plan: what it matches among the entity
documents. -/
def wholePlan : Option QueryPlan → QueryPlan
  | none => .empty
  | some matched => .combination [(.must, matched), (.must, entitiesOnly)]

theorem planOf_eq_map (translator : Translator) (tree : Disjunction) :
    translator.planOf tree =
      ((disjunctionClauses translator none tree).map combine).map wholePlan := by
  rw [planOf]
  cases disjunctionClauses translator none tree with
  | error fault => rfl
  | ok clauses =>
      simp only [Except.map]
      cases combine clauses <;> rfl

theorem planOf_oneClause (translator : Translator) (body : Body) :
    translator.planOf (oneClause none body) = (bodyPlan translator none body).map wholePlan := by
  rw [planOf_eq_map, oneClause, disjunctionClauses, conjunctionClauses, clausePlan]
  cases bodyPlan translator none body with
  | error fault => rfl
  | ok planned => cases planned <;> rfl

theorem hasClauses_oneClause {translator : Translator} {query : String} {body : Body}
    (read : read? query.toList = some (oneClause none body)) {plan : QueryPlan}
    (planned : bodyPlan translator none body = .ok (some plan)) :
    translator.HasClauses query [(.should, plan)] := by
  refine ⟨_, read, ?_⟩
  simp only [oneClause, disjunctionClauses, conjunctionClauses, clausePlan, planned]
  rfl

theorem wholePlan_alike (congruence : IsCongruence alike) {first second : Option QueryPlan}
    (planned : Option.Rel alike first second) : alike (wholePlan first) (wholePlan second) := by
  cases planned with
  | none => exact congruence.refl _
  | some matched =>
      exact congruence.combination
        (.cons ⟨rfl, matched⟩ (.cons ⟨rfl, congruence.refl _⟩ .nil))

/-- Two translators that know the same fields make alike plans of a query if they do so of its
bare leaves. -/
theorem translate_alike (congruence : IsCongruence alike) {first second : Translator}
    (fields : first.fields = second.fields) {query : String}
    (leaves : ∀ tree, read? query.toList = some tree → ∀ leaf ∈ tree.bareLeaves,
      LeafAlike alike first second none none leaf) :
    OutcomesAlike alike (first.translate query) (second.translate query) := by
  simp only [translate]
  cases read : read? query.toList with
  | none => exact .error _
  | some tree =>
      simp only [planOf_eq_map]
      have clauses := disjunctionClauses_alike congruence fields none none tree (leaves tree read)
      exact (clauses.map (combine_alike congruence)).map (wholePlan_alike congruence)

end Translator

end EntitySearch
