import EntitySearch.Proofs.AlikePlans

/-!
# Idle boosts

A boost weighs what a clause scores and has no say in what it matches.  Two
queries that are the same without their boosts are therefore refused for the same
reason or find the same documents, whatever the boosts are and wherever in the
nesting they stand.  The boost of a clause is taken off before the clauses around
it are combined, so the induction carries the parts that the clauses play besides
what their plans match.
-/

namespace EntitySearch

namespace Query

mutual

/-- The disjunction without any boost. -/
def Disjunction.unboosted : Disjunction → Disjunction
  | .single first => .single first.unboosted
  | .more first rest => .more first.unboosted rest.unboosted

def Conjunction.unboosted : Conjunction → Conjunction
  | .single first => .single first.unboosted
  | .more first rest => .more first.unboosted rest.unboosted

def Clause.unboosted : Clause → Clause
  | .mk modifier body _ => .mk modifier body.unboosted none

def Body.unboosted : Body → Body
  | .group inner => .group inner.unboosted
  | .matchAll => .matchAll
  | .leaf leaf => .leaf leaf
  | .fieldGroup field inner => .fieldGroup field inner.unboosted
  | .fieldLeaf field leaf => .fieldLeaf field leaf
  | .fieldRange field lower upper => .fieldRange field lower upper

end

deriving instance DecidableEq for Disjunction

end Query

namespace Translator

open Query QueryPlan

theorem matchesLike_boosted (weight : Option Boost) {first second : QueryPlan}
    (alike : MatchesLike first second) : MatchesLike (boosted weight first) second := by
  intro postings
  cases weight with
  | none => exact alike postings
  | some weight => simpa only [boosted, isMatch] using alike postings

section Trees

variable (translator : Translator)

mutual

/-- Without its boosts a disjunction has clauses that play the same parts and match the same
documents, or is refused for the same reason. -/
theorem disjunctionClauses_unboosted : ∀ (target : Option QueryField) (tree : Disjunction),
    OutcomesAlike (List.Forall₂ (ClausesAlike MatchesLike))
      (disjunctionClauses translator target tree)
      (disjunctionClauses translator target tree.unboosted)
  | target, .single conjunction => by
      rw [Disjunction.unboosted, disjunctionClauses, disjunctionClauses]
      exact (conjunctionClauses_unboosted target conjunction).bind fun clauses =>
        .ok (conjoin_alike isCongruence_matchesLike clauses)
  | target, .more conjunction rest => by
      rw [Disjunction.unboosted, disjunctionClauses, disjunctionClauses]
      have behind := disjunctionClauses_unboosted target rest
      exact (conjunctionClauses_unboosted target conjunction).bind fun clauses =>
        behind.bind fun others =>
          .ok (List.rel_append (conjoin_alike isCongruence_matchesLike clauses) others)

theorem conjunctionClauses_unboosted : ∀ (target : Option QueryField) (tree : Conjunction),
    OutcomesAlike (List.Forall₂ (ClausesAlike MatchesLike))
      (conjunctionClauses translator target tree)
      (conjunctionClauses translator target tree.unboosted)
  | target, .single clause => by
      rw [Conjunction.unboosted, conjunctionClauses, conjunctionClauses]
      exact (clausePlan_unboosted target clause).bind fun planned => .ok (forall₂_toList planned)
  | target, .more clause rest => by
      rw [Conjunction.unboosted, conjunctionClauses, conjunctionClauses]
      have behind := conjunctionClauses_unboosted target rest
      exact (clausePlan_unboosted target clause).bind fun planned => behind.bind fun others =>
        .ok (List.rel_append (forall₂_toList planned) others)

theorem clausePlan_unboosted : ∀ (target : Option QueryField) (clause : Clause),
    OutcomesAlike (Option.Rel (ClausesAlike MatchesLike))
      (clausePlan translator target clause) (clausePlan translator target clause.unboosted)
  | target, .mk modifier body weight => by
      rw [Clause.unboosted, clausePlan, clausePlan]
      exact (bodyPlan_unboosted target body).bind fun planned =>
        .ok (optionRel_map planned fun alike => ⟨rfl, matchesLike_boosted weight alike⟩)

theorem bodyPlan_unboosted : ∀ (target : Option QueryField) (body : Body),
    OutcomesAlike (Option.Rel MatchesLike)
      (bodyPlan translator target body) (bodyPlan translator target body.unboosted)
  | target, .group inner => by
      rw [Body.unboosted, bodyPlan, bodyPlan]
      exact (disjunctionClauses_unboosted target inner).map
        (combine_alike isCongruence_matchesLike)
  | target, .fieldGroup name inner => by
      rw [Body.unboosted, bodyPlan, bodyPlan]
      split
      case h_1 field _ =>
        exact (disjunctionClauses_unboosted (some field) inner).map
          (combine_alike isCongruence_matchesLike)
      case h_2 => exact .refl (optionRel_refl isCongruence_matchesLike.refl) _
  | target, .matchAll => .refl (optionRel_refl isCongruence_matchesLike.refl) _
  | target, .leaf leaf => .refl (optionRel_refl isCongruence_matchesLike.refl) _
  | target, .fieldLeaf name leaf => .refl (optionRel_refl isCongruence_matchesLike.refl) _
  | target, .fieldRange name lower upper =>
      .refl (optionRel_refl isCongruence_matchesLike.refl) _

end

theorem planOf_unboosted (tree : Disjunction) :
    OutcomesAlike MatchesLike (translator.planOf tree) (translator.planOf tree.unboosted) := by
  rw [planOf_eq_map, planOf_eq_map]
  exact ((disjunctionClauses_unboosted translator none tree).map
    (combine_alike isCongruence_matchesLike)).map (wholePlan_alike isCongruence_matchesLike)

end Trees

/-! ### What queries find -/

theorem matching_congr (content : IndexContent) {first second : QueryPlan}
    (alike : MatchesLike first second) : content.matching first = content.matching second :=
  List.filter_congr fun stored _ => alike stored.postings

theorem map_matching_of_alike (content : IndexContent) {first second : Except QueryFault QueryPlan}
    (alike : OutcomesAlike MatchesLike first second) :
    first.map content.matching = second.map content.matching :=
  (alike.map (matching_congr content)).eq id

/-- Two queries that are the same without their boosts are refused for the same reason or find
the same documents of every index. -/
theorem boosts_change_no_match (translator : Translator) (content : IndexContent)
    {first second : String} {firstTree secondTree : Disjunction}
    (readFirst : read? first.toList = some firstTree)
    (readSecond : read? second.toList = some secondTree)
    (same : firstTree.unboosted = secondTree.unboosted) :
    (translator.translate first).map content.matching =
      (translator.translate second).map content.matching := by
  have withoutBoosts (tree : Disjunction) :
      (translator.planOf tree).map content.matching =
        (translator.planOf tree.unboosted).map content.matching :=
    map_matching_of_alike content (planOf_unboosted translator tree)
  simp only [translate, readFirst, readSecond]
  rw [withoutBoosts firstTree, withoutBoosts secondTree, same]

/-- A group, weighed or not, with a wanted and a forbidden state. -/
def weighedStates (whole first second : Option Boost) : Disjunction :=
  .single (.single (.mk none (.group
    (.more (.single (.mk none (.leaf ⟨.term, ['o', 'p', 'e', 'n']⟩) first))
      (.single (.single (.mk (some .mustNot)
        (.fieldLeaf ['s', 't', 'a', 't', 'e'] ⟨.term, ['n', 'e', 'w']⟩) second))))) whole))

/-- A boost of zero, a boost above all single-precision numbers and none at all find the same. -/
theorem weighed_states_match_alike :
    ((keywordTranslator "state").translate
        "(open^0 OR -state:new)^1000000000000000000000000000000000000000").map
          IndexContent.stateContent.matching =
      ((keywordTranslator "state").translate "(open OR -state:new^2.5)").map
        IndexContent.stateContent.matching := by
  have readFirst : read? "(open^0 OR -state:new)^1000000000000000000000000000000000000000".toList =
      some (weighedStates (some ⟨'1' :: List.replicate 39 '0', none⟩) (some ⟨['0'], none⟩)
        none) := by
    decide +kernel
  have readSecond : read? "(open OR -state:new^2.5)".toList =
      some (weighedStates none none (some ⟨['2'], some ['5']⟩)) := by
    decide +kernel
  exact boosts_change_no_match _ _ readFirst readSecond rfl

end Translator

end EntitySearch
