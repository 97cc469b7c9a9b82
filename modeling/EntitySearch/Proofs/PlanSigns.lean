import EntitySearch.Proofs.Outcomes
import EntitySearch.Proofs.ScoreSigns
import EntitySearch.Query.Translation

/-!
# Signs of translated plans

The boosts of the query language have no sign, so no translated plan has one, and
its scores have none either.
-/

namespace EntitySearch.Translator

open Numeric (Single)
open Query QueryPlan

variable {translator : Translator} {target : Option QueryField}

theorem isUnsigned_combine {clauses : List (Occurrence × QueryPlan)}
    (unsigned : AreUnsigned clauses) {plan : QueryPlan} (combined : combine clauses = some plan) :
    plan.IsUnsigned := by
  unfold combine at combined
  split at combined
  · cases combined
  · cases combined
    exact unsigned.1
  · cases combined
    exact unsigned.1
  · split at combined
    · cases combined
      exact unsigned.append ⟨trivial, trivial⟩
    · cases combined
      rw [IsUnsigned]
      exact unsigned

theorem areUnsigned_wishes {plans : List QueryPlan}
    (unsigned : ∀ plan ∈ plans, plan.IsUnsigned) : AreUnsigned (plans.map (.should, ·)) := by
  rw [areUnsigned_iff]
  intro clause inside
  obtain ⟨plan, isPlan, rfl⟩ := List.mem_map.1 inside
  exact unsigned plan isPlan

theorem isUnsigned_anyOf {plans : List QueryPlan} (unsigned : ∀ plan ∈ plans, plan.IsUnsigned)
    {plan : QueryPlan} (combined : anyOf plans = some plan) : plan.IsUnsigned := by
  unfold anyOf at combined
  split at combined
  · cases combined
  · cases combined
    exact unsigned _ List.mem_cons_self
  · cases combined
    rw [IsUnsigned]
    exact areUnsigned_wishes unsigned

theorem areUnsigned_conjoin {clauses : List (Occurrence × QueryPlan)}
    (unsigned : AreUnsigned clauses) : AreUnsigned (conjoin clauses).toList := by
  unfold conjoin
  split
  · trivial
  · exact unsigned
  · rename_i many _ _
    have demanded : AreUnsigned (clauses.map demanded) := by
      rw [areUnsigned_iff] at unsigned ⊢
      intro clause inside
      obtain ⟨⟨part, plan⟩, isClause, rfl⟩ := List.mem_map.1 inside
      have plain := unsigned (part, plan) isClause
      cases part <;> exact plain
    cases combined : combine (clauses.map Translator.demanded) with
    | none => trivial
    | some plan => exact ⟨isUnsigned_combine demanded combined, trivial⟩

theorem isUnsigned_wordsPlan {field : String} {isPhrase : Bool} {text : String} {plan : QueryPlan}
    (planned : wordsPlan field isPhrase text = some plan) : plan.IsUnsigned := by
  unfold wordsPlan at planned
  split at planned
  · cases planned
  · cases planned
    trivial
  · split at planned
    · cases planned
      trivial
    · cases planned
      rw [IsUnsigned, areUnsigned_iff]
      intro clause inside
      obtain ⟨placed, _, rfl⟩ := List.mem_map.1 inside
      trivial

theorem isUnsigned_rangePlan {field : QueryField} {lower upper : List Char} {plan : QueryPlan}
    (planned : rangePlan field lower upper = .ok plan) : plan.IsUnsigned := by
  unfold rangePlan at planned
  split at planned
  all_goals
    obtain ⟨_, _, rest⟩ := exists_of_bind_ok planned
    obtain ⟨_, _, made⟩ := exists_of_bind_ok rest
    cases made
    trivial

theorem isUnsigned_patternPlan {field : QueryField} {glob : List Char} {plan : QueryPlan}
    (planned : patternPlan field glob = .ok plan) : plan.IsUnsigned := by
  simp only [patternPlan] at planned
  split at planned
  · cases planned
    trivial
  · cases planned

theorem isUnsigned_wildcardPlan {field : QueryField} {glob : List Char} {plan : QueryPlan}
    (planned : wildcardPlan field glob = .ok plan) : plan.IsUnsigned := by
  unfold wildcardPlan at planned
  split at planned
  · split at planned
    · cases planned
      trivial
    · cases planned
  · split at planned
    · cases planned
      trivial
    · cases planned
  · exact isUnsigned_patternPlan planned
  · exact isUnsigned_patternPlan planned

theorem isUnsigned_leafPlan {leaf : Leaf} {field : QueryField} {plan : QueryPlan}
    (planned : leafPlan leaf field = .ok (some plan)) : plan.IsUnsigned := by
  unfold leafPlan at planned
  simp only at planned
  split at planned
  · obtain ⟨made, isMade, same⟩ := exists_of_map_ok planned
    cases same
    exact isUnsigned_wildcardPlan isMade
  · split at planned
    · exact isUnsigned_wordsPlan (Except.ok.inj planned)
    · cases planned
      trivial
    · obtain ⟨_, _, same⟩ := exists_of_map_ok planned
      cases same
      trivial
    · obtain ⟨_, _, same⟩ := exists_of_map_ok planned
      cases same
      trivial

theorem isUnsigned_leafOn {leaf : Leaf} {plan : QueryPlan}
    (planned : leafOn translator target leaf = .ok (some plan)) : plan.IsUnsigned := by
  unfold leafOn at planned
  split at planned
  · exact isUnsigned_leafPlan planned
  · split at planned
    · cases planned
    · split at planned
      · rename_i plans made
        refine isUnsigned_anyOf (fun other inside => ?_) (Except.ok.inj planned)
        obtain ⟨present, isPlan, same⟩ := List.mem_filterMap.1 inside
        cases same
        obtain ⟨field, _, isMade⟩ := exists_of_mapM_ok made isPlan
        exact isUnsigned_leafPlan isMade
      · cases planned

theorem isUnsigned_boosted {boost : Option Boost} {plan : QueryPlan}
    (unsigned : plan.IsUnsigned) : (boosted boost plan).IsUnsigned := by
  cases boost with
  | none => exact unsigned
  | some boost => exact ⟨Single.negative_ofMagnitude false _, unsigned⟩

mutual

theorem areUnsigned_disjunctionClauses : ∀ (target : Option QueryField) (tree : Disjunction)
    (clauses : List (Occurrence × QueryPlan)),
    disjunctionClauses translator target tree = .ok clauses → AreUnsigned clauses
  | target, .single first, clauses, translated => by
      rw [disjunctionClauses] at translated
      obtain ⟨inner, isInner, made⟩ := exists_of_bind_ok translated
      cases made
      exact areUnsigned_conjoin (areUnsigned_conjunctionClauses target first inner isInner)
  | target, .more first rest, clauses, translated => by
      rw [disjunctionClauses] at translated
      obtain ⟨inner, isInner, more⟩ := exists_of_bind_ok translated
      obtain ⟨others, isOthers, made⟩ := exists_of_bind_ok more
      cases made
      have before := areUnsigned_conjoin
        (areUnsigned_conjunctionClauses target first inner isInner)
      exact before.append (areUnsigned_disjunctionClauses target rest others isOthers)

theorem areUnsigned_conjunctionClauses : ∀ (target : Option QueryField) (tree : Conjunction)
    (clauses : List (Occurrence × QueryPlan)),
    conjunctionClauses translator target tree = .ok clauses → AreUnsigned clauses
  | target, .single first, clauses, translated => by
      rw [conjunctionClauses] at translated
      obtain ⟨clause, isClause, made⟩ := exists_of_bind_ok translated
      cases made
      exact areUnsigned_clausePlan target first clause isClause
  | target, .more first rest, clauses, translated => by
      rw [conjunctionClauses] at translated
      obtain ⟨clause, isClause, more⟩ := exists_of_bind_ok translated
      obtain ⟨others, isOthers, made⟩ := exists_of_bind_ok more
      cases made
      have before := areUnsigned_clausePlan target first clause isClause
      exact before.append (areUnsigned_conjunctionClauses target rest others isOthers)

theorem areUnsigned_clausePlan : ∀ (target : Option QueryField) (clause : Clause)
    (planned : Option (Occurrence × QueryPlan)),
    clausePlan translator target clause = .ok planned → AreUnsigned planned.toList
  | target, .mk modifier body weight, planned, translated => by
      rw [clausePlan] at translated
      obtain ⟨inner, isInner, made⟩ := exists_of_bind_ok translated
      cases made
      cases inner with
      | none => trivial
      | some plan =>
          exact ⟨isUnsigned_boosted (isUnsigned_bodyPlan target body plan isInner), trivial⟩

theorem isUnsigned_bodyPlan : ∀ (target : Option QueryField) (body : Body) (plan : QueryPlan),
    bodyPlan translator target body = .ok (some plan) → plan.IsUnsigned
  | target, .group inner, plan, translated => by
      rw [bodyPlan] at translated
      obtain ⟨clauses, isClauses, combined⟩ := exists_of_map_ok translated
      exact isUnsigned_combine (areUnsigned_disjunctionClauses target inner clauses isClauses)
        combined
  | target, .matchAll, plan, translated => by
      rw [bodyPlan] at translated
      cases translated
      trivial
  | target, .leaf leaf, plan, translated => by
      rw [bodyPlan] at translated
      exact isUnsigned_leafOn translated
  | target, .fieldGroup name inner, plan, translated => by
      rw [bodyPlan] at translated
      split at translated
      · rename_i field _
        obtain ⟨clauses, isClauses, combined⟩ := exists_of_map_ok translated
        exact isUnsigned_combine
          (areUnsigned_disjunctionClauses (some field) inner clauses isClauses) combined
      · cases translated
        trivial
  | target, .fieldLeaf name leaf, plan, translated => by
      rw [bodyPlan] at translated
      split at translated
      · exact isUnsigned_leafPlan translated
      · cases translated
        trivial
  | target, .fieldRange name lower upper, plan, translated => by
      rw [bodyPlan] at translated
      split at translated
      · obtain ⟨made, isMade, same⟩ := exists_of_map_ok translated
        cases same
        exact isUnsigned_rangePlan isMade
      · obtain ⟨_, _, rest⟩ := exists_of_bind_ok translated
        obtain ⟨_, _, made⟩ := exists_of_bind_ok rest
        cases made
        trivial

end

theorem isUnsigned_translate {query : String} {plan : QueryPlan}
    (accepted : translator.translate query = .ok plan) : plan.IsUnsigned := by
  unfold translate planOf at accepted
  split at accepted
  · cases accepted
  · split at accepted
    · cases accepted
    · rename_i clauses translated
      split at accepted
      · cases accepted
        trivial
      · rename_i matched combined
        cases accepted
        have matchedUnsigned := isUnsigned_combine
          (areUnsigned_disjunctionClauses none _ clauses translated) combined
        exact ⟨matchedUnsigned, Single.isUnsigned_zero, trivial⟩

end EntitySearch.Translator
