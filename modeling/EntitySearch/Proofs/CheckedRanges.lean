import EntitySearch.Proofs.FieldClauses
import EntitySearch.Proofs.PlanSigns

/-!
# Checked ranges

The bounds of a range are asterisks or integers, whatever the range is asked of: a
field of numbers, a field of text, or a name that the index does not know.  A query
with any other bound is refused, however deep the range stands, as long as the
translation gets there.  It gets everywhere but into the groups of unknown fields,
which match nothing and are not looked at.
-/

namespace EntitySearch

namespace Query

/-- A range as it is written, with the fields of the groups around it from the outside in. -/
structure WrittenRange where
  field : List Char
  lower : List Char
  upper : List Char
  around : List (List Char)
deriving Repr, DecidableEq

def WrittenRange.within (field : List Char) (range : WrittenRange) : WrittenRange :=
  { range with around := field :: range.around }

/-- Whether the bound of a range is an asterisk or an integer of 64 bits. -/
def isIntegralBound (text : List Char) : Bool :=
  text == ['*'] || (Text.signed? (Text.trimBlanks text)).isSome ||
    (Text.unsigned? (Text.trimBlanks text)).isSome

structure WrittenRange.IsIntegral (range : WrittenRange) : Prop where
  lower : isIntegralBound range.lower = true
  upper : isIntegralBound range.upper = true

mutual

def Disjunction.ranges : Disjunction → List WrittenRange
  | .single first => first.ranges
  | .more first rest => first.ranges ++ rest.ranges

def Conjunction.ranges : Conjunction → List WrittenRange
  | .single first => first.ranges
  | .more first rest => first.ranges ++ rest.ranges

def Clause.ranges : Clause → List WrittenRange
  | .mk _ body _ => body.ranges

def Body.ranges : Body → List WrittenRange
  | .group inner => inner.ranges
  | .matchAll => []
  | .leaf _ => []
  | .fieldGroup field inner => inner.ranges.map (·.within field)
  | .fieldLeaf _ _ => []
  | .fieldRange field lower upper => [⟨field, lower, upper, []⟩]

end

end Query

namespace Translator

open Query

/-- Queries can name the field. -/
def Knows (translator : Translator) (name : List Char) : Prop :=
  find? translator.fields (String.ofList name) ≠ none

/-- The translation meets the range: it stands in no group of an unknown field. -/
def Meets (translator : Translator) (range : WrittenRange) : Prop :=
  ∀ name ∈ range.around, translator.Knows name

/-! ### One range -/

/-- The outcome is there only if the texts are asterisks or integers, and its fault names one
of them and the field. -/
structure DemandsIntegers {Value : Type} (field : String) (texts : List (List Char))
    (outcome : Except QueryFault Value) : Prop where
  integral : ∀ value, outcome = .ok value → ∀ text ∈ texts, isIntegralBound text = true
  named : ∀ fault, outcome = .error fault →
    ∃ text ∈ texts, fault = .notAnInteger (String.ofList text) field

section Demands

variable {Value Image : Type} {field : String} {text : List Char}
  {texts others : List (List Char)}

theorem demandsIntegers_ok {value : Value} (integral : isIntegralBound text = true) :
    DemandsIntegers field [text] (.ok value) where
  integral := by simp [integral]
  named := nofun

theorem demandsIntegers_error :
    DemandsIntegers field [text]
      (.error (.notAnInteger (String.ofList text) field) : Except QueryFault Value) where
  integral := nofun
  named := by simp

theorem demandsIntegers_pure {value : Value} :
    DemandsIntegers field [] (pure value : Except QueryFault Value) where
  integral := by simp
  named := nofun

theorem DemandsIntegers.map {outcome : Except QueryFault Value}
    (demands : DemandsIntegers field texts outcome) (image : Value → Image) :
    DemandsIntegers field texts (outcome.map image) := by
  cases outcome with
  | error fault =>
      refine ⟨nofun, fun other refused => ?_⟩
      cases refused
      exact demands.named fault rfl
  | ok value => exact ⟨fun _ _ => demands.integral value rfl, nofun⟩

theorem DemandsIntegers.bind {outcome : Except QueryFault Value}
    {next : Value → Except QueryFault Image} (demands : DemandsIntegers field texts outcome)
    (nextDemands : ∀ value, DemandsIntegers field others (next value)) :
    DemandsIntegers field (texts ++ others) (outcome >>= next) := by
  cases outcome with
  | error fault =>
      refine ⟨nofun, fun other refused => ?_⟩
      cases refused
      obtain ⟨text, inside, isFault⟩ := demands.named fault rfl
      exact ⟨text, List.mem_append_left _ inside, isFault⟩
  | ok value =>
      constructor
      · intro image done text inside
        rcases List.mem_append.1 inside with first | last
        · exact demands.integral value rfl text first
        · exact (nextDemands value).integral image done text last
      · intro fault refused
        obtain ⟨text, inside, isFault⟩ := (nextDemands value).named fault refused
        exact ⟨text, List.mem_append_right _ inside, isFault⟩

theorem demandsIntegers_unsignedIn :
    DemandsIntegers field [text] (unsignedIn field text) := by
  unfold unsignedIn
  split
  case h_1 value found => exact demandsIntegers_ok (by simp [isIntegralBound, found])
  case h_2 => exact demandsIntegers_error

theorem demandsIntegers_signedIn : DemandsIntegers field [text] (signedIn field text) := by
  unfold signedIn
  split
  case h_1 value found => exact demandsIntegers_ok (by simp [isIntegralBound, found])
  case h_2 => exact demandsIntegers_error

theorem DemandsIntegers.bound {value : List Char → Except QueryFault Value}
    (demands : DemandsIntegers field [text] (value text)) :
    DemandsIntegers field [text] (bound value text) := by
  unfold Translator.bound
  split
  case isTrue asterisk => exact demandsIntegers_ok (by simp [isIntegralBound, asterisk])
  case isFalse => exact demands.map some

theorem demandsIntegers_checkBound : DemandsIntegers field [text] (checkBound field text) := by
  unfold checkBound
  split
  case isTrue asterisk => exact demandsIntegers_ok (by simp [isIntegralBound, asterisk])
  case isFalse =>
    split
    case h_1 value isSigned =>
      exact demandsIntegers_ok (demandsIntegers_signedIn.integral value isSigned text
        List.mem_cons_self)
    case h_2 => exact demandsIntegers_unsignedIn.map _

theorem demandsIntegers_rangePlan (field : QueryField) (lower upper : List Char) :
    DemandsIntegers field.name [lower, upper] (rangePlan field lower upper) := by
  unfold rangePlan
  split
  · exact demandsIntegers_unsignedIn.bound.bind fun _ =>
      demandsIntegers_unsignedIn.bound.bind fun _ => demandsIntegers_pure
  · exact demandsIntegers_signedIn.bound.bind fun _ =>
      demandsIntegers_signedIn.bound.bind fun _ => demandsIntegers_pure
  · exact demandsIntegers_checkBound.bind fun _ =>
      demandsIntegers_checkBound.bind fun _ => demandsIntegers_pure
  · exact demandsIntegers_checkBound.bind fun _ =>
      demandsIntegers_checkBound.bind fun _ => demandsIntegers_pure

end Demands

theorem name_of_find? {fields : List QueryField} {name : String} {field : QueryField}
    (found : find? fields name = some field) : field.name = name := by
  simpa using List.find?_some found

/-- A range clause demands integers whether or not its field is known. -/
theorem demandsIntegers_fieldRange (translator : Translator) (target : Option QueryField)
    (field lower upper : List Char) :
    DemandsIntegers (String.ofList field) [lower, upper]
      (bodyPlan translator target (.fieldRange field lower upper)) := by
  rw [bodyPlan]
  split
  case h_1 known found =>
    rw [← name_of_find? found]
    exact (demandsIntegers_rangePlan known lower upper).map some
  case h_2 =>
    exact demandsIntegers_checkBound.bind fun _ =>
      demandsIntegers_checkBound.bind fun _ => demandsIntegers_pure

/-- A range clause with a bound that is no integer is refused, and the fault names one of its
bounds and the field as they are written. -/
theorem bodyPlan_of_stray (translator : Translator) (target : Option QueryField)
    {range : WrittenRange} (stray : ¬ range.IsIntegral) :
    ∃ text ∈ [range.lower, range.upper],
      bodyPlan translator target (.fieldRange range.field range.lower range.upper) =
        .error (.notAnInteger (String.ofList text) (String.ofList range.field)) := by
  have demands :=
    demandsIntegers_fieldRange translator target range.field range.lower range.upper
  cases planned : bodyPlan translator target
      (.fieldRange range.field range.lower range.upper) with
  | ok plan =>
      have integral := demands.integral plan planned
      exact (stray ⟨integral _ (by simp), integral _ (by simp)⟩).elim
  | error fault =>
      obtain ⟨text, isBound, rfl⟩ := demands.named fault planned
      exact ⟨text, isBound, rfl⟩

/-! ### Ranges in a query -/

variable {translator : Translator}

mutual

/-- Where a disjunction has clauses, the ranges that the translation meets are integral. -/
theorem areIntegral_disjunctionClauses : ∀ (target : Option QueryField) (tree : Disjunction)
    (clauses : List (Occurrence × QueryPlan)),
    disjunctionClauses translator target tree = .ok clauses →
      ∀ range ∈ tree.ranges, translator.Meets range → range.IsIntegral
  | target, .single first, clauses, translated => by
      rw [disjunctionClauses] at translated
      obtain ⟨inner, isInner, -⟩ := exists_of_bind_ok translated
      exact areIntegral_conjunctionClauses target first inner isInner
  | target, .more first rest, clauses, translated => by
      rw [disjunctionClauses] at translated
      obtain ⟨inner, isInner, more⟩ := exists_of_bind_ok translated
      obtain ⟨others, isOthers, -⟩ := exists_of_bind_ok more
      intro range inside
      rcases List.mem_append.1 inside with before | behind
      · exact areIntegral_conjunctionClauses target first inner isInner range before
      · exact areIntegral_disjunctionClauses target rest others isOthers range behind

theorem areIntegral_conjunctionClauses : ∀ (target : Option QueryField) (tree : Conjunction)
    (clauses : List (Occurrence × QueryPlan)),
    conjunctionClauses translator target tree = .ok clauses →
      ∀ range ∈ tree.ranges, translator.Meets range → range.IsIntegral
  | target, .single first, clauses, translated => by
      rw [conjunctionClauses] at translated
      obtain ⟨clause, isClause, -⟩ := exists_of_bind_ok translated
      exact areIntegral_clausePlan target first clause isClause
  | target, .more first rest, clauses, translated => by
      rw [conjunctionClauses] at translated
      obtain ⟨clause, isClause, more⟩ := exists_of_bind_ok translated
      obtain ⟨others, isOthers, -⟩ := exists_of_bind_ok more
      intro range inside
      rcases List.mem_append.1 inside with before | behind
      · exact areIntegral_clausePlan target first clause isClause range before
      · exact areIntegral_conjunctionClauses target rest others isOthers range behind

theorem areIntegral_clausePlan : ∀ (target : Option QueryField) (clause : Clause)
    (planned : Option (Occurrence × QueryPlan)),
    clausePlan translator target clause = .ok planned →
      ∀ range ∈ clause.ranges, translator.Meets range → range.IsIntegral
  | target, .mk modifier body weight, planned, translated => by
      rw [clausePlan] at translated
      obtain ⟨inner, isInner, -⟩ := exists_of_bind_ok translated
      exact areIntegral_bodyPlan target body inner isInner

theorem areIntegral_bodyPlan : ∀ (target : Option QueryField) (body : Body)
    (plan : Option QueryPlan),
    bodyPlan translator target body = .ok plan →
      ∀ range ∈ body.ranges, translator.Meets range → range.IsIntegral
  | target, .group inner, plan, translated => by
      rw [bodyPlan] at translated
      obtain ⟨clauses, isClauses, -⟩ := exists_of_map_ok translated
      exact areIntegral_disjunctionClauses target inner clauses isClauses
  | target, .matchAll, plan, translated => List.forall_mem_nil _
  | target, .leaf leaf, plan, translated => List.forall_mem_nil _
  | target, .fieldGroup name inner, plan, translated => by
      intro range inside met
      obtain ⟨innerRange, isInner, rfl⟩ := List.mem_map.1 inside
      have known : translator.Knows name := met name List.mem_cons_self
      have metInside : translator.Meets innerRange := fun other isAround =>
        met other (List.mem_cons_of_mem _ isAround)
      rw [bodyPlan] at translated
      split at translated
      case h_1 field _ =>
        obtain ⟨clauses, isClauses, -⟩ := exists_of_map_ok translated
        obtain ⟨lower, upper⟩ := areIntegral_disjunctionClauses (some field) inner clauses
          isClauses innerRange isInner metInside
        exact ⟨lower, upper⟩
      case h_2 unknown => exact (known unknown).elim
  | target, .fieldLeaf name leaf, plan, translated => List.forall_mem_nil _
  | target, .fieldRange name lower upper, plan, translated => by
      intro range inside _
      obtain rfl := List.mem_singleton.1 inside
      by_contra stray
      obtain ⟨text, -, refused⟩ := bodyPlan_of_stray translator target stray
      cases translated.symm.trans refused

end

/-- A query is refused if one of its ranges has a bound that is no integer, wherever the range
stands outside the groups of unknown fields. -/
theorem translate_of_stray {query : String} {tree : Disjunction} {range : WrittenRange}
    (read : read? query.toList = some tree) (inside : range ∈ tree.ranges)
    (met : translator.Meets range) (stray : ¬ range.IsIntegral) :
    ∃ fault, translator.translate query = .error fault := by
  cases translated : disjunctionClauses translator none tree with
  | error fault => exact ⟨fault, by simp only [translate, read, planOf, translated]⟩
  | ok clauses =>
      have integral := areIntegral_disjunctionClauses none tree clauses translated
      exact (stray (integral range inside met)).elim

/-- A translator that knows one field, which holds signed numbers. -/
def votesTranslator : Translator where
  fields := [⟨"votes", .signed⟩]
  defaults := []

theorem read?_strayVotes : read? "votes:[a TO b]".toList =
    some (oneClause none (.fieldRange "votes".toList ['a'] ['b'])) := rfl

/-- A range in a group of the field is looked at. -/
theorem stray_votes_are_refused :
    ∃ fault, votesTranslator.translate ("votes" ++ ":(" ++ "votes:[a TO b]" ++ ")") =
      .error fault := by
  have known : ∀ name ∈ ["votes".toList], votesTranslator.Knows name := by
    intro name inside
    cases List.mem_singleton.1 inside
    exact nofun
  have stray : ¬ WrittenRange.IsIntegral ⟨"votes".toList, ['a'], ['b'], ["votes".toList]⟩ :=
    fun integral => absurd integral.lower (by decide)
  have read := read?_fieldGroup (by decide : isFieldName "votes" = true) (by decide)
    read?_strayVotes rfl
  exact translate_of_stray read List.mem_cons_self known stray

/-! ### Groups of unknown fields -/

/-- Under a field that the index lacks a group is accepted whatever its ranges are, as long as
it can be read and no escape takes its closing parenthesis. -/
theorem translate_unknown_group {name query : String} {tree : Disjunction}
    (named : isFieldName name = true) (notNegation : name ≠ "NOT")
    (unknown : find? translator.fields name = none) (read : read? query.toList = some tree)
    (paired : endsUnpaired query.toList = false) :
    translator.translate (name ++ ":(" ++ query ++ ")") =
      .ok (.combination [(.must, .empty), (.must, entitiesOnly)]) := by
  have planned : disjunctionClauses translator none
      (oneClause none (.fieldGroup name.toList tree)) = .ok [(.should, .empty)] := by
    simp only [oneClause, disjunctionClauses, conjunctionClauses, clausePlan, bodyPlan,
      String.ofList_toList, unknown]
    rfl
  rw [translate, read?_fieldGroup named notNegation read paired]
  simp only [planOf, planned, combine]

/-- The same range is refused on its own and accepted in a group of an unknown field. -/
theorem exists_unchecked_range :
    votesTranslator.translate "votes:[a TO b]" = .error (.notAnInteger "a" "votes") ∧
      ∃ plan, votesTranslator.translate ("nosuch" ++ ":(" ++ "votes:[a TO b]" ++ ")") =
        .ok plan := by
  refine ⟨?_, _, translate_unknown_group (by decide) (by decide) rfl read?_strayVotes rfl⟩
  rw [translate, read?_strayVotes]
  rfl

end Translator

end EntitySearch
