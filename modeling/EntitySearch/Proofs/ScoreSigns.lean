import EntitySearch.Proofs.FormatExactness
import EntitySearch.Search.Scoring

/-!
# Signs of scores

Sums, products and quotients of numbers without a minus sign have none, and the
logarithm of a number that is at least one has none either.  So no plan whose
boosts are without a sign gives a score with one, and among such scores the order
of the numbers is the order of their places.
-/

namespace EntitySearch

namespace Numeric

theorem BinaryFormat.infinity_single : BinaryFormat.single.infinity = 255 * 2 ^ 23 := rfl

theorem BinaryFormat.binadeSize_single : BinaryFormat.single.binadeSize = 2 ^ 23 := rfl

theorem BinaryFormat.precision_single : BinaryFormat.single.precision = 24 := rfl

/-- The position of one among the members of the 32-bit format. -/
def onePosition : Nat := 127 * 2 ^ 23

/-- From the position of one on every member has the units of one at least. -/
theorem BinaryFormat.unitsOfOne_le_units {position : Nat} (enough : onePosition ≤ position) :
    2 ^ 149 ≤ BinaryFormat.single.units position := by
  rw [onePosition] at enough
  have notSmall : ¬position < BinaryFormat.single.binadeSize := by
    rw [binadeSize_single]
    omega
  have binades : 126 ≤ position / BinaryFormat.single.binadeSize - 1 := by
    rw [binadeSize_single]
    omega
  rw [units, if_neg notSmall]
  calc
    2 ^ 149 = 2 ^ 23 * 2 ^ 126 := rfl
    _ ≤ (BinaryFormat.single.binadeSize + position % BinaryFormat.single.binadeSize) *
        2 ^ (position / BinaryFormat.single.binadeSize - 1) :=
      Nat.mul_le_mul (Nat.le_add_right _ _) (Nat.pow_le_pow_right (by decide) binades)

theorem roundHalfEven_ge (numerator denominator : Nat) :
    numerator / denominator ≤ roundHalfEven numerator denominator := by
  simp only [roundHalfEven]
  split
  · exact Nat.le_refl _
  · split <;> omega

theorem BinaryFormat.nearest_ge_one {total : Nat} (enough : 2 ^ 149 ≤ total) :
    onePosition ≤ BinaryFormat.single.nearest total 1 := by
  have positive : total ≠ 0 := by
    intro none
    rw [none] at enough
    exact absurd enough (by decide)
  have long : 149 ≤ total.log2 := (Nat.le_log2 positive).2 enough
  obtain ⟨shift, isShift⟩ : ∃ shift, shift = total.log2 + 1 - 24 := ⟨_, rfl⟩
  have atLeast : 2 ^ 23 ≤ total / 2 ^ shift := by
    rw [Nat.le_div_iff_mul_le (Nat.pow_pos (by decide)), ← Nat.pow_add]
    calc
      2 ^ (23 + shift) = 2 ^ total.log2 := by
        congr 1
        omega
      _ ≤ total := Nat.log2_self_le positive
  have rounded := roundHalfEven_ge total (2 ^ shift)
  have farther : 126 ≤ shift := by omega
  have position : BinaryFormat.single.nearest total 1 = min (255 * 2 ^ 23)
      ((total.log2 + 1 - 24) * 2 ^ 23 +
        roundHalfEven total (2 ^ (total.log2 + 1 - 24))) := by
    simp [nearest, infinity_single, binadeSize_single, precision_single]
  rw [position, ← isShift, onePosition]
  exact Nat.le_min.2 ⟨by decide, by omega⟩

namespace Single

/-- The value has no minus sign. -/
def IsUnsigned (value : Single) : Prop :=
  value.negative = false

theorem negative_ofMagnitude (negative : Bool) (magnitude : Nat) :
    (ofMagnitude negative magnitude).negative = negative := by
  unfold ofMagnitude
  split <;> rfl

theorem magnitude_ofMagnitude (negative : Bool) {magnitude : Nat}
    (bounded : magnitude ≤ BinaryFormat.single.infinity) :
    (ofMagnitude negative magnitude).magnitude = magnitude := by
  have inside : magnitude < 0x80000000 :=
    Nat.lt_of_le_of_lt bounded (by decide)
  rw [ofMagnitude, dif_pos inside]

theorem isUnsigned_ofUnits (numerator denominator : Nat) :
    (ofUnits false numerator denominator).IsUnsigned :=
  negative_ofMagnitude false _

theorem isUnsigned_ofNat (number : Nat) : (ofNat number).IsUnsigned :=
  isUnsigned_ofUnits _ _

theorem isUnsigned_ofRatio (numerator denominator : Nat) :
    (ofRatio numerator denominator).IsUnsigned :=
  isUnsigned_ofUnits _ _

theorem isUnsigned_zero : zero.IsUnsigned :=
  negative_ofMagnitude false 0

theorem isUnsigned_notANumber : notANumber.IsUnsigned :=
  negative_ofMagnitude false _

variable {left right : Single}

theorem signedUnits_of_isUnsigned (leftUnsigned : left.IsUnsigned) :
    left.signedUnits = left.units := by
  rw [IsUnsigned] at leftUnsigned
  simp [signedUnits, leftUnsigned]

theorem IsUnsigned.add (leftUnsigned : left.IsUnsigned) (rightUnsigned : right.IsUnsigned) :
    (left + right).IsUnsigned := by
  show (Single.add left right).IsUnsigned
  rw [Single.add, signedUnits_of_isUnsigned leftUnsigned,
    signedUnits_of_isUnsigned rightUnsigned]
  split
  · exact isUnsigned_notANumber
  · split
    · split
      · exact isUnsigned_notANumber
      · exact leftUnsigned
    · split
      · exact rightUnsigned
      · have notBelow : ¬(left.units : Int) + right.units < 0 := by omega
        simp only [notBelow, decide_false]
        split
        · rw [IsUnsigned] at leftUnsigned
          simp [IsUnsigned, negative_ofMagnitude, leftUnsigned]
        · exact isUnsigned_ofUnits _ _

theorem IsUnsigned.mul (leftUnsigned : left.IsUnsigned) (rightUnsigned : right.IsUnsigned) :
    (left * right).IsUnsigned := by
  have sameSign : (left.negative != right.negative) = false := by
    rw [leftUnsigned, rightUnsigned]
    rfl
  show (Single.mul left right).IsUnsigned
  rw [Single.mul, sameSign]
  split
  · exact isUnsigned_notANumber
  · split
    · split
      · exact isUnsigned_notANumber
      · exact negative_ofMagnitude false _
    · exact isUnsigned_ofUnits _ _

theorem IsUnsigned.div (leftUnsigned : left.IsUnsigned) (rightUnsigned : right.IsUnsigned) :
    (left / right).IsUnsigned := by
  have sameSign : (left.negative != right.negative) = false := by
    rw [leftUnsigned, rightUnsigned]
    rfl
  show (Single.div left right).IsUnsigned
  rw [Single.div, sameSign]
  split
  · exact isUnsigned_notANumber
  · split
    · split
      · exact isUnsigned_notANumber
      · exact negative_ofMagnitude false _
    · split
      · exact negative_ofMagnitude false _
      · split
        · split
          · exact isUnsigned_notANumber
          · exact negative_ofMagnitude false _
        · exact isUnsigned_ofUnits _ _

theorem IsUnsigned.foldl_add {first : Single} (firstUnsigned : first.IsUnsigned)
    {others : List Single} (othersUnsigned : ∀ other ∈ others, other.IsUnsigned) :
    (others.foldl (· + ·) first).IsUnsigned := by
  induction others generalizing first with
  | nil => exact firstUnsigned
  | cons other others ih =>
      refine ih (firstUnsigned.add (othersUnsigned other List.mem_cons_self)) ?_
      exact fun later inside => othersUnsigned later (List.mem_cons_of_mem _ inside)

theorem magnitude_notANumber : onePosition ≤ notANumber.magnitude := by
  decide

/-- A finite number that is one at least and a number without a sign make no number, or
infinity, or one at least. -/
theorem IsUnsigned.add_large (leftUnsigned : left.IsUnsigned) (leftNumber : left.isNaN = false)
    (leftFinite : left.isInfinite = false) (enough : 2 ^ 149 ≤ left.units)
    (rightUnsigned : right.IsUnsigned) : onePosition ≤ (left + right).magnitude := by
  show onePosition ≤ (Single.add left right).magnitude
  rw [Single.add, signedUnits_of_isUnsigned leftUnsigned,
    signedUnits_of_isUnsigned rightUnsigned, leftNumber, leftFinite]
  rw [Bool.false_or, if_neg Bool.false_ne_true]
  split
  · exact magnitude_notANumber
  · split
    · rename_i unbounded
      rw [isInfinite, beq_iff_eq] at unbounded
      rw [unbounded]
      decide
    · have isTotal : ((left.units : Int) + right.units).natAbs = left.units + right.units := by
        omega
      have notZero : ¬(left.units : Int) + right.units = 0 := by
        intro none
        rw [none] at isTotal
        have noUnits : left.units = 0 := by omega
        rw [noUnits] at enough
        exact absurd enough (by decide)
      rw [if_neg notZero, isTotal]
      have position : (ofUnits (decide ((left.units : Int) + right.units < 0))
          (left.units + right.units) 1).magnitude =
            BinaryFormat.single.nearest (left.units + right.units) 1 :=
        magnitude_ofMagnitude _ (Nat.min_le_left _ _)
      rw [position]
      exact BinaryFormat.nearest_ge_one (Nat.le_trans enough (Nat.le_add_right _ _))

theorem IsUnsigned.one_add (rightUnsigned : right.IsUnsigned) :
    onePosition ≤ (ofNat 1 + right).magnitude :=
  (isUnsigned_ofNat 1).add_large (by decide) (by decide) (by decide) rightUnsigned

/-- The logarithm of a number that is one at least has no minus sign. -/
theorem IsUnsigned.naturalLogarithm {value : Single} (valueUnsigned : value.IsUnsigned)
    (enough : onePosition ≤ value.magnitude) : value.naturalLogarithm.IsUnsigned := by
  have notZero : value.magnitude ≠ 0 := by
    rw [onePosition] at enough
    omega
  have notNegative : ¬value.negative = true := by
    rw [valueUnsigned]
    decide
  rw [Single.naturalLogarithm, if_neg notZero, if_neg notNegative]
  split
  · exact isUnsigned_notANumber
  · split
    · exact valueUnsigned
    · have many := BinaryFormat.unitsOfOne_le_units enough
      have positive : value.units ≠ 0 := by
        intro none
        rw [units] at none
        rw [none] at many
        exact absurd many (by decide)
      have long : 149 ≤ value.units.log2 := (Nat.le_log2 positive).2 many
      have exponent : 0 ≤ (value.units.log2 : Int) - (BinaryFormat.single.unitPlaces : Int) := by
        have places : BinaryFormat.single.unitPlaces = 149 := rfl
        rw [places]
        omega
      simp only []
      generalize (value.units.log2 : Int) - (BinaryFormat.single.unitPlaces : Int) = power at *
      generalize areaTangentDoubled 1 3 = step
      generalize areaTangentDoubled _ _ = fraction
      have notBelow : ¬(fraction : Int) + power * step < 0 := by
        have product := Int.mul_nonneg exponent (Int.natCast_nonneg step)
        omega
      simp only [notBelow, decide_false]
      exact isUnsigned_ofUnits _ _

end Single

end Numeric

open Numeric (Single)

namespace Scoring

variable {weight average boost rarity : Single}

theorem isUnsigned_weight (rarityUnsigned : rarity.IsUnsigned) (boostUnsigned : boost.IsUnsigned) :
    (Scoring.weight rarity boost).IsUnsigned :=
  (rarityUnsigned.mul ((Single.isUnsigned_ofNat 1).add (Single.isUnsigned_ofRatio 12 10))).mul
    boostUnsigned

theorem isUnsigned_saturated (weightUnsigned : weight.IsUnsigned)
    (averageUnsigned : average.IsUnsigned) (frequency length : Nat) :
    (saturated weight average frequency length).IsUnsigned := by
  have share : (fixedShare + lengthShare * Single.ofNat length / average).IsUnsigned :=
    (Single.isUnsigned_ofRatio 1 4).add
      (((Single.isUnsigned_ofRatio 3 4).mul (Single.isUnsigned_ofNat length)).div
        averageUnsigned)
  have count := Single.isUnsigned_ofNat frequency
  have saturation : saturation.IsUnsigned := Single.isUnsigned_ofRatio 12 10
  exact weightUnsigned.mul (count.div (count.add (saturation.mul share)))

end Scoring

namespace IndexContent

theorem isUnsigned_averageLength (content : IndexContent) (field : String) :
    (content.averageLength field).IsUnsigned :=
  (Single.isUnsigned_ofNat _).div (Single.isUnsigned_ofNat _)

theorem isUnsigned_termRarity (content : IndexContent) (field : String) (value : FieldValue) :
    (content.termRarity field value).IsUnsigned := by
  have half := Single.isUnsigned_ofRatio 1 2
  have quotient : ((Single.ofNat (content.documentCount - content.termCount field value) +
      Single.ofRatio 1 2) / (Single.ofNat (content.termCount field value) +
        Single.ofRatio 1 2)).IsUnsigned :=
    ((Single.isUnsigned_ofNat _).add half).div ((Single.isUnsigned_ofNat _).add half)
  exact ((Single.isUnsigned_ofNat 1).add quotient).naturalLogarithm quotient.one_add

end IndexContent

namespace QueryPlan

mutual

/-- The boosts and the constant scores of the plan have no minus sign. -/
def IsUnsigned : QueryPlan → Prop
  | .boost factor body => factor.IsUnsigned ∧ IsUnsigned body
  | .constant score _ => score.IsUnsigned
  | .combination clauses => AreUnsigned clauses
  | _ => True

/-- The plans of all clauses are without a sign. -/
def AreUnsigned : List (Occurrence × QueryPlan) → Prop
  | [] => True
  | (_, plan) :: rest => IsUnsigned plan ∧ AreUnsigned rest

end

mutual

theorem isUnsigned_score (content : IndexContent) (postings : List Posting) :
    ∀ (plan : QueryPlan) (scale : Single), plan.IsUnsigned → scale.IsUnsigned →
      ((plan.weigh content scale).score postings).IsUnsigned
  | .all, scale, _, boostUnsigned => by
      simpa only [weigh, WeighedPlan.score] using boostUnsigned
  | .empty, scale, _, boostUnsigned => by
      simpa only [weigh, WeighedPlan.score] using Single.isUnsigned_zero
  | .term field value, scale, _, boostUnsigned => by
      rw [weigh, WeighedPlan.score]
      exact Scoring.isUnsigned_saturated
        (Scoring.isUnsigned_weight (content.isUnsigned_termRarity field value) boostUnsigned)
        (content.isUnsigned_averageLength field) _ _
  | .phrase field terms, scale, _, boostUnsigned => by
      rw [weigh, WeighedPlan.score]
      refine Scoring.isUnsigned_saturated (Scoring.isUnsigned_weight ?_ boostUnsigned)
        (content.isUnsigned_averageLength field) _ _
      refine Single.isUnsigned_zero.foldl_add fun rarity inside => ?_
      obtain ⟨placed, _, rfl⟩ := List.mem_map.1 inside
      exact content.isUnsigned_termRarity field _
  | .unsignedRange _ _ _, scale, _, boostUnsigned => by
      simpa only [weigh, WeighedPlan.score] using boostUnsigned
  | .signedRange _ _ _, scale, _, boostUnsigned => by
      simpa only [weigh, WeighedPlan.score] using boostUnsigned
  | .pattern _ _, scale, _, boostUnsigned => by
      simpa only [weigh, WeighedPlan.score] using boostUnsigned
  | .boost factor body, scale, planUnsigned, boostUnsigned => by
      rw [IsUnsigned] at planUnsigned
      rw [weigh]
      exact isUnsigned_score content postings body (scale * factor) planUnsigned.2
        (boostUnsigned.mul planUnsigned.1)
  | .constant score _, scale, planUnsigned, boostUnsigned => by
      rw [IsUnsigned] at planUnsigned
      rw [weigh, WeighedPlan.score]
      exact boostUnsigned.mul planUnsigned
  | .combination clauses, scale, planUnsigned, boostUnsigned => by
      rw [IsUnsigned] at planUnsigned
      rw [weigh, WeighedPlan.score]
      exact isUnsigned_scoreSum content postings clauses scale Single.zero planUnsigned
        boostUnsigned Single.isUnsigned_zero

theorem isUnsigned_scoreSum (content : IndexContent) (postings : List Posting) :
    ∀ (clauses : List (Occurrence × QueryPlan)) (scale total : Single),
      AreUnsigned clauses → scale.IsUnsigned → total.IsUnsigned →
        (WeighedPlan.scoreSum postings total (weighClauses content scale clauses)).IsUnsigned
  | [], scale, total, _, _, totalUnsigned => by
      simpa only [weighClauses, WeighedPlan.scoreSum] using totalUnsigned
  | (.mustNot, plan) :: rest, scale, total, clausesUnsigned, boostUnsigned, totalUnsigned => by
      rw [AreUnsigned] at clausesUnsigned
      rw [weighClauses]
      exact isUnsigned_scoreSum content postings rest scale total clausesUnsigned.2
        boostUnsigned totalUnsigned
  | (.must, plan) :: rest, scale, total, clausesUnsigned, boostUnsigned, totalUnsigned => by
      rw [AreUnsigned] at clausesUnsigned
      have added := isUnsigned_score content postings plan scale clausesUnsigned.1 boostUnsigned
      rw [weighClauses, WeighedPlan.scoreSum]
      split
      · exact isUnsigned_scoreSum content postings rest scale _ clausesUnsigned.2 boostUnsigned
          (totalUnsigned.add added)
      · exact isUnsigned_scoreSum content postings rest scale total clausesUnsigned.2
          boostUnsigned totalUnsigned
  | (.should, plan) :: rest, scale, total, clausesUnsigned, boostUnsigned, totalUnsigned => by
      rw [AreUnsigned] at clausesUnsigned
      have added := isUnsigned_score content postings plan scale clausesUnsigned.1 boostUnsigned
      rw [weighClauses, WeighedPlan.scoreSum]
      split
      · exact isUnsigned_scoreSum content postings rest scale _ clausesUnsigned.2 boostUnsigned
          (totalUnsigned.add added)
      · exact isUnsigned_scoreSum content postings rest scale total clausesUnsigned.2
          boostUnsigned totalUnsigned

end

theorem areUnsigned_iff {clauses : List (Occurrence × QueryPlan)} :
    AreUnsigned clauses ↔ ∀ clause ∈ clauses, clause.2.IsUnsigned := by
  induction clauses with
  | nil => simp [AreUnsigned]
  | cons clause clauses ih => simp [AreUnsigned, ih]

theorem AreUnsigned.append {first second : List (Occurrence × QueryPlan)}
    (firstUnsigned : AreUnsigned first) (secondUnsigned : AreUnsigned second) :
    AreUnsigned (first ++ second) := by
  rw [areUnsigned_iff] at *
  exact fun clause inside =>
    (List.mem_append.1 inside).elim (firstUnsigned clause) (secondUnsigned clause)

end QueryPlan

end EntitySearch
