import EntitySearch.Proofs.FormatExactness
import Mathlib.Tactic.NormNum

/-!
# Exact decimals of scores

A finite score is written as the decimal that it is, without rounding.  Read by way
of double precision it is the same score again: the double holds it exactly.
-/

namespace EntitySearch.Numeric

namespace BinaryFormat

theorem units_lt {format : BinaryFormat} (precise : 0 < format.precision) {position : Nat}
    (finite : position < format.infinity) :
    format.units position < 2 ^ (format.precision + format.binades - 1) := by
  have size := two_mul_binadeSize precise
  have sizePositive := format.binadeSize_pos
  have isSize : format.binadeSize = 2 ^ (format.precision - 1) := rfl
  unfold units
  split
  case isTrue small =>
    rw [isSize] at small
    exact Nat.lt_of_lt_of_le small (Nat.pow_le_pow_right (by decide) (by omega))
  case isFalse large =>
    have inside := Nat.mod_lt position sizePositive
    have binade : position / format.binadeSize < format.binades + 1 :=
      (Nat.div_lt_iff_lt_mul sizePositive).2 finite
    have atLeast : 0 < position / format.binadeSize := Nat.div_pos (by omega) sizePositive
    calc
      (format.binadeSize + position % format.binadeSize) *
          Nat.pow 2 (position / format.binadeSize - 1)
      _ < 2 ^ format.precision * 2 ^ (position / format.binadeSize - 1) :=
          Nat.mul_lt_mul_of_pos_right (by omega) (Nat.pow_pos (by decide))
      _ = 2 ^ (format.precision + (position / format.binadeSize - 1)) := (Nat.pow_add _ _ _).symm
      _ ≤ 2 ^ (format.precision + format.binades - 1) :=
          Nat.pow_le_pow_right (by decide) (by omega)

theorem unitsOfOne_eq (format : BinaryFormat) : format.unitsOfOne = 2 ^ format.unitPlaces := rfl

theorem unitsOfOne_pos (format : BinaryFormat) : 0 < format.unitsOfOne :=
  Nat.pow_pos (by decide)

/-- No more bits of a member matter than the precision has. -/
theorem exists_leading_units {format : BinaryFormat} (precise : 0 < format.precision)
    (position : Nat) :
    ∃ leading shift, leading < 2 ^ format.precision ∧
      format.units position = leading * 2 ^ shift := by
  have size := two_mul_binadeSize precise
  have inside := Nat.mod_lt position format.binadeSize_pos
  unfold units
  split
  case isTrue small => exact ⟨position, 0, by omega, (Nat.mul_one position).symm⟩
  case isFalse large =>
    exact ⟨format.binadeSize + position % format.binadeSize, position / format.binadeSize - 1,
      by omega, rfl⟩

/-- A decimal within reach is rounded as a quotient. -/
theorem nearestDecimal_of_places {format : BinaryFormat} {coefficient places : Nat}
    (some : coefficient ≠ 0) (short : coefficient < 10 ^ format.decimalReach)
    (near : places ≤ format.decimalReach) :
    format.nearestDecimal coefficient (-(places : Int)) =
      format.nearest (coefficient * format.unitsOfOne) (10 ^ places) := by
  have reach : 0 < format.decimalReach := Nat.succ_pos _
  have atMost : digitCount coefficient ≤ format.decimalReach :=
    (Nat.length_toDigits_le_iff (by decide) reach).2 short
  have atLeast : 0 < digitCount coefficient := Nat.length_toDigits_pos
  have notAbove : ¬((digitCount coefficient : Int) + -(places : Int) > format.decimalReach) := by
    omega
  have notBelow : ¬((digitCount coefficient : Int) + -(places : Int) <
      -(format.decimalReach : Int)) := by
    omega
  have noPower : (-(places : Int)).toNat = 0 := by omega
  have power : (- -(places : Int)).toNat = places := by omega
  simp only [nearestDecimal, some, notAbove, notBelow, ite_false, noPower, power, Nat.pow_eq,
    Nat.pow_zero, Nat.mul_one]

end BinaryFormat

namespace Single

theorem cancelTwos_spec (places units : Nat) :
    (cancelTwos places units).2 ≤ places ∧
      (cancelTwos places units).1 * 2 ^ (places - (cancelTwos places units).2) = units := by
  induction places generalizing units with
  | zero => simp [cancelTwos]
  | succ places ih =>
      unfold cancelTwos
      split
      · rename_i even
        obtain ⟨fewer, same⟩ := ih (units / 2)
        refine ⟨by omega, ?_⟩
        rw [Nat.succ_sub fewer, Nat.pow_succ, ← Nat.mul_assoc, same]
        omega
      · simp

theorem ofMagnitude_eq (score : Single) : ofMagnitude score.negative score.magnitude = score := by
  simp [ofMagnitude, score.magnitude_lt]

/-- A number of units is rounded to the score that has them, whatever the common factor. -/
theorem ofUnits_units {score : Single} (finite : score.isFinite = true) {factor : Nat}
    (positive : 0 < factor) :
    ofUnits score.negative (score.units * factor) factor = score := by
  have isFinite : score.magnitude < BinaryFormat.single.infinity := of_decide_eq_true finite
  rw [ofUnits, units, BinaryFormat.nearest_units (by decide) isFinite positive, ofMagnitude_eq]

/-- Double precision holds every score exactly, on a scale of its own. -/
theorem units_double_nearest {score : Single} (finite : score.isFinite = true) {finer : Nat}
    (within : finer ≤ 925) {factor : Nat} (positive : 0 < factor) :
    BinaryFormat.double.nearest (score.units * 2 ^ finer * factor) factor <
        BinaryFormat.double.infinity ∧
      BinaryFormat.double.units
          (BinaryFormat.double.nearest (score.units * 2 ^ finer * factor) factor) =
        score.units * 2 ^ finer := by
  have isFinite : score.magnitude < BinaryFormat.single.infinity := of_decide_eq_true finite
  have precise : 0 < BinaryFormat.single.precision := by decide
  obtain ⟨leading, shift, short, isUnits⟩ :=
    BinaryFormat.exists_leading_units precise score.magnitude
  have bounded := BinaryFormat.units_lt precise isFinite
  rw [isUnits] at bounded
  have shifted : score.units * 2 ^ finer = leading * 2 ^ (shift + finer) := by
    rw [units, isUnits, Nat.pow_add, Nat.mul_assoc]
  have shorter : leading < 2 ^ BinaryFormat.double.precision :=
    Nat.lt_of_lt_of_le short (Nat.pow_le_pow_right (by decide) (by decide))
  have small : leading * 2 ^ (shift + finer) <
      2 ^ (BinaryFormat.double.precision + BinaryFormat.double.binades - 1) := by
    calc
      leading * 2 ^ (shift + finer) = leading * 2 ^ shift * 2 ^ finer := by
        rw [Nat.pow_add, Nat.mul_assoc]
      _ < 2 ^ (BinaryFormat.single.precision + BinaryFormat.single.binades - 1) * 2 ^ finer :=
        Nat.mul_lt_mul_of_pos_right bounded (Nat.pow_pos (by decide))
      _ = 2 ^ (BinaryFormat.single.precision + BinaryFormat.single.binades - 1 + finer) :=
        (Nat.pow_add _ _ _).symm
      _ ≤ 2 ^ (BinaryFormat.double.precision + BinaryFormat.double.binades - 1) := by
        refine Nat.pow_le_pow_right (by decide) ?_
        show 24 + 254 - 1 + finer ≤ 53 + 2046 - 1
        omega
  rw [shifted]
  exact BinaryFormat.units_nearest (by decide) shorter small positive

theorem coefficient_lt {score : Single} (finite : score.isFinite = true) {odd rest places : Nat}
    (isUnits : odd * 2 ^ rest = score.units) (few : places ≤ 149) :
    odd * 5 ^ places < 10 ^ BinaryFormat.double.decimalReach := by
  have isFinite : score.magnitude < BinaryFormat.single.infinity := of_decide_eq_true finite
  have precise : 0 < BinaryFormat.single.precision := by decide
  have bounded := BinaryFormat.units_lt precise isFinite
  obtain ⟨bits, isBits, fewBits⟩ :
      ∃ bits, BinaryFormat.single.precision + BinaryFormat.single.binades - 1 = bits ∧
        bits ≤ 277 := ⟨277, rfl, Nat.le_refl _⟩
  rw [isBits] at bounded
  have atMost : odd ≤ score.units := by
    rw [← isUnits]
    exact Nat.le_mul_of_pos_right odd (Nat.pow_pos (by decide))
  calc
    odd * 5 ^ places < 2 ^ bits * 5 ^ places :=
      Nat.mul_lt_mul_of_pos_right (Nat.lt_of_le_of_lt atMost bounded) (Nat.pow_pos (by decide))
    _ ≤ 10 ^ bits * 10 ^ places :=
      Nat.mul_le_mul (Nat.pow_le_pow_left (by decide) bits)
        (Nat.pow_le_pow_left (by decide) places)
    _ = 10 ^ (bits + places) := (Nat.pow_add _ _ _).symm
    _ ≤ 10 ^ BinaryFormat.double.decimalReach := by
      refine Nat.pow_le_pow_right (by decide) ?_
      show bits + places ≤ 1074 + 60
      omega

/-- A finite score is read back from its exact decimal. -/
theorem ofDoubleDecimal?_exactDecimal {score : Single} (finite : score.isFinite = true) :
    ofDoubleDecimal? score.negative score.exactDecimal.1 (-(score.exactDecimal.2 : Int)) =
      some score := by
  obtain ⟨fewPlaces, isUnits⟩ := cancelTwos_spec BinaryFormat.single.unitPlaces score.units
  have isDecimal : score.exactDecimal =
      ((cancelTwos BinaryFormat.single.unitPlaces score.units).1 *
          5 ^ (cancelTwos BinaryFormat.single.unitPlaces score.units).2,
        (cancelTwos BinaryFormat.single.unitPlaces score.units).2) := rfl
  rw [isDecimal]
  generalize (cancelTwos BinaryFormat.single.unitPlaces score.units).1 = odd at isUnits ⊢
  generalize (cancelTwos BinaryFormat.single.unitPlaces score.units).2 = places at *
  obtain ⟨finer, isFiner, within⟩ : ∃ finer, BinaryFormat.double.unitPlaces =
      BinaryFormat.single.unitPlaces + finer ∧ finer ≤ 925 := ⟨925, rfl, Nat.le_refl _⟩
  have doubleUnits := BinaryFormat.unitsOfOne_eq BinaryFormat.double
  rw [isFiner, Nat.pow_add, ← BinaryFormat.unitsOfOne_eq] at doubleUnits
  have scaled : score.units * 2 ^ finer * BinaryFormat.single.unitsOfOne =
      score.units * BinaryFormat.double.unitsOfOne := by
    rw [doubleUnits]
    ring
  have readBack := ofUnits_units finite (BinaryFormat.unitsOfOne_pos BinaryFormat.double)
  rcases Nat.eq_zero_or_pos odd with none | some
  · have noUnits : score.units = 0 := by rw [← isUnits, none, Nat.zero_mul]
    rw [noUnits, Nat.zero_mul] at readBack
    have zero : BinaryFormat.double.nearestDecimal (odd * 5 ^ places) (-(places : Int)) = 0 := by
      simp [none, BinaryFormat.nearestDecimal]
    have notInfinite : (0 : Nat) ≠ BinaryFormat.double.infinity := by decide
    have noDoubleUnits : BinaryFormat.double.units 0 = 0 := rfl
    simp only [ofDoubleDecimal?, zero, notInfinite, ite_false, noDoubleUnits, Nat.zero_mul,
      readBack]
  · have whole : odd * 5 ^ places * BinaryFormat.double.unitsOfOne =
        score.units * 2 ^ finer * 10 ^ places := by
      have split : BinaryFormat.single.unitsOfOne =
          2 ^ (BinaryFormat.single.unitPlaces - places) * 2 ^ places := by
        rw [← Nat.pow_add, Nat.sub_add_cancel fewPlaces]
        rfl
      have ten : 10 ^ places = 2 ^ places * 5 ^ places := (Nat.mul_pow 2 5 places)
      rw [doubleUnits, split, ten, ← isUnits]
      ring
    have notZero : odd * 5 ^ places ≠ 0 :=
      Nat.mul_ne_zero (Nat.ne_of_gt some) (Nat.ne_of_gt (Nat.pow_pos (by decide)))
    have near : places ≤ BinaryFormat.double.decimalReach :=
      Nat.le_trans fewPlaces (by decide)
    have rounded := BinaryFormat.nearestDecimal_of_places notZero
      (coefficient_lt finite isUnits fewPlaces) near
    rw [whole] at rounded
    have tenPositive : 0 < 10 ^ places := Nat.pow_pos (by decide)
    obtain ⟨notInfinite, sameUnits⟩ := units_double_nearest finite within tenPositive
    rw [← rounded] at notInfinite sameUnits
    simp only [ofDoubleDecimal?, Nat.ne_of_lt notInfinite, ite_false, sameUnits, scaled, readBack]

end Single

end EntitySearch.Numeric
