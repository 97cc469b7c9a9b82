import EntitySearch.Numeric.Single
import Mathlib.Tactic.Ring

/-!
# Exact members of a format

Rounding to a binary format leaves a value alone that is a member of the format,
whatever common factor its numerator and denominator have.  A number is a member
when few enough of its bits matter and it is not beyond the largest one.
-/

namespace EntitySearch.Numeric

namespace BinaryFormat

variable (format : BinaryFormat)

theorem binadeSize_pos : 0 < format.binadeSize :=
  Nat.pow_pos (by decide)

theorem two_mul_binadeSize {format : BinaryFormat} (precise : 0 < format.precision) :
    2 * format.binadeSize = 2 ^ format.precision := by
  obtain ⟨bits, same⟩ := Nat.exists_eq_succ_of_ne_zero (Nat.ne_of_gt precise)
  simp only [binadeSize, same, Nat.succ_sub_one, Nat.pow_eq, Nat.pow_succ]
  omega

theorem units_of_binade (binade place : Nat) (inside : place < format.binadeSize) :
    format.units ((binade + 1) * format.binadeSize + place) =
      (format.binadeSize + place) * 2 ^ binade := by
  have positive := format.binadeSize_pos
  have notSmall : ¬(binade + 1) * format.binadeSize + place < format.binadeSize := by
    rw [Nat.add_mul, Nat.one_mul]
    omega
  have quotient : ((binade + 1) * format.binadeSize + place) / format.binadeSize = binade + 1 := by
    rw [Nat.add_comm, Nat.add_mul_div_right _ _ positive, Nat.div_eq_of_lt inside]
    omega
  have remainder : ((binade + 1) * format.binadeSize + place) % format.binadeSize = place := by
    rw [Nat.add_comm, Nat.add_mul_mod_self_right, Nat.mod_eq_of_lt inside]
  rw [units, ite_cond_eq_false _ _ (eq_false notSmall), quotient, remainder, Nat.pow_eq,
    Nat.add_sub_cancel]

/-- A value with bits beyond the precision that do not matter is rounded to its leading
bits. -/
theorem nearest_of_shift {leading shift factor : Nat} (positive : 0 < factor)
    (isShift : (leading * 2 ^ shift).log2 + 1 - format.precision = shift) :
    format.nearest (leading * 2 ^ shift * factor) factor =
      min format.infinity (shift * format.binadeSize + leading) := by
  have sameShift : (leading * 2 ^ shift * factor / factor).log2 + 1 - format.precision = shift := by
    rw [Nat.mul_div_cancel _ positive]
    exact isShift
  have denominator : 0 < factor * 2 ^ shift := Nat.mul_pos positive (Nat.pow_pos (by decide))
  have numerator : leading * 2 ^ shift * factor = leading * (factor * 2 ^ shift) := by
    rw [Nat.mul_assoc, Nat.mul_comm (2 ^ shift)]
  simp only [nearest, sameShift, Nat.pow_eq]
  rw [numerator, roundHalfEven_mul_self _ _ denominator]

theorem log2_of_leading {format : BinaryFormat} (precise : 0 < format.precision) {leading : Nat}
    (full : format.binadeSize ≤ leading) (fits : leading < 2 * format.binadeSize) (shift : Nat) :
    (leading * 2 ^ shift).log2 + 1 - format.precision = shift := by
  have positive := format.binadeSize_pos
  have notZero : leading * 2 ^ shift ≠ 0 :=
    Nat.mul_ne_zero (by omega) (Nat.ne_of_gt (Nat.pow_pos (by decide)))
  have size : format.binadeSize = 2 ^ (format.precision - 1) := rfl
  have exactly : (leading * 2 ^ shift).log2 = format.precision - 1 + shift := by
    rw [Nat.log2_eq_iff notZero]
    constructor
    · rw [Nat.pow_add, ← size]
      exact Nat.mul_le_mul_right _ full
    · have upper : 2 ^ (format.precision - 1 + shift + 1) =
          2 * format.binadeSize * 2 ^ shift := by
        rw [size, Nat.pow_succ, Nat.pow_add]
        ring
      rw [upper]
      exact Nat.mul_lt_mul_of_pos_right fits (Nat.pow_pos (by decide))
  omega

/-- Rounding leaves the members of a format alone. -/
theorem nearest_units {format : BinaryFormat} (precise : 0 < format.precision) {position : Nat}
    (finite : position < format.infinity) {factor : Nat} (positive : 0 < factor) :
    format.nearest (format.units position * factor) factor = position := by
  have size := format.binadeSize_pos
  rcases Nat.lt_or_ge position format.binadeSize with small | large
  · have isUnits : format.units position = position * 2 ^ 0 := by
      rw [units, ite_cond_eq_true _ _ (eq_true small), Nat.pow_zero, Nat.mul_one]
    have isShift : (position * 2 ^ 0).log2 + 1 - format.precision = 0 := by
      rw [Nat.pow_zero, Nat.mul_one]
      rcases Nat.eq_zero_or_pos position with zero | some
      · rw [zero, Nat.log2_zero]
        omega
      · have below := (Nat.log2_lt (Nat.ne_of_gt some)).2 small
        omega
    rw [isUnits, format.nearest_of_shift positive isShift]
    omega
  · obtain ⟨binade, isBinade⟩ : ∃ binade, position / format.binadeSize = binade + 1 :=
      Nat.exists_eq_succ_of_ne_zero (Nat.ne_of_gt (Nat.div_pos large size))
    have inside := Nat.mod_lt position size
    have split : position =
        (binade + 1) * format.binadeSize + position % format.binadeSize := by
      have whole := Nat.div_add_mod position format.binadeSize
      rw [isBinade, Nat.mul_comm] at whole
      exact whole.symm
    have isUnits : format.units position =
        (format.binadeSize + position % format.binadeSize) * 2 ^ binade := by
      rw [split, format.units_of_binade binade _ inside, ← split]
    have isShift := log2_of_leading precise
      (Nat.le_add_right format.binadeSize (position % format.binadeSize)) (by omega) binade
    rw [isUnits, format.nearest_of_shift positive isShift]
    have sameSum : binade * format.binadeSize +
        (format.binadeSize + position % format.binadeSize) = position := by
      rw [Nat.add_mul, Nat.one_mul] at split
      omega
    rw [sameSum]
    omega

theorem units_nearest_of_lt {format : BinaryFormat} (precise : 0 < format.precision)
    {value : Nat} (short : value < 2 ^ format.precision) (finite : value < format.infinity)
    {factor : Nat} (positive : 0 < factor) :
    format.nearest (value * factor) factor < format.infinity ∧
      format.units (format.nearest (value * factor) factor) = value := by
  have size := two_mul_binadeSize precise
  have isShift : (value * 2 ^ 0).log2 + 1 - format.precision = 0 := by
    rw [Nat.pow_zero, Nat.mul_one]
    rcases Nat.eq_zero_or_pos value with zero | some
    · rw [zero, Nat.log2_zero]
      omega
    · have below := (Nat.log2_lt (Nat.ne_of_gt some)).2 short
      omega
  have rounded := format.nearest_of_shift positive isShift
  rw [Nat.pow_zero, Nat.mul_one, Nat.zero_mul, Nat.zero_add,
    Nat.min_eq_right (Nat.le_of_lt finite)] at rounded
  rw [rounded]
  refine ⟨finite, ?_⟩
  rcases Nat.lt_or_ge value format.binadeSize with small | large
  · rw [units, ite_cond_eq_true _ _ (eq_true small)]
  · have split : value = (0 + 1) * format.binadeSize + (value - format.binadeSize) := by omega
    rw [split, format.units_of_binade 0 _ (by omega), Nat.pow_zero]
    omega

/-- A number with few enough bits that matter and not too large is a member of the format. -/
theorem units_nearest {format : BinaryFormat} (precise : 0 < format.precision)
    {leading shift : Nat} (short : leading < 2 ^ format.precision)
    (bounded : leading * 2 ^ shift < 2 ^ (format.precision + format.binades - 1)) {factor : Nat}
    (positive : 0 < factor) :
    format.nearest (leading * 2 ^ shift * factor) factor < format.infinity ∧
      format.units (format.nearest (leading * 2 ^ shift * factor) factor) =
        leading * 2 ^ shift := by
  have size := two_mul_binadeSize precise
  have sizePositive := format.binadeSize_pos
  rcases Nat.lt_or_ge (leading * 2 ^ shift) (2 ^ format.precision) with small | large
  · refine units_nearest_of_lt precise small ?_ positive
    rcases Nat.eq_zero_or_pos format.binades with none | some
    · rw [none] at bounded
      simpa [infinity, none, binadeSize] using bounded
    · have atLeastTwo : 2 * format.binadeSize ≤ format.infinity :=
        Nat.mul_le_mul_right _ (by omega)
      omega
  · -- The leading bits of the number fill the precision once it is shifted down.
    have notZero : leading * 2 ^ shift ≠ 0 := by
      have := Nat.pow_pos (n := format.precision) (show 0 < 2 by decide)
      omega
    have lower := Nat.log2_self_le notZero
    have upper : leading * 2 ^ shift < 2 ^ ((leading * 2 ^ shift).log2 + 1) := Nat.lt_log2_self
    have atLeast : format.precision ≤ (leading * 2 ^ shift).log2 :=
      (Nat.le_log2 notZero).2 large
    have atMost : (leading * 2 ^ shift).log2 < format.precision + format.binades - 1 :=
      (Nat.log2_lt notZero).2 bounded
    have belowShift : (leading * 2 ^ shift).log2 < format.precision + shift := by
      rw [Nat.log2_lt notZero, Nat.pow_add]
      exact Nat.mul_lt_mul_of_pos_right short (Nat.pow_pos (by decide))
    obtain ⟨top, isTop⟩ : ∃ top, (leading * 2 ^ shift).log2 + 1 = format.precision + top :=
      ⟨(leading * 2 ^ shift).log2 + 1 - format.precision, by omega⟩
    obtain ⟨rest, isRest⟩ : ∃ rest, shift = rest + top := ⟨shift - top, by omega⟩
    have shifted : leading * 2 ^ shift = leading * 2 ^ rest * 2 ^ top := by
      rw [isRest, Nat.pow_add, Nat.mul_assoc]
    have topPositive : 0 < 2 ^ top := Nat.pow_pos (by decide)
    have full : format.binadeSize ≤ leading * 2 ^ rest := by
      have isLower : (leading * 2 ^ shift).log2 = format.precision - 1 + top := by omega
      rw [isLower, shifted, Nat.pow_add] at lower
      exact Nat.le_of_mul_le_mul_right lower topPositive
    have fits : leading * 2 ^ rest < 2 * format.binadeSize := by
      rw [isTop, shifted, Nat.pow_add, ← size] at upper
      exact Nat.lt_of_mul_lt_mul_right upper
    have rounded := format.nearest_of_shift positive (log2_of_leading precise full fits top)
    have split : top * format.binadeSize + leading * 2 ^ rest =
        (top + 1) * format.binadeSize + (leading * 2 ^ rest - format.binadeSize) := by
      rw [Nat.add_mul, Nat.one_mul]
      omega
    have finite : (top + 1) * format.binadeSize + (leading * 2 ^ rest - format.binadeSize) <
        format.infinity := by
      have enough : (top + 2) * format.binadeSize ≤ format.infinity :=
        Nat.mul_le_mul_right _ (by omega)
      rw [Nat.add_mul] at enough ⊢
      omega
    rw [split, Nat.min_eq_right (Nat.le_of_lt finite)] at rounded
    rw [shifted, rounded]
    refine ⟨finite, ?_⟩
    rw [format.units_of_binade top _ (by omega)]
    congr 1
    omega

end BinaryFormat

end EntitySearch.Numeric
