import EntitySearch.Json.Reader
import EntitySearch.Json.Writer

/-!
# Laws of written numbers

A written number is read back as it was, with its point among the digits or with an
exponent behind them, provided that the text that follows cannot belong to it.
-/

namespace EntitySearch

/-- Nothing at the front of the text can belong to a number before it. -/
def EndsNumber (rest : List Char) : Prop :=
  ∀ character ∈ rest.head?,
    character.isDigit = false ∧ character ≠ '.' ∧ character ≠ 'e' ∧ character ≠ 'E'

theorem endsNumber_nil : EndsNumber [] := by
  intro character inside
  cases inside

theorem endsNumber_comma (rest : List Char) : EndsNumber (',' :: rest) := by
  intro character inside
  cases inside
  decide

theorem endsNumber_bracket (rest : List Char) : EndsNumber (']' :: rest) := by
  intro character inside
  cases inside
  decide

theorem endsNumber_brace (rest : List Char) : EndsNumber ('\x7d' :: rest) := by
  intro character inside
  cases inside
  decide

def AreDigits (digits : List Char) : Prop :=
  ∀ digit ∈ digits, digit.isDigit = true

theorem areDigits_toDigits (value : Nat) : AreDigits (Nat.toDigits 10 value) :=
  fun _ inside => Nat.isDigit_of_mem_toDigits (by decide) (by decide) inside

/-- The digits before a point: a zero, or digits that do not begin with one. -/
def IsWhole (digits : List Char) : Prop :=
  ∃ first others, digits = first :: others ∧ first.isDigit = true ∧ AreDigits others ∧
    (others ≠ [] → first ≠ '0')

/-- The digits of a number begin with a digit, and only those of zero with a zero. -/
theorem isWhole_toDigits (value : Nat) : IsWhole (Nat.toDigits 10 value) := by
  have digits := areDigits_toDigits value
  suffices begins : ∃ first others, Nat.toDigits 10 value = first :: others ∧
      (others ≠ [] → first ≠ '0') by
    obtain ⟨first, others, written, notZero⟩ := begins
    rw [written] at digits
    exact ⟨first, others, written, digits first List.mem_cons_self,
      fun digit inside => digits digit (List.mem_cons_of_mem _ inside), notZero⟩
  clear digits
  induction value using Nat.strongRecOn with
  | ind value ih =>
      rcases Nat.lt_or_ge value 10 with small | large
      · exact ⟨Nat.digitChar value, [], Nat.toDigits_of_lt_base small, by simp⟩
      · obtain ⟨first, others, written, notZero⟩ := ih (value / 10) (by omega)
        refine ⟨first, others ++ [Nat.digitChar (value % 10)], ?_, fun _ isZero => ?_⟩
        · rw [Nat.toDigits_of_base_le (by decide) large, written]
          rfl
        · have noOthers : others = [] :=
            Decidable.byContradiction fun some => notZero some isZero
          rw [noOthers, isZero] at written
          have reads := Nat.ofDigitChars_ten_toDigits (n := value / 10)
          rw [written] at reads
          have none : (0 : Nat) = _ := reads
          omega

theorem areDigits_padded {digits : List Char} (areDigits : AreDigits digits) (zeros : Nat) :
    AreDigits (List.replicate zeros '0' ++ digits) := by
  intro digit inside
  rcases List.mem_append.1 inside with isZero | isOther
  · rw [List.eq_of_mem_replicate isZero]
    decide
  · exact areDigits digit isOther

theorem IsWhole.take {digits : List Char} (isWhole : IsWhole digits) {count : Nat}
    (some : 0 < count) : IsWhole (digits.take count) := by
  obtain ⟨first, others, rfl, isDigit, areDigits, notZero⟩ := isWhole
  obtain ⟨before, rfl⟩ := Nat.exists_eq_add_of_lt some
  rw [Nat.zero_add, List.take_succ_cons]
  refine ⟨first, _, rfl, isDigit, fun digit inside =>
    areDigits digit (List.mem_of_mem_take inside), fun someBefore => notZero ?_⟩
  rintro rfl
  exact someBefore List.take_nil

/-- Before the last `count` characters of padded digits stand digits of the number, or a zero. -/
theorem isWhole_take_padded {digits : List Char} (isWhole : IsWhole digits) (count : Nat) :
    IsWhole ((List.replicate (count + 1 - digits.length) '0' ++ digits).take
      ((List.replicate (count + 1 - digits.length) '0' ++ digits).length - count)) := by
  rcases Nat.lt_or_ge count digits.length with reaches | short
  · have noZeros : count + 1 - digits.length = 0 := by omega
    rw [noZeros, List.replicate_zero, List.nil_append]
    exact isWhole.take (Nat.sub_pos_of_lt reaches)
  · have one : (List.replicate (count + 1 - digits.length) '0' ++ digits).length - count = 1 := by
      rw [List.length_append, List.length_replicate]
      omega
    obtain ⟨zeros, isZeros⟩ : ∃ zeros, count + 1 - digits.length = zeros + 1 :=
      ⟨count - digits.length, by omega⟩
    rw [one, isZeros, List.replicate_succ]
    exact ⟨'0', [], rfl, by decide, by simp [AreDigits], by simp⟩

namespace Json

theorem digitsValue_toDigits (value : Nat) : digitsValue (Nat.toDigits 10 value) = value :=
  Nat.ofDigitChars_ten_toDigits

theorem digitsValue_zeros (count : Nat) (digits : List Char) :
    digitsValue (List.replicate count '0' ++ digits) = digitsValue digits := by
  induction count with
  | zero => rfl
  | succ count ih => exact ih

theorem spanDigits_append {digits rest : List Char} (areDigits : AreDigits digits)
    (ends : ∀ character ∈ rest.head?, character.isDigit = false) :
    spanDigits (digits ++ rest) = (digits, rest) := by
  rw [spanDigits, List.takeWhile_append_of_pos areDigits, List.dropWhile_append_of_pos areDigits]
  cases rest with
  | nil => simp
  | cons character rest =>
      have notDigit := ends character rfl
      rw [List.takeWhile_cons_of_neg (by simp [notDigit]),
        List.dropWhile_cons_of_neg (by simp [notDigit]), List.append_nil]

theorem wholePart?_append {whole rest : List Char} (isWhole : IsWhole whole)
    (ends : ∀ character ∈ rest.head?, character.isDigit = false) :
    wholePart? (whole ++ rest) = some (whole, rest) := by
  obtain ⟨first, others, rfl, isDigit, areDigits, notZero⟩ := isWhole
  rw [wholePart?, spanDigits_append (List.forall_mem_cons.2 ⟨isDigit, areDigits⟩) ends]
  split
  · rename_i same
    cases same
  · rename_i same
    cases same
    exact absurd rfl (notZero (by simp))
  · rfl

theorem fractionPart?_of_ne {source : List Char}
    (noPoint : ∀ character ∈ source.head?, character ≠ '.') :
    fractionPart? source = some (none, source) := by
  unfold fractionPart?
  split
  · exact absurd rfl (noPoint '.' rfl)
  · rfl

theorem fractionPart?_point {fraction rest : List Char} (areDigits : AreDigits fraction)
    (some : fraction ≠ []) (ends : ∀ character ∈ rest.head?, character.isDigit = false) :
    fractionPart? ('.' :: (fraction ++ rest)) = .some (.some fraction, rest) := by
  rw [fractionPart?, spanDigits_append areDigits ends]
  split
  · rename_i same
    exact absurd (Prod.mk.inj same).1 some
  · rename_i same
    cases same
    rfl

theorem exponentPart?_of_ends {rest : List Char} (ends : EndsNumber rest) :
    exponentPart? rest = some (none, rest) := by
  cases rest with
  | nil => rfl
  | cons character rest =>
      obtain ⟨_, _, notSmall, notLarge⟩ := ends character rfl
      simp [exponentPart?, notSmall, notLarge]

theorem exponentPart?_write (exponent : Int) {rest : List Char} (ends : EndsNumber rest) :
    exponentPart? ('e' :: (JsonNumber.sign (exponent < 0) ++
      (Nat.toDigits 10 exponent.natAbs ++ rest))) = some (some exponent, rest) := by
  have span := spanDigits_append (areDigits_toDigits exponent.natAbs) fun character inside =>
    (ends character inside).1
  obtain ⟨first, others, written, isDigit, _⟩ := isWhole_toDigits exponent.natAbs
  have value := digitsValue_toDigits exponent.natAbs
  rw [written] at span value ⊢
  rw [List.cons_append] at span
  rcases Int.lt_or_le exponent 0 with below | notBelow
  · have isNegated : -(exponent.natAbs : Int) = exponent := by omega
    simp only [exponentPart?, JsonNumber.sign, below, decide_true, if_true, List.cons_append,
      List.nil_append, span, value, isNegated]
    rfl
  · have notMinus : first ≠ '-' := by
      rintro rfl
      exact absurd isDigit (by decide)
    have notPlus : first ≠ '+' := by
      rintro rfl
      exact absurd isDigit (by decide)
    have isItself : (exponent.natAbs : Int) = exponent := by omega
    simp [exponentPart?, JsonNumber.sign, Int.not_lt.2 notBelow, notMinus, notPlus, span, value,
      isItself]

variable (negative : Bool)

theorem isE_of_mem_head {tail : List Char} {character : Char}
    (inside : character ∈ ('e' :: tail).head?) :
    character.isDigit = false ∧ character ≠ '.' := by
  cases inside
  decide

theorem readUnsigned?_integer (value : Nat) {rest : List Char} (ends : EndsNumber rest) :
    readUnsigned? negative (Nat.toDigits 10 value ++ rest) =
      some (.integer negative value, rest) := by
  have whole := wholePart?_append (isWhole_toDigits value) fun character inside =>
    (ends character inside).1
  have fraction := fractionPart?_of_ne fun character inside => (ends character inside).2.1
  simp [readUnsigned?, whole, fraction, exponentPart?_of_ends ends, numberOfParts,
    digitsValue_toDigits]

/-- A number with an exponent alone has its places from the exponent. -/
theorem readUnsigned?_exponent {whole tail rest : List Char} {exponent : Int}
    (isWhole : IsWhole whole)
    (readTail : exponentPart? ('e' :: tail) = some (some exponent, rest)) :
    readUnsigned? negative (whole ++ 'e' :: tail) =
      some (.decimal negative (digitsValue whole) exponent, rest) := by
  have readWhole : wholePart? (whole ++ 'e' :: tail) = some (whole, 'e' :: tail) :=
    wholePart?_append isWhole fun character inside => (isE_of_mem_head inside).1
  have fraction : fractionPart? ('e' :: tail) = some (none, 'e' :: tail) :=
    fractionPart?_of_ne fun character inside => (isE_of_mem_head inside).2
  simp [readUnsigned?, readWhole, fraction, readTail, numberOfParts]

/-- A number with a point has as many places as digits stand behind the point. -/
theorem readUnsigned?_point {whole fraction tail rest : List Char} {exponent : Option Int}
    (isWhole : IsWhole whole) (areDigits : AreDigits fraction) (some : fraction ≠ [])
    (ends : ∀ character ∈ tail.head?, character.isDigit = false)
    (readTail : exponentPart? tail = .some (exponent, rest)) :
    readUnsigned? negative (whole ++ '.' :: (fraction ++ tail)) =
      .some (.decimal negative (digitsValue (whole ++ fraction))
        (exponent.getD 0 - fraction.length), rest) := by
  have readWhole : wholePart? (whole ++ '.' :: (fraction ++ tail)) =
      .some (whole, '.' :: (fraction ++ tail)) := by
    refine wholePart?_append isWhole fun character inside => ?_
    cases inside
    decide
  simp [readUnsigned?, readWhole, fractionPart?_point areDigits some ends, readTail,
    numberOfParts]

end Json

namespace Numeric.Decimal

/-- Without an exponent, the digits stand on both sides of the point, zeros before them where
they do not reach it. -/
theorem plain_eq {decimal : Decimal} (places : decimal.exponent < 0) :
    ∃ whole fraction, decimal.plain = whole ++ '.' :: fraction ∧ IsWhole whole ∧
      AreDigits fraction ∧ (fraction.length : Int) = -decimal.exponent ∧
      Json.digitsValue (whole ++ fraction) = decimal.coefficient := by
  obtain ⟨count, isCount⟩ : ∃ count : Nat, decimal.exponent = -(count : Int) :=
    ⟨decimal.exponent.natAbs, by omega⟩
  have notWhole : ¬0 ≤ decimal.exponent := by omega
  have sameCount : (-decimal.exponent).toNat = count := by omega
  have whole := isWhole_take_padded (isWhole_toDigits decimal.coefficient) count
  have padded := areDigits_padded (areDigits_toDigits decimal.coefficient)
    (count + 1 - (Nat.toDigits 10 decimal.coefficient).length)
  simp only [plain, notWhole, ite_false, sameCount]
  refine ⟨_, _, rfl, whole, fun digit inside => padded digit (List.mem_of_mem_drop inside), ?_, ?_⟩
  · rw [List.length_drop, List.length_append, List.length_replicate]
    omega
  · rw [List.take_append_drop, Json.digitsValue_zeros, Json.digitsValue_toDigits]

end Numeric.Decimal

namespace Json

variable (negative : Bool)

theorem readUnsigned?_plain {decimal : Numeric.Decimal} (places : decimal.exponent < 0)
    {rest : List Char} (ends : EndsNumber rest) :
    readUnsigned? negative (decimal.plain ++ rest) =
      some (.decimal negative decimal.coefficient decimal.exponent, rest) := by
  obtain ⟨whole, fraction, written, isWhole, areDigits, count, value⟩ :=
    Numeric.Decimal.plain_eq places
  have notEmpty : fraction ≠ [] := by
    rintro rfl
    rw [List.length_nil] at count
    omega
  have readBack := readUnsigned?_point negative isWhole areDigits notEmpty
    (fun character inside => (ends character inside).1) (exponentPart?_of_ends ends)
  have isExponent : (Option.none : Option Int).getD 0 - (fraction.length : Int) =
      decimal.exponent := by
    rw [Option.getD_none]
    omega
  rw [written, List.append_assoc, List.cons_append, readBack, value, isExponent]

theorem readUnsigned?_scientific (decimal : Numeric.Decimal) {rest : List Char}
    (ends : EndsNumber rest) :
    readUnsigned? negative (JsonNumber.writeScientific decimal ++ rest) =
      some (.decimal negative decimal.coefficient decimal.exponent, rest) := by
  have readExponent := exponentPart?_write (decimal.point - 1) ends
  obtain ⟨first, others, written, isDigit, areDigits, _⟩ := isWhole_toDigits decimal.coefficient
  have value := digitsValue_toDigits decimal.coefficient
  have isPoint : decimal.point = (first :: others).length + decimal.exponent := by
    rw [Numeric.Decimal.point, Numeric.digitCount, written]
  have wholeFirst : IsWhole [first] :=
    ⟨first, [], rfl, isDigit, by simp [AreDigits], by simp⟩
  rw [JsonNumber.writeScientific, List.append_assoc, List.append_assoc, List.cons_append, written]
  rw [written] at value
  cases others with
  | nil =>
      have sameExponent : decimal.point - 1 = decimal.exponent := by
        rw [isPoint, List.length_singleton]
        omega
      have readBack := readUnsigned?_exponent negative wholeFirst readExponent
      rw [value, sameExponent] at readBack
      rw [sameExponent]
      exact readBack
  | cons second others =>
      have sameExponent : (some (decimal.point - 1)).getD 0 - ((second :: others).length : Int) =
          decimal.exponent := by
        rw [isPoint, Option.getD_some, List.length_cons]
        omega
      have readBack := readUnsigned?_point negative wholeFirst areDigits (by simp)
        (fun character inside => (isE_of_mem_head inside).1) readExponent
      rw [sameExponent, List.singleton_append, List.singleton_append, value] at readBack
      exact readBack

theorem readNumber?_of_digit {first : Char} (isDigit : first.isDigit = true)
    (source : List Char) :
    readNumber? (first :: source) = readUnsigned? false (first :: source) := by
  unfold readNumber?
  split
  · rename_i same
    cases same
    exact absurd isDigit (by decide)
  · rfl

/-- A number that begins with a digit is read with or without a sign before it. -/
theorem readNumber?_sign {number : JsonNumber} {text rest : List Char}
    (begins : ∃ first others, text = first :: others ∧ first.isDigit = true)
    (unsigned : readUnsigned? negative (text ++ rest) = some (number, rest)) :
    readNumber? (JsonNumber.sign negative ++ text ++ rest) = some (number, rest) := by
  cases negative with
  | true => exact unsigned
  | false =>
      obtain ⟨first, others, rfl, isDigit⟩ := begins
      exact (readNumber?_of_digit isDigit _).trans unsigned

end Json

namespace JsonNumber

theorem writeDecimal_eq_cons (decimal : Numeric.Decimal) :
    ∃ first others, writeDecimal decimal = first :: others ∧ first.isDigit = true := by
  unfold writeDecimal
  split
  · rename_i isPlain
    have places : decimal.exponent < 0 := by
      simp only [JsonNumber.isPlain, Bool.and_eq_true, decide_eq_true_eq] at isPlain
      exact isPlain.1.1
    obtain ⟨_, fraction, written, ⟨first, others, rfl, isDigit, _⟩, _⟩ :=
      Numeric.Decimal.plain_eq places
    exact ⟨first, others ++ '.' :: fraction, written, isDigit⟩
  · obtain ⟨first, others, written, isDigit, _⟩ := isWhole_toDigits decimal.coefficient
    rw [writeScientific, written]
    cases others with
    | nil => exact ⟨first, _, rfl, isDigit⟩
    | cons second others => exact ⟨first, _, rfl, isDigit⟩

theorem readNumber?_write (number : JsonNumber) {rest : List Char} (ends : EndsNumber rest) :
    Json.readNumber? (number.write ++ rest) = some (number, rest) := by
  cases number with
  | integer negative value =>
      obtain ⟨first, others, written, isDigit, _⟩ := isWhole_toDigits value
      exact Json.readNumber?_sign negative ⟨first, others, written, isDigit⟩
        (Json.readUnsigned?_integer negative value ends)
  | decimal negative coefficient exponent =>
      refine Json.readNumber?_sign negative (writeDecimal_eq_cons _) ?_
      unfold writeDecimal
      split
      · rename_i isPlain
        simp only [JsonNumber.isPlain, Bool.and_eq_true, decide_eq_true_eq] at isPlain
        exact Json.readUnsigned?_plain negative isPlain.1.1 ends
      · exact Json.readUnsigned?_scientific negative _ ends

theorem write_eq_cons (number : JsonNumber) :
    ∃ first others, number.write = first :: others ∧ (first = '-' ∨ first.isDigit = true) := by
  have signed : ∀ (negative : Bool) {text : List Char},
      (∃ first others, text = first :: others ∧ first.isDigit = true) →
        ∃ first others, sign negative ++ text = first :: others ∧
          (first = '-' ∨ first.isDigit = true) := by
    rintro negative _ ⟨first, others, rfl, isDigit⟩
    cases negative with
    | true => exact ⟨'-', _, rfl, Or.inl rfl⟩
    | false => exact ⟨first, others, rfl, Or.inr isDigit⟩
  cases number with
  | integer negative value =>
      obtain ⟨first, others, written, isDigit, _⟩ := isWhole_toDigits value
      exact signed negative ⟨first, others, written, isDigit⟩
  | decimal negative coefficient exponent => exact signed negative (writeDecimal_eq_cons _)

end JsonNumber

end EntitySearch
