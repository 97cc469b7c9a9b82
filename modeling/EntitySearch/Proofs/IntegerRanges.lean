import EntitySearch.Proofs.AlikePlans
import EntitySearch.Proofs.CheckedRanges
import EntitySearch.Proofs.PrintedQueries
import EntitySearch.Proofs.QuotedSearches

/-!
# Integer ranges

A range on a field of numbers is an interval of integers with both its ends, as
long as the bounds are numbers of the field.  An integer that is no number of the
field is refused as a bound, however clear the interval is: no field of unsigned
numbers takes a minus sign, and no field of signed numbers what is above the
greatest of them.
-/

namespace EntitySearch

/-! ### Integers in texts -/

namespace Text

/-- The integer that a text denotes, whatever its size is. -/
def integer? : List Char → Option Int
  | '-' :: digits => (natural? digits).map fun value : Nat => -(value : Int)
  | '+' :: digits => (natural? digits).map fun value : Nat => (value : Int)
  | digits => (natural? digits).map fun value : Nat => (value : Int)

theorem natural?_of_not_isDigit {sign : Char} (noDigit : sign.isDigit = false)
    (digits : List Char) : natural? (sign :: digits) = none := by
  simp [natural?, digitsValue?, noDigit]

theorem ofNat_eq_some_iff {value : Nat} {number : UInt64} :
    (if value < UInt64.size then some (UInt64.ofNat value) else none) = some number ↔
      (value : Int) = number.toNat := by
  constructor
  · intro made
    split at made
    case isTrue small =>
      cases made
      rw [UInt64.toNat_ofNat_of_lt' small]
    case isFalse => cases made
  · intro same
    have value_eq : value = number.toNat := Int.ofNat_inj.1 same
    rw [value_eq, if_pos (UInt64.toNat_lt_size number), UInt64.ofNat_toNat]

theorem ofInt_eq_some_iff {value : Int} {number : Int64} (holds : Prop) [Decidable holds]
    (small : holds ↔ -2 ^ 63 ≤ value ∧ value < 2 ^ 63) :
    (if holds then some (Int64.ofInt value) else none) = some number ↔ value = number.toInt := by
  constructor
  · intro made
    split at made
    case isTrue isSmall =>
      cases made
      rw [Int64.toInt_ofInt_of_le (small.1 isSmall).1 (small.1 isSmall).2]
    case isFalse => cases made
  · rintro rfl
    rw [if_pos (small.2 ⟨number.le_toInt, number.toInt_lt⟩), Int64.ofInt_toInt]

theorem unsigned?_eq_some_iff {text : List Char} {number : UInt64} :
    unsigned? text = some number ↔
      text.head? ≠ some '-' ∧ integer? text = some (number.toNat : Int) := by
  fun_cases integer? text
  case case1 digits =>
    have noNumber := natural?_of_not_isDigit (show '-'.isDigit = false by decide) digits
    simp [unsigned?, noNumber]
  case case2 digits =>
    simp only [unsigned?]
    cases natural? digits with
    | none => simp
    | some value => simpa using ofNat_eq_some_iff
  case case3 notMinus notPlus =>
    have unsigned : text.head? ≠ some '-' := by
      intro minus
      obtain ⟨digits, same⟩ := List.head?_eq_some_iff.1 minus
      exact notMinus digits same
    rw [unsigned?]
    · cases natural? text with
      | none => simp
      | some value => simpa [unsigned] using ofNat_eq_some_iff
    · exact notPlus

theorem signed?_eq_some_iff {text : List Char} {number : Int64} :
    signed? text = some number ↔ integer? text = some number.toInt := by
  have size : UInt64.size / 2 = 2 ^ 63 := by decide
  have negative (value : Nat) :
      value ≤ UInt64.size / 2 ↔ -2 ^ 63 ≤ -(value : Int) ∧ -(value : Int) < 2 ^ 63 := by
    omega
  have positive (value : Nat) :
      value < UInt64.size / 2 ↔ -2 ^ 63 ≤ (value : Int) ∧ (value : Int) < 2 ^ 63 := by
    omega
  fun_cases integer? text
  case case1 digits =>
    simp only [signed?]
    cases natural? digits with
    | none => simp
    | some value => exact (ofInt_eq_some_iff _ (negative value)).trans Option.some_inj.symm
  case case2 digits =>
    simp only [signed?]
    cases natural? digits with
    | none => simp
    | some value => exact (ofInt_eq_some_iff _ (positive value)).trans Option.some_inj.symm
  case case3 notMinus notPlus =>
    rw [signed?]
    · cases natural? text with
      | none => simp
      | some value => exact (ofInt_eq_some_iff _ (positive value)).trans Option.some_inj.symm
    · exact notMinus
    · exact notPlus

end Text

/-! ### Bounds -/

/-- The integer that a value is in a field of numbers. -/
def FieldClass.integer? : FieldClass → FieldValue → Option Int
  | .unsigned, .unsigned number => some number.toNat
  | .signed, .signed number => some number.toInt
  | _, _ => none

theorem fitsTerm_of_integer? {fieldClass : FieldClass} {value : FieldValue} {number : Int}
    (isNumber : fieldClass.integer? value = some number) : value.fitsTerm = true := by
  cases fieldClass <;> cases value <;> first | rfl | cases isNumber

/-- The integers that are numbers of a field, as they are written. -/
def FieldClass.Admits (fieldClass : FieldClass) (written : List Char) (value : Int) : Prop :=
  match fieldClass with
  | .unsigned => written.head? ≠ some '-' ∧ 0 ≤ value ∧ value < 2 ^ 64
  | .signed => -2 ^ 63 ≤ value ∧ value < 2 ^ 63
  | _ => False

/-- The bound is an asterisk, or an integer that is a number of the field. -/
inductive FieldClass.HasBound (fieldClass : FieldClass) (written : List Char) :
    Option Int → Prop
  | asterisk (isAsterisk : written = ['*']) : HasBound fieldClass written none
  | integer {value : Int} (notAsterisk : written ≠ ['*'])
      (denotes : Text.integer? (Text.trimBlanks written) = some value)
      (admitted : fieldClass.Admits (Text.trimBlanks written) value) :
      HasBound fieldClass written (some value)

namespace Translator

open Query QueryPlan

variable {written : List Char}

theorem unsigned_admits_iff (field : String) {value : Int} :
    Text.integer? (Text.trimBlanks written) = some value ∧
        FieldClass.unsigned.Admits (Text.trimBlanks written) value ↔
      ∃ number : UInt64, unsignedIn field written = .ok number ∧ (number.toNat : Int) = value := by
  have reads (number : UInt64) : unsignedIn field written = .ok number ↔
      Text.unsigned? (Text.trimBlanks written) = some number := by
    unfold unsignedIn
    cases Text.unsigned? (Text.trimBlanks written) <;> simp
  constructor
  · rintro ⟨denotes, unsigned, positive, small⟩
    have same : ((UInt64.ofNat value.toNat).toNat : Int) = value := by
      have fits : value.toNat < UInt64.size := by
        rw [show UInt64.size = 2 ^ 64 from rfl]
        omega
      rw [UInt64.toNat_ofNat_of_lt' fits, Int.toNat_of_nonneg positive]
    exact ⟨UInt64.ofNat value.toNat,
      (reads _).2 (Text.unsigned?_eq_some_iff.2 ⟨unsigned, same.symm ▸ denotes⟩), same⟩
  · rintro ⟨number, made, rfl⟩
    obtain ⟨unsigned, denotes⟩ := Text.unsigned?_eq_some_iff.1 ((reads number).1 made)
    have small := number.toNat_lt
    exact ⟨denotes, unsigned, by omega, by omega⟩

theorem signed_admits_iff (field : String) {value : Int} :
    Text.integer? (Text.trimBlanks written) = some value ∧
        FieldClass.signed.Admits (Text.trimBlanks written) value ↔
      ∃ number : Int64, signedIn field written = .ok number ∧ number.toInt = value := by
  have reads (number : Int64) : signedIn field written = .ok number ↔
      Text.signed? (Text.trimBlanks written) = some number := by
    unfold signedIn
    cases Text.signed? (Text.trimBlanks written) <;> simp
  constructor
  · rintro ⟨denotes, above, below⟩
    have same : (Int64.ofInt value).toInt = value := Int64.toInt_ofInt_of_le above below
    exact ⟨Int64.ofInt value, (reads _).2 (Text.signed?_eq_some_iff.2 (same.symm ▸ denotes)),
      same⟩
  · rintro ⟨number, made, rfl⟩
    exact ⟨Text.signed?_eq_some_iff.1 ((reads number).1 made), number.le_toInt, number.toInt_lt⟩

/-- The bounds of a field are those that its numbers are read from. -/
theorem hasBound_iff {Value : Type} {fieldClass : FieldClass}
    {read : List Char → Except QueryFault Value} {toInt : Value → Int}
    (reads : ∀ {value}, Text.integer? (Text.trimBlanks written) = some value ∧
        fieldClass.Admits (Text.trimBlanks written) value ↔
      ∃ number, read written = .ok number ∧ toInt number = value) {limit : Option Int} :
    fieldClass.HasBound written limit ↔
      ∃ number, bound read written = .ok number ∧ number.map toInt = limit := by
  unfold bound
  split
  case isTrue isAsterisk =>
    constructor
    · rintro (_ | ⟨notAsterisk, -, -⟩)
      · exact ⟨none, rfl, rfl⟩
      · exact (notAsterisk isAsterisk).elim
    · rintro ⟨number, made, rfl⟩
      cases made
      exact .asterisk isAsterisk
  case isFalse notAsterisk =>
    constructor
    · rintro (isAsterisk | ⟨-, denotes, admitted⟩)
      · exact (notAsterisk isAsterisk).elim
      · obtain ⟨number, made, rfl⟩ := reads.1 ⟨denotes, admitted⟩
        exact ⟨some number, by rw [made]; rfl, rfl⟩
    · rintro ⟨number, made, rfl⟩
      obtain ⟨inner, isInner, rfl⟩ := exists_of_map_ok made
      obtain ⟨denotes, admitted⟩ := reads.2 ⟨inner, isInner, rfl⟩
      exact .integer notAsterisk denotes admitted

/-! ### Plans of ranges -/

theorem isUnsignedWithin_eq (lower upper : Option UInt64) (value : FieldValue) :
    value.isUnsignedWithin lower upper =
      (FieldClass.unsigned.integer? value).any
        (isWithin (lower.map fun number => (number.toNat : Int))
          (upper.map fun number => (number.toNat : Int))) := by
  cases value with
  | text _ => rfl
  | signed _ => rfl
  | unsigned number =>
      cases lower <;> cases upper <;>
        simp [FieldValue.isUnsignedWithin, FieldClass.integer?, isWithin,
          UInt64.le_iff_toNat_le]

theorem isSignedWithin_eq (lower upper : Option Int64) (value : FieldValue) :
    value.isSignedWithin lower upper =
      (FieldClass.signed.integer? value).any
        (isWithin (lower.map Int64.toInt) (upper.map Int64.toInt)) := by
  cases value with
  | text _ => rfl
  | unsigned _ => rfl
  | signed number =>
      cases lower <;> cases upper <;>
        simp [FieldValue.isSignedWithin, FieldClass.integer?, isWithin, Int64.le_iff_toInt_le]

theorem exists_rangePlan {known : QueryField} {lower upper : List Char} {low high : Option Int}
    (numeric : known.fieldClass.isNumeric = true)
    (isLow : known.fieldClass.HasBound lower low)
    (isHigh : known.fieldClass.HasBound upper high) :
    ∃ plan, rangePlan known lower upper = .ok plan ∧ ∀ postings, plan.isMatch postings =
      hasValue postings known.name fun value =>
        (known.fieldClass.integer? value).any (isWithin low high) := by
  obtain ⟨name, fieldClass⟩ := known
  cases fieldClass with
  | words => cases numeric
  | whole => cases numeric
  | unsigned =>
      obtain ⟨lowest, lowRead, rfl⟩ := (hasBound_iff (unsigned_admits_iff name)).1 isLow
      obtain ⟨highest, highRead, rfl⟩ := (hasBound_iff (unsigned_admits_iff name)).1 isHigh
      refine ⟨.unsignedRange name lowest highest, ?_, fun postings => ?_⟩
      · simp only [rangePlan, lowRead, highRead]
        rfl
      · simp only [isMatch]
        exact congrArg _ (funext (isUnsignedWithin_eq lowest highest))
  | signed =>
      obtain ⟨lowest, lowRead, rfl⟩ := (hasBound_iff (signed_admits_iff name)).1 isLow
      obtain ⟨highest, highRead, rfl⟩ := (hasBound_iff (signed_admits_iff name)).1 isHigh
      refine ⟨.signedRange name lowest highest, ?_, fun postings => ?_⟩
      · simp only [rangePlan, lowRead, highRead]
        rfl
      · simp only [isMatch]
        exact congrArg _ (funext (isSignedWithin_eq lowest highest))

theorem hasBounds_of_rangePlan {known : QueryField} {lower upper : List Char} {plan : QueryPlan}
    (numeric : known.fieldClass.isNumeric = true)
    (planned : rangePlan known lower upper = .ok plan) :
    (∃ low, known.fieldClass.HasBound lower low) ∧
      ∃ high, known.fieldClass.HasBound upper high := by
  obtain ⟨name, fieldClass⟩ := known
  unfold rangePlan at planned
  cases fieldClass with
  | words => cases numeric
  | whole => cases numeric
  | unsigned =>
      obtain ⟨lowest, lowRead, rest⟩ := exists_of_bind_ok planned
      obtain ⟨highest, highRead, -⟩ := exists_of_bind_ok rest
      exact ⟨⟨_, (hasBound_iff (unsigned_admits_iff name)).2 ⟨lowest, lowRead, rfl⟩⟩,
        _, (hasBound_iff (unsigned_admits_iff name)).2 ⟨highest, highRead, rfl⟩⟩
  | signed =>
      obtain ⟨lowest, lowRead, rest⟩ := exists_of_bind_ok planned
      obtain ⟨highest, highRead, -⟩ := exists_of_bind_ok rest
      exact ⟨⟨_, (hasBound_iff (signed_admits_iff name)).2 ⟨lowest, lowRead, rfl⟩⟩,
        _, (hasBound_iff (signed_admits_iff name)).2 ⟨highest, highRead, rfl⟩⟩

end Translator

/-! ### Integers of an entity -/

/-- The integers that an entity has in a field of numbers.  What it offers under a core name
counts for nothing. -/
def Entity.integersOf (entity : Entity) (field : QueryField) : List Int :=
  if field.name = CoreField.entity then [(entity.id.toNat : Int)]
  else if field.name = CoreField.project then [(entity.project.toNat : Int)]
  else entity.values.filterMap fun offer =>
    if offer.1 = field.name then field.fieldClass.integer? offer.2 else none

namespace IndexConfiguration

variable {configuration : IndexConfiguration} {field : QueryField}

theorem exists_layoutField (known : field ∈ configuration.queryFields)
    (numeric : field.fieldClass.isNumeric = true) :
    ∃ source ∈ configuration.layout.fields, source.name = field.name ∧
      ∀ values, source.postings values = valuePostings source.name values := by
  obtain ⟨source, inside, seen⟩ := List.mem_filterMap.1 known
  refine ⟨source, inside, (LayoutField.name_of_queryField? seen).symm, fun values => ?_⟩
  unfold LayoutField.queryField? at seen
  split at seen
  · cases seen
  · obtain ⟨fieldClass, isClass, rfl⟩ := Option.map_eq_some_iff.1 seen
    unfold FieldContent.queryClass? at isClass
    split at isClass <;> cases isClass
    case h_1 => cases numeric
    case h_2 => cases numeric
    case h_4 isContent => rw [LayoutField.postings, isContent]
    case h_5 isContent => rw [LayoutField.postings, isContent]

theorem takes_of_integer? {spec : FieldSpec} {value : FieldValue} {number : Int}
    (isNumber : spec.kind.queryClass.integer? value = some number) :
    spec.layoutField.content.takes value = true := by
  obtain ⟨name, kind⟩ := spec
  cases kind <;> cases value <;> first | rfl | cases isNumber

theorem isFieldName_known (known : field ∈ configuration.queryFields) :
    isFieldName field.name = true := by
  rw [configuration.queryFields_eq, List.mem_append, List.mem_map] at known
  rcases known with core | ⟨spec, declared, rfl⟩
  · simp only [List.mem_cons, List.not_mem_nil, or_false] at core
    rcases core with rfl | rfl <;> decide
  · exact configuration.isFieldName_declared declared

theorem mem_integersOf_iff (known : field ∈ configuration.queryFields)
    (numeric : field.fieldClass.isNumeric = true) {entity : Entity} {number : Int} :
    number ∈ entity.integersOf field ↔
      ∃ value ∈ (configuration.layout.documentFor entity).document.valuesOf field.name,
        field.fieldClass.integer? value = some number := by
  rw [configuration.queryFields_eq, List.mem_append, List.mem_map] at known
  rcases known with core | ⟨spec, declared, rfl⟩
  · simp only [List.mem_cons, List.not_mem_nil, or_false] at core
    rcases core with rfl | rfl
    · simp only [Entity.integersOf, Layout.entity_documentFor]
      simp [FieldClass.integer?, eq_comm]
    · simp only [Entity.integersOf, Layout.project_documentFor]
      simp [FieldClass.integer?, CoreField.project, CoreField.entity, eq_comm]
  · have notReserved := configuration.isReserved_declared declared
    have notEntity : spec.name ≠ CoreField.entity := by
      intro same
      rw [same] at notReserved
      cases notReserved
    have notProject : spec.name ≠ CoreField.project := by
      intro same
      rw [same] at notReserved
      cases notReserved
    simp only [Entity.integersOf, notEntity, notProject, if_false, List.mem_filterMap]
    constructor
    · rintro ⟨⟨name, value⟩, offered, isNumber⟩
      split at isNumber
      case isTrue same =>
        obtain rfl : name = spec.name := same
        have taken := takes_of_integer? isNumber
        exact ⟨value, (configuration.mem_valuesOf_declared declared taken entity).2 offered,
          isNumber⟩
      case isFalse => cases isNumber
    · rintro ⟨value, isValue, isNumber⟩
      have taken := takes_of_integer? isNumber
      refine ⟨(spec.name, value),
        (configuration.mem_valuesOf_declared declared taken entity).1 isValue, ?_⟩
      rw [if_pos rfl]
      exact isNumber

end IndexConfiguration

/-! ### What ranges find -/

namespace Query

def rangeQuery (name : String) (opening closing : RangeBracket) (lower upper : BoundText) :
    String :=
  name ++ ":" ++ String.ofList (printRange opening closing lower upper)

theorem read?_rangeQuery {name : String} (named : isFieldName name = true)
    (notNegation : name ≠ "NOT") (opening closing : RangeBracket) (lower upper : BoundText) :
    read? (rangeQuery name opening closing lower upper).toList =
      some (oneClause none (.fieldRange name.toList lower.characters upper.characters)) := by
  obtain ⟨filled, characters⟩ := isNameCharacter_of_isFieldName named
  let field : FieldName :=
    { characters := name.toList
      filled := filled
      named := characters
      notNegation := fun same => notNegation (String.toList_inj.1 (by simpa using same)) }
  let tree : DisjunctionTree :=
    .single (.single (.mk none (.field field (.range opening closing lower upper)) none))
  have printed : (rangeQuery name opening closing lower upper).toList = tree.print := by
    simp [rangeQuery, tree, field, DisjunctionTree.print, ConjunctionTree.print,
      ClauseTree.print, BodyTree.print, ValueTree.print]
  rw [printed, DisjunctionTree.read?_print]
  rfl

end Query

section Ranges

open Translator Query QueryPlan

variable {chronicle : Chronicle} {content : IndexContent} {configuration : IndexConfiguration}
  {translator : Translator} {field : QueryField} {lower upper : BoundText}

theorem bodyPlan_range (fields : translator.fields = configuration.queryFields)
    (known : field ∈ configuration.queryFields) (lower upper : List Char) :
    bodyPlan translator none (.fieldRange field.name.toList lower upper) =
      (rangePlan field lower upper).map some := by
  have found : find? translator.fields field.name = some field := by
    rw [fields]
    exact find?_of_distinct configuration.nodup_names_layout known
  simp only [bodyPlan, String.ofList_toList, found]

/-- With bounds of its field a range finds the entities that have a number between them. -/
theorem exists_finds_range (describes : chronicle.Describes content)
    (accepted : content.layout = configuration.layout)
    (fields : translator.fields = configuration.queryFields)
    (known : field ∈ configuration.queryFields) (numeric : field.fieldClass.isNumeric = true)
    (notNegation : field.name ≠ "NOT") (opening closing : RangeBracket) {low high : Option Int}
    (isLow : field.fieldClass.HasBound lower.characters low)
    (isHigh : field.fieldClass.HasBound upper.characters high) :
    ∃ found, content.Finds translator (rangeQuery field.name opening closing lower upper) found ∧
      found ⊆ content.entities ∧
      ∀ entity, chronicle.Survives (content.layout.documentFor entity) →
        (content.Includes found entity ↔
          ∃ number ∈ entity.integersOf field, isWithin low high number = true) := by
  obtain ⟨plan, planned, matched⟩ := exists_rangePlan numeric isLow isHigh
  have read := read?_rangeQuery (IndexConfiguration.isFieldName_known known) notNegation
    opening closing lower upper
  have body := bodyPlan_range fields known lower.characters upper.characters
  rw [planned] at body
  refine ⟨_, content.finds_of_hasClauses (hasClauses_oneClause read body) (List.cons_ne_nil _ _),
    fun stored inside => inside.1, fun entity survives => ?_⟩
  obtain ⟨source, inside, sameName, whole⟩ := IndexConfiguration.exists_layoutField known numeric
  rw [describes.includes_iff survives (QueryPlan.holds · _ = true), holds_single, matched, accepted,
    ← sameName, configuration.hasValue_whole inside whole, sameName]
  constructor
  · rintro ⟨value, isValue, -, between⟩
    obtain ⟨number, isNumber, within⟩ := (Option.any_eq_true _ _).1 between
    exact ⟨number, (IndexConfiguration.mem_integersOf_iff known numeric).2
      ⟨value, isValue, isNumber⟩, within⟩
  · rintro ⟨number, isNumber, within⟩
    obtain ⟨value, isValue, denotes⟩ :=
      (IndexConfiguration.mem_integersOf_iff known numeric).1 isNumber
    exact ⟨value, isValue, fitsTerm_of_integer? denotes,
      (Option.any_eq_true _ _).2 ⟨number, denotes, within⟩⟩

/-- A bound that is no number of the field is refused under its own text. -/
theorem translate_refused (fields : translator.fields = configuration.queryFields)
    (known : field ∈ configuration.queryFields) (numeric : field.fieldClass.isNumeric = true)
    (notNegation : field.name ≠ "NOT") (opening closing : RangeBracket)
    (stray : (∀ low, ¬ field.fieldClass.HasBound lower.characters low) ∨
      ∀ high, ¬ field.fieldClass.HasBound upper.characters high) :
    ∃ text ∈ [lower.characters, upper.characters],
      translator.translate (rangeQuery field.name opening closing lower upper) =
        .error (.notAnInteger (String.ofList text) field.name) := by
  have read := read?_rangeQuery (IndexConfiguration.isFieldName_known known) notNegation
    opening closing lower upper
  cases planned : rangePlan field lower.characters upper.characters with
  | ok plan =>
      obtain ⟨⟨low, isLow⟩, high, isHigh⟩ := hasBounds_of_rangePlan numeric planned
      exact (stray.elim (fun none => none low isLow) fun none => none high isHigh).elim
  | error fault =>
      obtain ⟨text, isBound, rfl⟩ := (demandsIntegers_rangePlan field lower.characters
        upper.characters).named fault planned
      refine ⟨text, isBound, ?_⟩
      rw [Translator.translate, read]
      simp only [planOf_oneClause, bodyPlan_range fields known, planned]
      rfl

end Ranges

namespace IndexLife

open Query

/-- Whatever has happened to an index, a range on a field of numbers finds the entities that have
a number of the field between its bounds, if both are asterisks or numbers of the field; any other
range is refused for one of its bounds. -/
theorem ranges_are_intervals (owner : EntityIndex) {directory : IndexDirectory}
    (unbuilt : directory.content? = none) (operations : List IndexOperation)
    {content : IndexContent}
    (held : ((begin owner directory).run operations).index.directory = .readable content ∨
      ((begin owner directory).run operations).index.snapshot = some content)
    {configuration : IndexConfiguration} (accepted : content.layout = configuration.layout)
    {defaultNames : List String} {translator : Translator}
    (made : Translator.ofLayout configuration.layout defaultNames = .ok translator)
    {field : QueryField} (known : field ∈ configuration.queryFields)
    (numeric : field.fieldClass.isNumeric = true) (notNegation : field.name ≠ "NOT")
    (opening closing : RangeBracket) (lower upper : BoundText) :
    let chronicle := ((begin owner directory).run operations).chronicle
    let query := rangeQuery field.name opening closing lower upper
    (∀ low high, field.fieldClass.HasBound lower.characters low →
      field.fieldClass.HasBound upper.characters high →
        ∃ found, content.Finds translator query found ∧ found ⊆ content.entities ∧
          ∀ entity, chronicle.Survives (content.layout.documentFor entity) →
            (content.Includes found entity ↔
              ∃ number ∈ entity.integersOf field, isWithin low high number = true)) ∧
      ((∀ low, ¬ field.fieldClass.HasBound lower.characters low) ∨
          (∀ high, ¬ field.fieldClass.HasBound upper.characters high) →
        ∃ text ∈ [lower.characters, upper.characters], translator.translate query =
          .error (.notAnInteger (String.ofList text) field.name)) := by
  intro chronicle query
  have describes : chronicle.Describes content :=
    ((sound_begin owner unbuilt).run operations).describes held
  have fields : translator.fields = configuration.queryFields :=
    (Translator.ofLayout_cases made).1
  exact ⟨fun low high isLow isHigh => exists_finds_range describes accepted fields known numeric
      notNegation opening closing isLow isHigh,
    translate_refused fields known numeric notNegation opening closing⟩

def positiveBound : BoundText := ⟨['1'], List.cons_ne_nil _ _, List.forall_mem_singleton.2 rfl⟩

def negativeBound : BoundText :=
  ⟨['-', '1'], List.cons_ne_nil _ _, List.forall_mem_cons.2 ⟨rfl, List.forall_mem_singleton.2 rfl⟩⟩

def openBound : BoundText := ⟨['*'], List.cons_ne_nil _ _, List.forall_mem_singleton.2 rfl⟩

/-- An open letter is found from the number of its project on, and refused from below zero on. -/
theorem openLetter_is_in_interval :
    ∃ (content : IndexContent) (translator : Translator)
        (found : Set (StoredDocument content.layout)),
      Translator.ofLayout letterConfiguration.layout letterConfiguration.defaultFields =
          .ok translator ∧
        content.Finds translator
          (rangeQuery CoreField.project .square .square positiveBound openBound) found ∧
        content.Includes found openLetter ∧
        ∃ fault, translator.translate
          (rangeQuery CoreField.project .square .square negativeBound openBound) =
            .error fault := by
  obtain ⟨content, readable, sameLayout, survives⟩ := exists_letterContent openLetter
  obtain ⟨translator, made, -⟩ := letterConfiguration.exists_translator
  have known : (⟨CoreField.project, .unsigned⟩ : QueryField) ∈ letterConfiguration.queryFields := by
    decide +kernel
  have intervals (lower : BoundText) := ranges_are_intervals letterOwner rfl
    (letterOperations openLetter) (.inl readable) sameLayout made known rfl (by decide) .square
    .square lower openBound
  have positive : FieldClass.unsigned.HasBound positiveBound.characters (some 1) :=
    .integer (by decide) (by decide +kernel) ⟨by decide +kernel, by decide, by decide⟩
  have negative (low : Option Int) :
      ¬ FieldClass.unsigned.HasBound negativeBound.characters low := by
    rintro (isAsterisk | ⟨-, -, noSign, -, -⟩)
    · cases isAsterisk
    · exact noSign rfl
  obtain ⟨found, finds, -, includes⟩ :=
    (intervals positiveBound).1 (some 1) none positive (.asterisk rfl)
  obtain ⟨text, -, refused⟩ := (intervals negativeBound).2 (.inl negative)
  exact ⟨content, translator, found, made, finds,
    (includes openLetter survives).2 ⟨1, by decide +kernel, rfl⟩, _, refused⟩

end IndexLife

namespace Translator

open Query

/-- An interval that begins below zero is refused of the project, though it is accepted of a field
of texts. -/
theorem negative_bound_is_refused :
    (keywordTranslator "state").translate "project_id:[-1 TO 5]" =
        .error (.notAnInteger "-1" "project_id") ∧
      (keywordTranslator "state").translate "project_id:[0 TO 5]" =
        .ok (wholePlan (some (.unsignedRange "project_id" (some 0) (some 5)))) ∧
      (keywordTranslator "state").translate "state:[-1 TO 5]" = .ok (wholePlan (some .empty)) := by
  have negative : read? "project_id:[-1 TO 5]".toList =
      some (oneClause none (.fieldRange "project_id".toList ['-', '1'] ['5'])) := rfl
  have positive : read? "project_id:[0 TO 5]".toList =
      some (oneClause none (.fieldRange "project_id".toList ['0'] ['5'])) := rfl
  have ofState : read? "state:[-1 TO 5]".toList =
      some (oneClause none (.fieldRange "state".toList ['-', '1'] ['5'])) := rfl
  refine ⟨?_, ?_, ?_⟩
  · rw [translate, negative]
    rfl
  · rw [translate, positive]
    rfl
  · rw [translate, ofState]
    rfl

end Translator

end EntitySearch
