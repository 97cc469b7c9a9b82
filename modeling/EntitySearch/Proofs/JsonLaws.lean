import EntitySearch.Proofs.QuotedTextLaws
import EntitySearch.Proofs.WrittenNumbers

/-!
# Laws of written JSON

A written value is read back as it was, whatever follows it, provided that the
text behind a number cannot belong to the number.
-/

namespace EntitySearch

namespace Json

theorem readValue?_of_number {first : Char} (begins : first = '-' ∨ first.isDigit = true)
    (allowance : Nat) (source : List Char) :
    readValue? (allowance + 1) (first :: source) =
      (readNumber? (first :: source)).map fun (value, rest) => (.number value, rest) := by
  have differs : ∀ other : Char, other ≠ '-' → other.isDigit = false → first ≠ other := by
    rintro other notMinus notDigit rfl
    rcases begins with isMinus | isDigit
    · exact notMinus isMinus
    · rw [notDigit] at isDigit
      cases isDigit
  have notBlank : isBlank first = false := by
    simp [isBlank, differs ' ' (by decide) (by decide), differs '\n' (by decide) (by decide),
      differs '\r' (by decide) (by decide), differs '\t' (by decide) (by decide)]
  have noBlanks : (first :: source).dropWhile isBlank = first :: source :=
    List.dropWhile_cons_of_neg (by simp [notBlank])
  rw [readValue?, noBlanks]
  split
  · rename_i same
    exact absurd (List.cons.inj same).1 (differs 'n' (by decide) (by decide))
  · rename_i same
    exact absurd (List.cons.inj same).1 (differs 't' (by decide) (by decide))
  · rename_i same
    exact absurd (List.cons.inj same).1 (differs 'f' (by decide) (by decide))
  · rename_i same
    exact absurd (List.cons.inj same).1 (differs '"' (by decide) (by decide))
  · rename_i same
    exact absurd (List.cons.inj same).1 (differs '[' (by decide) (by decide))
  · rename_i same
    exact absurd (List.cons.inj same).1 (differs '\x7b' (by decide) (by decide))
  · rfl

/-- Between quotes the text ends at the quote behind it. -/
def EndsAtQuote (written : List Char) : Prop :=
  ∀ rest, QuotedText.split? (written ++ '"' :: rest) = some (written, rest)

mutual

/-- The texts and the names in a value are written so that they end at their quotes. -/
def IsWritable : Json → Prop
  | .text written => EndsAtQuote written
  | .array elements => AreWritable elements
  | .object members => MembersAreWritable members
  | _ => True

def AreWritable : List Json → Prop
  | [] => True
  | element :: rest => IsWritable element ∧ AreWritable rest

def MembersAreWritable : List (List Char × Json) → Prop
  | [] => True
  | (name, value) :: rest => EndsAtQuote name ∧ IsWritable value ∧ MembersAreWritable rest

end

theorem write_array (elements : List Json) :
    write (.array elements) = '[' :: writeElements elements := rfl

theorem write_object (members : List (List Char × Json)) :
    write (.object members) = '\x7b' :: writeMembers members := rfl

/-- A written value does not begin with a blank or a closing bracket. -/
theorem write_eq_cons (value : Json) : ∃ first others, value.write = first :: others ∧
    isBlank first = false ∧ first ≠ ']' := by
  cases value with
  | null => exact ⟨'n', _, rfl, by decide, by decide⟩
  | bool value =>
      cases value with
      | true => exact ⟨'t', _, rfl, by decide, by decide⟩
      | false => exact ⟨'f', _, rfl, by decide, by decide⟩
  | number value =>
      obtain ⟨first, others, written, begins⟩ := value.write_eq_cons
      refine ⟨first, others, written, ?_, ?_⟩
      · rcases begins with isMinus | isDigit
        · rw [isMinus]
          decide
        · cases blank : isBlank first with
          | false => rfl
          | true =>
              simp only [isBlank, Bool.or_eq_true, beq_iff_eq] at blank
              rcases blank with ((same | same) | same) | same <;> subst same <;> cases isDigit
      · rintro rfl
        rcases begins with isMinus | isDigit
        · cases isMinus
        · cases isDigit
  | text written => exact ⟨'"', _, rfl, by decide, by decide⟩
  | array elements => exact ⟨'[', _, rfl, by decide, by decide⟩
  | object members => exact ⟨'\x7b', _, rfl, by decide, by decide⟩

theorem dropWhile_isBlank_cons {first : Char} (notBlank : isBlank first = false)
    (others : List Char) : (first :: others).dropWhile isBlank = first :: others :=
  List.dropWhile_cons_of_neg (by simp [notBlank])

theorem readValue?_bracket {first : Char} (notBlank : isBlank first = false)
    (notBracket : first ≠ ']') (allowance : Nat) (others : List Char) :
    readValue? (allowance + 1) ('[' :: first :: others) =
      (readElements? allowance (first :: others)).map fun (elements, rest) =>
        (.array elements, rest) := by
  have notSkipped : ('[' :: first :: others).dropWhile isBlank = '[' :: first :: others :=
    dropWhile_isBlank_cons (by decide) _
  simp [readValue?, notSkipped, dropWhile_isBlank_cons notBlank, notBracket]

theorem readValue?_brace (allowance : Nat) (source : List Char) :
    readValue? (allowance + 1) ('\x7b' :: '"' :: source) =
      (readMembers? allowance ('"' :: source)).map fun (members, rest) =>
        (.object members, rest) := by
  rw [readValue?, dropWhile_isBlank_cons (by decide)]
  rfl

mutual

/-- A written value is read back, whatever follows it. -/
theorem readValue?_write : ∀ (value : Json) (allowance : Nat) (rest : List Char),
    value.IsWritable → value.write.length ≤ allowance → EndsNumber rest →
      readValue? allowance (value.write ++ rest) = some (value, rest)
  | value, 0, rest, _, enough, _ => by
      obtain ⟨first, others, written, _⟩ := write_eq_cons value
      rw [written, List.length_cons] at enough
      omega
  | .null, allowance + 1, rest, _, _, _ => rfl
  | .bool true, allowance + 1, rest, _, _, _ => rfl
  | .bool false, allowance + 1, rest, _, _, _ => rfl
  | .number value, allowance + 1, rest, _, _, ends => by
      obtain ⟨first, others, written, begins⟩ := value.write_eq_cons
      have readBack := value.readNumber?_write ends
      show readValue? _ (value.write ++ rest) = _
      rw [written, List.cons_append] at readBack ⊢
      rw [readValue?_of_number begins, readBack]
      rfl
  | .text written, allowance + 1, rest, writable, _, _ => by
      have ends : EndsAtQuote written := writable
      show readValue? _ ('"' :: written ++ ['"'] ++ rest) = _
      rw [List.cons_append, List.cons_append, List.append_assoc, readValue?,
        dropWhile_isBlank_cons (by decide)]
      show (QuotedText.split? (written ++ '"' :: rest)).map _ = _
      rw [ends]
      rfl
  | .array [], allowance + 1, rest, _, _, _ => rfl
  | .array (element :: elements), allowance + 1, rest, writable, enough, _ => by
      have readBack := readElements?_write element elements allowance rest
        writable (by
          rw [write_array, List.length_cons] at enough
          omega)
      rw [write_array, List.cons_append]
      obtain ⟨first, others, written, notBlank, notBracket⟩ := write_eq_cons element
      have begins : ∃ others, writeElements (element :: elements) = first :: others := by
        cases elements with
        | nil => exact ⟨_, by rw [writeElements, written, List.cons_append]⟩
        | cons next elements => exact ⟨_, by rw [writeElements, written, List.cons_append]⟩
      obtain ⟨behind, isCons⟩ := begins
      rw [isCons, List.cons_append] at readBack ⊢
      rw [readValue?_bracket notBlank notBracket, readBack]
      rfl
  | .object [], allowance + 1, rest, _, _, _ => rfl
  | .object ((name, value) :: members), allowance + 1, rest, writable, enough, _ => by
      have readBack := readMembers?_write name value members allowance rest
        writable (by
          rw [write_object, List.length_cons] at enough
          omega)
      rw [write_object, List.cons_append]
      have begins : ∃ others, writeMembers ((name, value) :: members) = '"' :: others := by
        cases members with
        | nil => exact ⟨_, rfl⟩
        | cons next members => exact ⟨_, rfl⟩
      obtain ⟨behind, isCons⟩ := begins
      rw [isCons, List.cons_append] at readBack ⊢
      rw [readValue?_brace, readBack]
      rfl

theorem readElements?_write : ∀ (element : Json) (elements : List Json) (allowance : Nat)
    (rest : List Char), AreWritable (element :: elements) →
      (writeElements (element :: elements)).length ≤ allowance →
      readElements? allowance (writeElements (element :: elements) ++ rest) =
        some (element :: elements, rest)
  | element, [], 0, rest, _, enough => by
      rw [writeElements, List.length_append, List.length_singleton] at enough
      omega
  | element, _ :: _, 0, rest, _, enough => by
      rw [writeElements, List.length_append, List.length_cons] at enough
      omega
  | element, [], allowance + 1, rest, writable, enough => by
      rw [writeElements, List.length_append, List.length_singleton] at enough
      have readBack := readValue?_write element allowance (']' :: rest)
        writable.1 (by omega) (endsNumber_bracket rest)
      rw [writeElements, List.append_assoc, List.cons_append, List.nil_append, readElements?,
        readBack]
      rfl
  | element, next :: elements, allowance + 1, rest, writable, enough => by
      rw [writeElements, List.length_append, List.length_cons] at enough
      have readBack := readValue?_write element allowance
        (',' :: (writeElements (next :: elements) ++ rest)) writable.1 (by omega)
        (endsNumber_comma _)
      have readOthers := readElements?_write next elements allowance rest writable.2 (by omega)
      rw [writeElements, List.append_assoc, List.cons_append, readElements?, readBack]
      show (readElements? allowance (writeElements (next :: elements) ++ rest)).map _ = _
      rw [readOthers]
      rfl

theorem readMembers?_write : ∀ (name : List Char) (value : Json)
    (members : List (List Char × Json)) (allowance : Nat) (rest : List Char),
    MembersAreWritable ((name, value) :: members) →
      (writeMembers ((name, value) :: members)).length ≤ allowance →
      readMembers? allowance (writeMembers ((name, value) :: members) ++ rest) =
        some ((name, value) :: members, rest)
  | name, value, [], 0, rest, _, enough => by
      simp [writeMembers] at enough
  | name, value, _ :: _, 0, rest, _, enough => by
      simp [writeMembers] at enough
  | name, value, [], allowance + 1, rest, writable, enough => by
      simp only [writeMembers, List.length_append, List.length_cons, List.length_nil] at enough
      have readBack := readValue?_write value allowance ('\x7d' :: rest)
        writable.2.1 (by omega) (endsNumber_brace rest)
      simp only [writeMembers, List.append_assoc, List.cons_append, List.nil_append]
      rw [readMembers?, dropWhile_isBlank_cons (by decide)]
      simp only [writable.1 _, dropWhile_isBlank_cons (show isBlank ':' = false by decide),
        dropWhile_isBlank_cons (show isBlank '\x7d' = false by decide), readBack]
  | name, value, (nextName, nextValue) :: members, allowance + 1, rest, writable, enough => by
      rw [writeMembers, List.length_append, List.length_append, List.length_cons,
        List.length_cons, List.length_cons, List.length_cons] at enough
      have readBack := readValue?_write value allowance
        (',' :: (writeMembers ((nextName, nextValue) :: members) ++ rest))
        writable.2.1 (by omega) (endsNumber_comma _)
      have readOthers := readMembers?_write nextName nextValue members allowance rest
        writable.2.2 (by omega)
      simp only [writeMembers, List.append_assoc, List.cons_append]
      rw [readMembers?, dropWhile_isBlank_cons (by decide)]
      simp only [writable.1 _, dropWhile_isBlank_cons (show isBlank ':' = false by decide),
        dropWhile_isBlank_cons (show isBlank ',' = false by decide), readBack, readOthers]
      rfl

end

/-- A text that is a written value is read as the value. -/
theorem read?_write {value : Json} (writable : value.IsWritable) :
    read? value.write = some value := by
  have readBack := readValue?_write value (value.write.length + 1) [] writable (by omega)
    endsNumber_nil
  rw [List.append_nil] at readBack
  rw [read?, readBack]
  rfl

end Json

end EntitySearch
