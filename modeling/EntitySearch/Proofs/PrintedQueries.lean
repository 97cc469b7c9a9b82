import EntitySearch.Proofs.PrintedParts

/-!
# Printed queries

A query tree is printed with the words of the operators between its parts.  The
reader never takes a decision back, so for every part it must be known which texts
may stand behind it: behind a body no sign that a leaf could go on with, behind a
conjunction no other operator than that of a disjunction, behind a disjunction
nothing but the end of its group.  With that, each part reads back as itself
wherever it stands.
-/

namespace EntitySearch.Query

mutual

/-- A query with the texts that its leaves stand for. -/
inductive DisjunctionTree
  | single (first : ConjunctionTree)
  | more (first : ConjunctionTree) (rest : DisjunctionTree)

inductive ConjunctionTree
  | single (first : ClauseTree)
  | more (first : ClauseTree) (rest : ConjunctionTree)

inductive ClauseTree
  | mk (modifier : Option ModifierSign) (body : BodyTree) (boost : Option BoostText)

inductive BodyTree
  | group (inner : DisjunctionTree)
  | matchAll
  | leaf (leaf : LeafText)
  | field (field : FieldName) (value : ValueTree)

/-- What stands behind the name of a field. -/
inductive ValueTree
  | group (inner : DisjunctionTree)
  | leaf (leaf : LeafText)
  | range (opening closing : RangeBracket) (lower upper : BoundText)

end

mutual

def DisjunctionTree.print : DisjunctionTree → List Char
  | .single first => first.print
  | .more first rest => first.print ++ (orText ++ rest.print)

def ConjunctionTree.print : ConjunctionTree → List Char
  | .single first => first.print
  | .more first rest => first.print ++ (andText ++ rest.print)

def ClauseTree.print : ClauseTree → List Char
  | .mk modifier body boost =>
      modifier.elim [] ModifierSign.print ++ (body.print ++ boost.elim [] BoostText.print)

def BodyTree.print : BodyTree → List Char
  | .group inner => parenthesised inner.print []
  | .matchAll => ['*', ':', '*']
  | .leaf leaf => leaf.print
  | .field field value => field.characters ++ ':' :: value.print

def ValueTree.print : ValueTree → List Char
  | .group inner => parenthesised inner.print []
  | .leaf leaf => leaf.print
  | .range opening closing lower upper => printRange opening closing lower upper

end

mutual

def DisjunctionTree.parsed : DisjunctionTree → Disjunction
  | .single first => .single first.parsed
  | .more first rest => .more first.parsed rest.parsed

def ConjunctionTree.parsed : ConjunctionTree → Conjunction
  | .single first => .single first.parsed
  | .more first rest => .more first.parsed rest.parsed

def ClauseTree.parsed : ClauseTree → Clause
  | .mk modifier body boost =>
      .mk (modifier.map ModifierSign.modifier) body.parsed (boost.map BoostText.parsed)

def BodyTree.parsed : BodyTree → Body
  | .group inner => .group inner.parsed
  | .matchAll => .matchAll
  | .leaf leaf => .leaf leaf.parsed
  | .field field value => value.parsed field

def ValueTree.parsed (field : FieldName) : ValueTree → Body
  | .group inner => .fieldGroup field.characters inner.parsed
  | .leaf leaf => .fieldLeaf field.characters leaf.parsed
  | .range _ _ lower upper =>
      .fieldRange field.characters lower.characters upper.characters

end

/-! ### What may stand behind a part -/

/-- What may stand behind a disjunction. -/
inductive EndsDisjunction : List Char → Prop
  | nothing : EndsDisjunction []
  | closing (rest : List Char) : EndsDisjunction (')' :: rest)

/-- What may stand behind a conjunction. -/
inductive EndsConjunction : List Char → Prop
  | disjunction {rest : List Char} (ends : EndsDisjunction rest) : EndsConjunction rest
  | disjunct (rest : List Char) : EndsConjunction (orText ++ rest)

variable {rest : List Char}

theorem EndsConjunction.endsClause (ends : EndsConjunction rest) : EndsClause rest := by
  cases ends with
  | disjunction ends =>
      cases ends with
      | nothing => exact .nothing
      | closing rest => exact .closing rest
  | disjunct rest => exact .disjunct rest

theorem EndsDisjunction.skipBlanks_eq (ends : EndsDisjunction rest) :
    skipBlanks rest = rest := by
  cases ends <;> rfl

theorem EndsConjunction.afterAnd?_eq_none (ends : EndsConjunction rest) :
    afterAnd? (skipBlanks rest) = none := by
  cases ends with
  | disjunction ends => cases ends <;> rfl
  | disjunct rest => rfl

theorem EndsClause.readBoost_eq_none (ends : EndsClause rest) :
    readBoost (skipBlanks rest) = (none, skipBlanks rest) := by
  cases ends <;> rfl

theorem EndsClause.skipBlanks_skipBlanks (ends : EndsClause rest) :
    skipBlanks (skipBlanks rest) = skipBlanks rest := by
  cases ends <;> rfl

/-! ### Readers that find nothing -/

variable {allowance : Nat}

theorem readGroup?_eq_none {character : Char} (noGroup : character ≠ '(')
    (source : List Char) : readGroup? allowance (character :: source) = none := by
  cases allowance with
  | zero => rfl
  | succ allowance => simp [readGroup?, noGroup]

theorem readFieldBody?_eq_none {source : List Char} (noName : readFieldName? source = none) :
    readFieldBody? allowance source = none := by
  cases allowance with
  | zero => rfl
  | succ allowance => simp [readFieldBody?, noName]

/-- No query starts with a closing parenthesis. -/
theorem readDisjunction?_closing (source : List Char) :
    readDisjunction? allowance (')' :: source) = none := by
  have body (allowance : Nat) : readBody? allowance (')' :: source) = none := by
    cases allowance with
    | zero => rfl
    | succ allowance =>
        rw [readBody?, readGroup?_eq_none (by decide)]
        simp only
        rw [readFieldBody?_eq_none rfl]
        rfl
  have clause (allowance : Nat) : readClause? allowance (')' :: source) = none := by
    cases allowance with
    | zero => rfl
    | succ allowance =>
        have skipped : skipBlanks (readModifier (')' :: source)).2 = ')' :: source := rfl
        simp only [readClause?, skipped, body]
  have conjunction (allowance : Nat) : readConjunction? allowance (')' :: source) = none := by
    cases allowance with
    | zero => rfl
    | succ allowance => rw [readConjunction?, clause]
  cases allowance with
  | zero => rfl
  | succ allowance => rw [readDisjunction?, conjunction]

/-! ### The start of a part -/

theorem LeafText.skipBlanks_print (leaf : LeafText) (rest : List Char) :
    skipBlanks (leaf.print ++ rest) = leaf.print ++ rest := by
  obtain ⟨sign, source, same, isSign⟩ := leaf.exists_print_eq_cons
  simp only [List.mem_cons, List.not_mem_nil, or_false] at isSign
  rcases isSign with rfl | rfl | rfl | rfl <;> rw [same] <;> rfl

theorem BodyTree.skipBlanks_print (body : BodyTree) (rest : List Char) :
    skipBlanks (body.print ++ rest) = body.print ++ rest := by
  cases body with
  | group inner => rfl
  | matchAll => rfl
  | leaf leaf => exact leaf.skipBlanks_print rest
  | field field value =>
      obtain ⟨character, characters, same⟩ := List.exists_cons_of_ne_nil field.filled
      have plain := isPlain_of_isNameCharacter (field.named character (by simp [same]))
      have notBlank : isBlank character = false := by
        simp only [isPlain, Bool.and_eq_true, Bool.not_eq_true'] at plain
        exact plain.1
      simp [BodyTree.print, same, skipBlanks, notBlank]

theorem ClauseTree.skipBlanks_print (clause : ClauseTree) (rest : List Char) :
    skipBlanks (clause.print ++ rest) = clause.print ++ rest := by
  obtain ⟨modifier, body, boost⟩ := clause
  cases modifier with
  | none =>
      simpa [ClauseTree.print] using body.skipBlanks_print (boost.elim [] BoostText.print ++ rest)
  | some sign => cases sign <;> rfl

theorem ConjunctionTree.skipBlanks_print (conjunction : ConjunctionTree) (rest : List Char) :
    skipBlanks (conjunction.print ++ rest) = conjunction.print ++ rest := by
  cases conjunction with
  | single first => exact first.skipBlanks_print rest
  | more first others =>
      simpa [ConjunctionTree.print] using first.skipBlanks_print (andText ++ (others.print ++ rest))

theorem DisjunctionTree.skipBlanks_print (disjunction : DisjunctionTree) (rest : List Char) :
    skipBlanks (disjunction.print ++ rest) = disjunction.print ++ rest := by
  cases disjunction with
  | single first => exact first.skipBlanks_print rest
  | more first others =>
      simpa [DisjunctionTree.print] using first.skipBlanks_print (orText ++ (others.print ++ rest))

/-- A body is not taken for a modifier. -/
theorem BodyTree.readModifier_print (body : BodyTree) (rest : List Char) :
    readModifier (body.print ++ rest) = (none, body.print ++ rest) := by
  cases body with
  | group inner => rfl
  | matchAll => rfl
  | leaf leaf =>
      obtain ⟨sign, source, same, isSign⟩ := leaf.exists_print_eq_cons
      simp only [List.mem_cons, List.not_mem_nil, or_false] at isSign
      rcases isSign with rfl | rfl | rfl | rfl <;> rw [BodyTree.print, same] <;> rfl
  | field field value =>
      simpa [BodyTree.print] using readModifier_field field (value.print ++ rest)

/-! ### One call of a reader -/

theorem readGroup?_leaf (leaf : LeafText) (rest : List Char) :
    readGroup? allowance (leaf.print ++ rest) = none := by
  obtain ⟨sign, source, same, isSign⟩ := leaf.exists_print_eq_cons
  have noGroup : sign ≠ '(' := by rintro rfl; simp at isSign
  rw [same]
  exact readGroup?_eq_none noGroup _

theorem readFieldBody?_group (field : FieldName) {inside : List Char} {inner : Disjunction}
    (read : readGroup? allowance ('(' :: inside) = some (inner, rest)) :
    readFieldBody? (allowance + 1) (field.characters ++ ':' :: '(' :: inside) =
      some (.fieldGroup field.characters inner, rest) := by
  have noRange : readRange? ('(' :: inside) = none := rfl
  rw [readFieldBody?, readFieldName?_print field rfl]
  simp only [noRange, read]

theorem readFieldBody?_leaf (field : FieldName) (stops : Stops rest) (leaf : LeafText) :
    readFieldBody? (allowance + 1) (field.characters ++ ':' :: (leaf.print ++ rest)) =
      some (.fieldLeaf field.characters leaf.parsed, rest) := by
  rw [readFieldBody?, readFieldName?_print field (leaf.skipBlanks_print rest)]
  simp only [readRange?_leaf, readGroup?_leaf, readLeaf?_print stops, Option.map_some]

theorem readFieldBody?_range (field : FieldName) (opening closing : RangeBracket)
    (lower upper : BoundText) :
    readFieldBody? (allowance + 1)
        (field.characters ++ ':' :: (printRange opening closing lower upper ++ rest)) =
      some (.fieldRange field.characters lower.characters upper.characters, rest) := by
  have noBlank : skipBlanks (printRange opening closing lower upper ++ rest) =
      printRange opening closing lower upper ++ rest := by cases opening <;> rfl
  rw [readFieldBody?, readFieldName?_print field noBlank]
  simp only [readRange?_print]

theorem readBody?_leaf (stops : Stops rest) (leaf : LeafText) :
    readBody? (allowance + 1) (leaf.print ++ rest) = some (.leaf leaf.parsed, rest) := by
  have noField : readFieldBody? allowance (leaf.print ++ rest) = none :=
    readFieldBody?_eq_none (readFieldName?_leaf rest leaf)
  rw [readBody?, readGroup?_leaf]
  simp only [afterLiteral?_matchAll_leaf stops, noField, readLeaf?_print stops, Option.map_some]

theorem readBody?_field (field : FieldName) {value : List Char} {body : Body}
    (read : readFieldBody? allowance (field.characters ++ value) = some (body, rest)) :
    readBody? (allowance + 1) (field.characters ++ value) = some (body, rest) := by
  obtain ⟨character, characters, same⟩ := List.exists_cons_of_ne_nil field.filled
  have named := field.named character (by simp [same])
  have noGroup : character ≠ '(' := by rintro rfl; revert named; decide
  have noStar : '*' ≠ character := by rintro rfl; revert named; decide
  rw [same, List.cons_append] at read ⊢
  rw [readBody?, readGroup?_eq_none noGroup]
  simp only [afterLiteral?, noStar, if_false, read]

theorem readClause?_of_readBody? {source behind : List Char} {modifier : Option Modifier}
    {body : Body} {boost : Option Boost} {bodySource : List Char}
    (modified : (readModifier source).1 = modifier ∧
      skipBlanks (readModifier source).2 = bodySource)
    (read : readBody? allowance bodySource = some (body, behind))
    (weighed : readBoost (skipBlanks behind) = (boost, rest)) :
    readClause? (allowance + 1) source = some (.mk modifier body boost, skipBlanks rest) := by
  obtain ⟨rfl, rfl⟩ := modified
  rw [readClause?]
  simp only [read, weighed]

theorem readDisjunction?_last {source : List Char} {first : Conjunction}
    (ends : EndsDisjunction rest)
    (read : readConjunction? allowance source = some (first, rest)) :
    readDisjunction? (allowance + 1) source = some (.single first, rest) := by
  cases ends with
  | nothing => exact readDisjunction?_single read
  | closing rest =>
      have noOperator : afterOr? (')' :: rest) = none := rfl
      rw [readDisjunction?, read]
      simp only [noOperator, readDisjunction?_closing]

/-! ### Reading a printed part -/

/-- From some allowance on, the reader finds this. -/
def ReadsAs {Read : Type} (reader : Nat → List Char → Option (Read × List Char))
    (source : List Char) (found : Read × List Char) : Prop :=
  ∃ enough, ∀ allowance, enough ≤ allowance → reader allowance source = some found

section Calls

variable {First Second Read : Type} {firstSource secondSource source : List Char}
  {firstReader : Nat → List Char → Option (First × List Char)}
  {secondReader : Nat → List Char → Option (Second × List Char)}
  {reader : Nat → List Char → Option (Read × List Char)}
  {firstFound : First × List Char} {secondFound : Second × List Char}
  {found : Read × List Char}

/-- A reader that needs one more nested call than this finds it from some allowance on. -/
theorem ReadsAs.of_enough (enough : Nat)
    (call : ∀ allowance, enough ≤ allowance → reader (allowance + 1) source = some found) :
    ReadsAs reader source found := by
  refine ⟨enough + 1, fun allowance ample => ?_⟩
  obtain ⟨less, rfl⟩ : ∃ less, allowance = less + 1 := ⟨allowance - 1, by omega⟩
  exact call less (Nat.le_of_succ_le_succ ample)

theorem ReadsAs.of_call
    (call : ∀ allowance, reader (allowance + 1) source = some found) :
    ReadsAs reader source found :=
  .of_enough 0 fun allowance _ => call allowance

theorem ReadsAs.call_both (first : ReadsAs firstReader firstSource firstFound)
    (second : ReadsAs secondReader secondSource secondFound)
    (call : ∀ allowance, firstReader allowance firstSource = some firstFound →
      secondReader allowance secondSource = some secondFound →
      reader (allowance + 1) source = some found) :
    ReadsAs reader source found := by
  obtain ⟨enoughFirst, readsFirst⟩ := first
  obtain ⟨enoughSecond, readsSecond⟩ := second
  refine .of_enough (max enoughFirst enoughSecond) fun allowance ample => ?_
  exact call allowance (readsFirst allowance (by omega)) (readsSecond allowance (by omega))

theorem ReadsAs.call (first : ReadsAs firstReader firstSource firstFound)
    (call : ∀ allowance, firstReader allowance firstSource = some firstFound →
      reader (allowance + 1) source = some found) :
    ReadsAs reader source found :=
  first.call_both first fun allowance reads _ => call allowance reads

end Calls

def DisjunctionTree.ReadsBack (disjunction : DisjunctionTree) : Prop :=
  ∀ {rest}, EndsDisjunction rest →
    ReadsAs readDisjunction? (disjunction.print ++ rest) (disjunction.parsed, rest)

def ConjunctionTree.ReadsBack (conjunction : ConjunctionTree) : Prop :=
  ∀ {rest}, EndsConjunction rest →
    ReadsAs readConjunction? (conjunction.print ++ rest) (conjunction.parsed, skipBlanks rest)

def ClauseTree.ReadsBack (clause : ClauseTree) : Prop :=
  ∀ {rest}, EndsClause rest →
    ReadsAs readClause? (clause.print ++ rest) (clause.parsed, skipBlanks rest)

def BodyTree.ReadsBack (body : BodyTree) : Prop :=
  ∀ {rest}, Stops rest → ReadsAs readBody? (body.print ++ rest) (body.parsed, rest)

def ValueTree.ReadsBack (value : ValueTree) : Prop :=
  ∀ {rest} (field : FieldName), Stops rest →
    ReadsAs readFieldBody? (field.characters ++ ':' :: (value.print ++ rest))
      (value.parsed field, rest)

namespace DisjunctionTree

theorem readsBack_single {first : ConjunctionTree} (readsFirst : first.ReadsBack) :
    (DisjunctionTree.single first).ReadsBack := by
  intro rest ends
  have conjunction := readsFirst (.disjunction ends)
  rw [ends.skipBlanks_eq] at conjunction
  exact conjunction.call fun _ read => readDisjunction?_last ends read

theorem readsBack_more {first : ConjunctionTree} {others : DisjunctionTree}
    (readsFirst : first.ReadsBack) (readsOthers : others.ReadsBack) :
    (DisjunctionTree.more first others).ReadsBack := by
  intro rest ends
  have conjunction := readsFirst (.disjunct (others.print ++ rest))
  have source : (DisjunctionTree.more first others).print ++ rest =
      first.print ++ (orText ++ (others.print ++ rest)) := by simp [print]
  rw [source]
  refine conjunction.call_both (readsOthers ends) fun allowance read readOthers => ?_
  have readNext : readDisjunction? allowance (skipBlanks (' ' :: (others.print ++ rest))) =
      some (others.parsed, rest) := by
    rwa [← others.skipBlanks_print] at readOthers
  exact readDisjunction?_more read rfl readNext

theorem readsAs_group {inner : DisjunctionTree} (readsInner : inner.ReadsBack)
    (rest : List Char) :
    ReadsAs readGroup? (parenthesised inner.print rest) (inner.parsed, rest) := by
  refine (readsInner (.closing rest)).call fun allowance read =>
    readGroup?_eq_some_iff.2 ⟨_, rfl, ?_⟩
  rw [inner.skipBlanks_print]
  exact read

end DisjunctionTree

namespace ConjunctionTree

theorem readsBack_single {first : ClauseTree} (readsFirst : first.ReadsBack) :
    (ConjunctionTree.single first).ReadsBack := by
  intro rest ends
  exact (readsFirst ends.endsClause).call fun _ read =>
    readConjunction?_single read ends.afterAnd?_eq_none

theorem readsBack_more {first : ClauseTree} {others : ConjunctionTree}
    (readsFirst : first.ReadsBack) (readsOthers : others.ReadsBack) :
    (ConjunctionTree.more first others).ReadsBack := by
  intro rest ends
  have clause := readsFirst (.conjunct (others.print ++ rest))
  have source : (ConjunctionTree.more first others).print ++ rest =
      first.print ++ (andText ++ (others.print ++ rest)) := by simp [print]
  rw [source]
  refine clause.call_both (readsOthers ends) fun allowance read readOthers => ?_
  have readNext : readConjunction? allowance (skipBlanks (' ' :: (others.print ++ rest))) =
      some (others.parsed, skipBlanks rest) := by
    rwa [← others.skipBlanks_print] at readOthers
  exact readConjunction?_more read rfl readNext

end ConjunctionTree

theorem readModifier_printed (modifier : Option ModifierSign) (body : BodyTree)
    (rest : List Char) :
    (readModifier (modifier.elim [] ModifierSign.print ++ (body.print ++ rest))).1 =
        modifier.map ModifierSign.modifier ∧
      skipBlanks (readModifier (modifier.elim [] ModifierSign.print ++ (body.print ++ rest))).2 =
        body.print ++ rest := by
  cases modifier with
  | none =>
      rw [Option.elim_none, List.nil_append, body.readModifier_print]
      exact ⟨rfl, body.skipBlanks_print rest⟩
  | some sign =>
      obtain ⟨modified, behind⟩ := readModifier_print sign (body.print ++ rest)
      exact ⟨modified, behind.trans (body.skipBlanks_print rest)⟩

theorem ClauseTree.readsBack_mk (modifier : Option ModifierSign) {body : BodyTree}
    (boost : Option BoostText) (readsBody : body.ReadsBack) :
    (ClauseTree.mk modifier body boost).ReadsBack := by
  intro rest ends
  have source : (ClauseTree.mk modifier body boost).print ++ rest =
      modifier.elim [] ModifierSign.print ++
        (body.print ++ (boost.elim [] BoostText.print ++ rest)) := by simp [print]
  have modified := readModifier_printed modifier body (boost.elim [] BoostText.print ++ rest)
  rw [source]
  cases boost with
  | none =>
      -- Without a boost, blanks are skipped before it and behind it at the same place.
      rw [← ends.skipBlanks_skipBlanks]
      exact (readsBody ends.stops).call fun _ read =>
        readClause?_of_readBody? modified read ends.readBoost_eq_none
  | some boost =>
      exact (readsBody (.caret _)).call fun _ read =>
        readClause?_of_readBody? modified read (readBoost_print ends boost)

namespace BodyTree

theorem readsBack_group {inner : DisjunctionTree} (readsInner : inner.ReadsBack) :
    (BodyTree.group inner).ReadsBack := by
  intro rest stops
  have source : (BodyTree.group inner).print ++ rest = parenthesised inner.print rest := by
    simp [print, parenthesised]
  rw [source]
  refine (DisjunctionTree.readsAs_group readsInner rest).call fun allowance read => ?_
  rw [readBody?, read]
  rfl

theorem readsBack_matchAll : BodyTree.matchAll.ReadsBack := by
  intro rest stops
  refine .of_call fun allowance => ?_
  change readBody? (allowance + 1) ('*' :: ':' :: '*' :: rest) = some (.matchAll, rest)
  rw [readBody?, readGroup?_eq_none (by decide)]
  rfl

theorem readsBack_leaf (leaf : LeafText) : (BodyTree.leaf leaf).ReadsBack := by
  intro rest stops
  exact .of_call fun _ => readBody?_leaf stops leaf

theorem readsBack_field (field : FieldName) {value : ValueTree}
    (readsValue : value.ReadsBack) : (BodyTree.field field value).ReadsBack := by
  intro rest stops
  have source : (BodyTree.field field value).print ++ rest =
      field.characters ++ ':' :: (value.print ++ rest) := by simp [print]
  rw [source]
  exact (readsValue field stops).call fun _ read => readBody?_field field read

end BodyTree

namespace ValueTree

theorem readsBack_group {inner : DisjunctionTree} (readsInner : inner.ReadsBack) :
    (ValueTree.group inner).ReadsBack := by
  intro rest field stops
  have source : (ValueTree.group inner).print ++ rest = parenthesised inner.print rest := by
    simp [print, parenthesised]
  rw [source]
  exact (DisjunctionTree.readsAs_group readsInner rest).call fun _ read =>
    readFieldBody?_group field read

theorem readsBack_leaf (leaf : LeafText) : (ValueTree.leaf leaf).ReadsBack := by
  intro rest field stops
  exact .of_call fun _ => readFieldBody?_leaf field stops leaf

theorem readsBack_range (opening closing : RangeBracket) (lower upper : BoundText) :
    (ValueTree.range opening closing lower upper).ReadsBack := by
  intro rest field _
  exact .of_call fun _ => readFieldBody?_range field opening closing lower upper

end ValueTree

-- The induction follows the tree; what stands behind a part is chosen by the part around it.
mutual

theorem DisjunctionTree.readsBack : (disjunction : DisjunctionTree) → disjunction.ReadsBack
  | .single first => DisjunctionTree.readsBack_single first.readsBack
  | .more first others => DisjunctionTree.readsBack_more first.readsBack others.readsBack

theorem ConjunctionTree.readsBack : (conjunction : ConjunctionTree) → conjunction.ReadsBack
  | .single first => ConjunctionTree.readsBack_single first.readsBack
  | .more first others => ConjunctionTree.readsBack_more first.readsBack others.readsBack

theorem ClauseTree.readsBack : (clause : ClauseTree) → clause.ReadsBack
  | .mk modifier body boost => ClauseTree.readsBack_mk modifier boost body.readsBack

theorem BodyTree.readsBack : (body : BodyTree) → body.ReadsBack
  | .group inner => BodyTree.readsBack_group inner.readsBack
  | .matchAll => BodyTree.readsBack_matchAll
  | .leaf leaf => BodyTree.readsBack_leaf leaf
  | .field field value => BodyTree.readsBack_field field value.readsBack

theorem ValueTree.readsBack : (value : ValueTree) → value.ReadsBack
  | .group inner => ValueTree.readsBack_group inner.readsBack
  | .leaf leaf => ValueTree.readsBack_leaf leaf
  | .range opening closing lower upper => ValueTree.readsBack_range opening closing lower upper

end

theorem DisjunctionTree.read?_print (query : DisjunctionTree) :
    read? query.print = some query.parsed := by
  obtain ⟨enough, reads⟩ := query.readsBack .nothing
  have noBlank := query.skipBlanks_print []
  rw [List.append_nil] at reads noBlank
  exact read?_of_readDisjunction? noBlank (Nat.le_max_left (readingAllowance query.print) enough)
    (reads _ (Nat.le_max_right _ _))

/-- A printed query reads back as its tree, and its leaves stand for their texts. -/
theorem printed_query_reads_back :
    (∀ query : DisjunctionTree, read? query.print = some query.parsed) ∧
      (∀ text : TermText, unescape (LeafText.term text).parsed.written = text.characters) ∧
      (∀ text : List Char, unescape (LeafText.phrase text).parsed.written = text) ∧
      ∀ glob : WildcardText,
        GlobItem.ofText (LeafText.wildcard glob).parsed.written = glob.items :=
  ⟨DisjunctionTree.read?_print, fun text => unescape_escaped text.characters, unescape_escaped,
    fun glob => GlobItem.ofText_written glob.items⟩

end EntitySearch.Query
