import EntitySearch.Pattern.Basic
import EntitySearch.Pattern.Glob

/-!
# The language of a glob

What a written glob matches is said here without patterns, by one rule for every
way in which the glob can go on.  The pattern text that a glob is rendered as
matches exactly this, with one restriction: no sign of a pattern stands for a line
feed.  Every character that means something in a pattern text gets a backslash, so
the items that are read from the rendered text are the parts of the glob again.
-/

namespace EntitySearch

/-- The glob matches the text, where its signs may stand for the characters in `wild`. -/
inductive GlobMatches (wild : Char → Prop) : List Char → List Char → Prop
  | nothing : GlobMatches wild [] []
  /-- An asterisk stands for any run of characters. -/
  | anyRun {glob run text : List Char} (admitted : ∀ character ∈ run, wild character)
      (rest : GlobMatches wild glob text) : GlobMatches wild ('*' :: glob) (run ++ text)
  /-- A question mark stands for exactly one character. -/
  | anyOne {glob text : List Char} {character : Char} (admitted : wild character)
      (rest : GlobMatches wild glob text) : GlobMatches wild ('?' :: glob) (character :: text)
  /-- A character behind a backslash stands for itself. -/
  | escaped {glob text : List Char} {character : Char} (rest : GlobMatches wild glob text) :
      GlobMatches wild ('\\' :: character :: glob) (character :: text)
  /-- A backslash at the end stands for nothing. -/
  | unpaired : GlobMatches wild ['\\'] []
  /-- Every other character stands for itself. -/
  | plain {glob text : List Char} {character : Char} (noSign : character ∉ ['*', '?', '\\'])
      (rest : GlobMatches wild glob text) :
      GlobMatches wild (character :: glob) (character :: text)

/-- Only what the signs may stand for within the text matters. -/
theorem GlobMatches.of_admitted {wild other : Char → Prop} {glob text : List Char}
    (matched : GlobMatches wild glob text)
    (admitted : ∀ character ∈ text, wild character → other character) :
    GlobMatches other glob text := by
  induction matched with
  | nothing => exact .nothing
  | anyRun run rest ih =>
      refine .anyRun (fun character inside => ?_) (ih fun character inside => ?_)
      · exact admitted character (List.mem_append_left _ inside) (run character inside)
      · exact admitted character (List.mem_append_right _ inside)
  | anyOne one rest ih =>
      exact .anyOne (admitted _ List.mem_cons_self one)
        (ih fun character inside => admitted character (List.mem_cons_of_mem _ inside))
  | escaped rest ih =>
      exact .escaped (ih fun character inside => admitted character (List.mem_cons_of_mem _ inside))
  | unpaired => exact .unpaired
  | plain noSign rest ih =>
      exact .plain noSign
        (ih fun character inside => admitted character (List.mem_cons_of_mem _ inside))

/-! ### The items of a rendered glob -/

namespace GlobItem

/-- The part of a glob as an item of a pattern. -/
def patternItem : GlobItem → PatternItem
  | .literal character => .literal character
  | .anyOne => .anyOne
  | .anyRun => .anyRun

/-- No rendered part starts with an asterisk, which would belong to the point before it. -/
theorem ne_asterisk_of_patternText {items : List GlobItem} {character : Char} {rest : List Char}
    (rendered : items.flatMap patternText = character :: rest) : character ≠ '*' := by
  rintro rfl
  cases items with
  | nil => cases rendered
  | cons item items =>
      cases item with
      | literal literal =>
          rw [List.flatMap_cons, patternText] at rendered
          split at rendered
          case isTrue => simp at rendered
          case isFalse noSign =>
            obtain ⟨rfl, -⟩ := List.cons.inj rendered
            exact noSign (by decide)
      | anyOne => simp [patternText] at rendered
      | anyRun => simp [patternText] at rendered

theorem ofText_point {rest : List Char} (noAsterisk : ∀ behind, rest ≠ '*' :: behind) :
    PatternItem.ofText ('.' :: rest) = .anyOne :: PatternItem.ofText rest := by
  rw [PatternItem.ofText]
  exact noAsterisk

theorem ofText_literal (character : Char) (rest : List Char) :
    PatternItem.ofText (patternText (.literal character) ++ rest) =
      .literal character :: PatternItem.ofText rest := by
  rw [patternText]
  split
  case isTrue => rfl
  case isFalse noSign =>
    have notPoint : character ≠ '.' := by
      rintro rfl
      exact noSign (by decide)
    have notBackslash : character ≠ '\\' := by
      rintro rfl
      exact noSign (by decide)
    simp [PatternItem.ofText, notPoint, notBackslash]

theorem ofText_patternText (items : List GlobItem) :
    PatternItem.ofText (items.flatMap patternText) = items.map patternItem := by
  induction items with
  | nil => rfl
  | cons item items ih =>
      rw [List.flatMap_cons, List.map_cons, ← ih]
      cases item with
      | literal character => exact ofText_literal character _
      | anyOne => exact ofText_point fun behind rendered => ne_asterisk_of_patternText rendered rfl
      | anyRun => rfl

end GlobItem

/-! ### Matching -/

namespace PatternItem

theorem afterSomeRun_iff {test : List Char → Bool} {text : List Char} :
    afterSomeRun test text = true ↔ ∃ run rest, text = run ++ rest ∧
      (∀ character ∈ run, admits character = true) ∧ test rest = true := by
  induction text with
  | nil =>
      constructor
      · intro passes
        exact ⟨[], [], rfl, by simp, passes⟩
      · rintro ⟨run, rest, same, -, passes⟩
        obtain ⟨rfl, rfl⟩ := List.append_eq_nil_iff.1 same.symm
        exact passes
  | cons character text ih =>
      rw [afterSomeRun, Bool.or_eq_true, Bool.and_eq_true, ih]
      constructor
      · rintro (here | ⟨admitted, run, rest, rfl, others, passes⟩)
        · exact ⟨[], character :: text, rfl, by simp, here⟩
        · exact ⟨character :: run, rest, rfl, List.forall_mem_cons.2 ⟨admitted, others⟩, passes⟩
      · rintro ⟨run, rest, same, admitted, passes⟩
        cases run with
        | nil => exact .inl (same ▸ passes)
        | cons first run =>
            obtain ⟨rfl, rfl⟩ := List.cons.inj same
            obtain ⟨firstAdmitted, others⟩ := List.forall_mem_cons.1 admitted
            exact .inr ⟨firstAdmitted, run, rest, rfl, others, passes⟩

theorem matchAll_literal {expected : Char} {items : List PatternItem} {text : List Char} :
    matchAll (.literal expected :: items) text = true ↔
      ∃ rest, text = expected :: rest ∧ matchAll items rest = true := by
  cases text with
  | nil => simp [matchAll]
  | cons character text => simp [matchAll, and_assoc]

theorem matchAll_anyOne {items : List PatternItem} {text : List Char} :
    matchAll (.anyOne :: items) text = true ↔ ∃ character rest, text = character :: rest ∧
      admits character = true ∧ matchAll items rest = true := by
  cases text with
  | nil => simp [matchAll]
  | cons character text => simp [matchAll, and_assoc]

end PatternItem

/-- The parts of a glob match what the glob matches, line feeds under its signs apart. -/
theorem matchAll_ofText_iff (glob : List Char) (text : List Char) :
    PatternItem.matchAll ((GlobItem.ofText glob).map GlobItem.patternItem) text = true ↔
      GlobMatches (PatternItem.admits · = true) glob text := by
  fun_induction GlobItem.ofText glob generalizing text with
  | case1 =>
      simp only [List.map_nil, PatternItem.matchAll, List.isEmpty_iff]
      constructor
      · rintro rfl
        exact .nothing
      · rintro ⟨⟩
        rfl
  | case2 rest ih =>
      simp only [List.map_cons, GlobItem.patternItem, PatternItem.matchAll,
        PatternItem.afterSomeRun_iff, ih]
      constructor
      · rintro ⟨run, behind, rfl, admitted, matched⟩
        exact .anyRun admitted matched
      · intro matched
        cases matched with
        | anyRun admitted matched => exact ⟨_, _, rfl, admitted, matched⟩
        | plain noSign => exact (noSign (by decide)).elim
  | case3 rest ih =>
      simp only [List.map_cons, GlobItem.patternItem, PatternItem.matchAll_anyOne, ih]
      constructor
      · rintro ⟨character, behind, rfl, admitted, matched⟩
        exact .anyOne admitted matched
      · intro matched
        cases matched with
        | anyOne admitted matched => exact ⟨_, _, rfl, admitted, matched⟩
        | plain noSign => exact (noSign (by decide)).elim
  | case4 character rest ih =>
      simp only [List.map_cons, GlobItem.patternItem, PatternItem.matchAll_literal, ih]
      constructor
      · rintro ⟨behind, rfl, matched⟩
        exact .escaped matched
      · intro matched
        cases matched with
        | escaped matched => exact ⟨_, rfl, matched⟩
        | plain noSign => exact (noSign (by decide)).elim
  | case5 rest _ _ unpaired ih =>
      -- a backslash with a next character would have been taken together with it
      cases rest with
      | cons character rest => exact (unpaired character rest rfl rfl).elim
      | nil =>
          rw [ih]
          constructor
          · rintro ⟨⟩
            exact .unpaired
          · intro matched
            cases matched with
            | unpaired => exact .nothing
            | plain noSign => exact (noSign (by decide)).elim
  | case6 character rest notRun notOne _ notBackslash ih =>
      have noSign : character ∉ ['*', '?', '\\'] := by
        simpa only [List.mem_cons, List.not_mem_nil, or_false, not_or] using
          ⟨notRun, notOne, notBackslash⟩
      simp only [List.map_cons, GlobItem.patternItem, PatternItem.matchAll_literal, ih]
      constructor
      · rintro ⟨behind, rfl, matched⟩
        exact .plain noSign matched
      · intro matched
        cases matched with
        | anyRun => exact (notRun rfl).elim
        | anyOne => exact (notOne rfl).elim
        | escaped => exact (notBackslash rfl).elim
        | unpaired => exact (notBackslash rfl).elim
        | plain _ matched => exact ⟨_, rfl, matched⟩

/-- The pattern text of a glob matches what the glob matches, line feeds under its signs
apart. -/
theorem matchAll_globPattern_iff (glob text : List Char) :
    PatternItem.matchAll (PatternItem.ofText (globPattern glob)) text = true ↔
      GlobMatches (PatternItem.admits · = true) glob text := by
  rw [globPattern, GlobItem.ofText_patternText]
  exact matchAll_ofText_iff glob text

end EntitySearch
