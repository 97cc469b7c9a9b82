import EntitySearch.Json.QuotedText

/-!
# Laws of quoted text

A quoted text is found whole by the splitting at its closing quote, and it gives
the text back when it is unquoted.
-/

namespace EntitySearch.QuotedText

theorem codeUnit?_control : ∀ unit < 0x20,
    codeUnit? '0' '0' (hexDigit (unit / 16)) (hexDigit (unit % 16)) = some unit := by
  decide

/-- A character is written as a letter behind a backslash, by its code, or as it is. -/
theorem quoteCharacter_cases (character : Char) :
    (∃ letter, letter ≠ 'u' ∧ shortEscape? letter = some character ∧
      quoteCharacter character = ['\\', letter]) ∨
    (character.toNat < 0x20 ∧ quoteCharacter character =
      ['\\', 'u', '0', '0', hexDigit (character.toNat / 16),
        hexDigit (character.toNat % 16)]) ∨
    (character ≠ '\\' ∧ character ≠ '"' ∧ ¬character.toNat < 0x20 ∧
      quoteCharacter character = [character]) := by
  by_cases isQuote : character = '"'
  · exact Or.inl ⟨'"', by decide, by rw [isQuote]; rfl, by rw [isQuote]; rfl⟩
  by_cases isBackslash : character = '\\'
  · exact Or.inl ⟨'\\', by decide, by rw [isBackslash]; rfl, by rw [isBackslash]; rfl⟩
  by_cases isNewline : character = '\n'
  · exact Or.inl ⟨'n', by decide, by rw [isNewline]; rfl, by rw [isNewline]; rfl⟩
  by_cases isReturn : character = '\r'
  · exact Or.inl ⟨'r', by decide, by rw [isReturn]; rfl, by rw [isReturn]; rfl⟩
  by_cases isTab : character = '\t'
  · exact Or.inl ⟨'t', by decide, by rw [isTab]; rfl, by rw [isTab]; rfl⟩
  by_cases isBackspace : character.toNat = 8
  · have same : character = Char.ofNat 8 := by rw [← isBackspace, Char.ofNat_toNat]
    exact Or.inl ⟨'b', by decide, by rw [same]; rfl, by rw [same]; rfl⟩
  by_cases isFormFeed : character.toNat = 12
  · have same : character = Char.ofNat 12 := by rw [← isFormFeed, Char.ofNat_toNat]
    exact Or.inl ⟨'f', by decide, by rw [same]; rfl, by rw [same]; rfl⟩
  have rest : quoteCharacter character = if character.toNat < 0x20 then
      ['\\', 'u', '0', '0', hexDigit (character.toNat / 16), hexDigit (character.toNat % 16)]
      else [character] := by
    rw [quoteCharacter, if_neg isQuote, if_neg isBackslash, if_neg isNewline, if_neg isReturn,
      if_neg isTab, if_neg isBackspace, if_neg isFormFeed]
  by_cases isControl : character.toNat < 0x20
  · exact Or.inr (Or.inl ⟨isControl, rest.trans (if_pos isControl)⟩)
  · exact Or.inr (Or.inr ⟨isBackslash, isQuote, isControl, rest.trans (if_neg isControl)⟩)

theorem unquote?_letter {letter character : Char} (notCode : letter ≠ 'u')
    (escape : shortEscape? letter = some character) (rest : List Char) :
    unquote? ('\\' :: letter :: rest) = (unquote? rest).map (character :: ·) := by
  rw [unquote?.eq_3]
  · simp only [escape]
  · intro first second third fourth rest isCode _
    exact notCode isCode

theorem unquote?_plain {character : Char} (notBackslash : character ≠ '\\')
    (notQuote : character ≠ '"') (notControl : ¬character.toNat < 0x20) (rest : List Char) :
    unquote? (character :: rest) = (unquote? rest).map (character :: ·) := by
  rw [unquote?.eq_4]
  · simp [notBackslash, notQuote, notControl]
  · intro first second third fourth rest isBackslash _
    exact notBackslash isBackslash
  · intro letter rest isBackslash _
    exact notBackslash isBackslash

theorem unquote?_quoteCharacter (character : Char) (rest : List Char) :
    unquote? (quoteCharacter character ++ rest) = (unquote? rest).map (character :: ·) := by
  rcases quoteCharacter_cases character with
    ⟨letter, notCode, escape, written⟩ | ⟨isControl, written⟩ | ⟨notBackslash, notQuote,
      notControl, written⟩
  · rw [written]
    exact unquote?_letter notCode escape rest
  · have sameCharacter : Char.ofNat character.toNat = character := Char.ofNat_toNat character
    have notTrailing : isTrailingSurrogate character.toNat = false := by
      simp only [isTrailingSurrogate, Bool.and_eq_false_iff, decide_eq_false_iff_not]
      omega
    have notLeading : isLeadingSurrogate character.toNat = false := by
      simp only [isLeadingSurrogate, Bool.and_eq_false_iff, decide_eq_false_iff_not]
      omega
    rw [written]
    show unquote? ('\\' :: 'u' :: '0' :: '0' :: _ :: _ :: rest) = _
    rw [unquote?.eq_2]
    simp only [codeUnit?_control _ isControl, notTrailing, notLeading, Bool.false_eq_true,
      ite_false, sameCharacter]
  · rw [written]
    exact unquote?_plain notBackslash notQuote notControl rest

@[simp] theorem unquote?_quote (text : List Char) : unquote? (quote text) = some text := by
  induction text with
  | nil => rfl
  | cons character text ih =>
      rw [quote, List.flatMap_cons, unquote?_quoteCharacter, ← quote, ih]
      rfl

theorem split?_letter {letter : Char} (notCode : letter ≠ 'u')
    (escape : (shortEscape? letter).isSome) (rest : List Char) :
    split? ('\\' :: letter :: rest) =
      (split? rest).map fun (written, rest) => ('\\' :: letter :: written, rest) := by
  rw [split?.eq_4]
  · simp only [escape, ite_true]
  · intro first second third fourth rest isCode _
    exact notCode isCode

theorem split?_plain {character : Char} (notBackslash : character ≠ '\\')
    (notQuote : character ≠ '"') (notControl : ¬character.toNat < 0x20) (rest : List Char) :
    split? (character :: rest) =
      (split? rest).map fun (written, rest) => (character :: written, rest) := by
  rw [split?.eq_5]
  · simp [notBackslash, notControl]
  · exact notQuote
  · intro first second third fourth rest isBackslash _
    exact notBackslash isBackslash
  · intro letter rest isBackslash _
    exact notBackslash isBackslash

theorem split?_quoteCharacter (character : Char) (rest : List Char) :
    split? (quoteCharacter character ++ rest) =
      (split? rest).map fun (written, rest) => (quoteCharacter character ++ written, rest) := by
  rcases quoteCharacter_cases character with
    ⟨letter, notCode, escape, written⟩ | ⟨isControl, written⟩ | ⟨notBackslash, notQuote,
      notControl, written⟩
  · rw [written]
    exact split?_letter notCode (by rw [escape]; rfl) rest
  · rw [written]
    show split? ('\\' :: 'u' :: '0' :: '0' :: _ :: _ :: rest) = _
    rw [split?.eq_3]
    simp only [codeUnit?_control _ isControl, Option.isSome_some, ite_true]
    rfl
  · rw [written]
    exact split?_plain notBackslash notQuote notControl rest

/-- A quoted text ends at the quote behind it. -/
theorem split?_quote (text rest : List Char) :
    split? (quote text ++ '"' :: rest) = some (quote text, rest) := by
  induction text with
  | nil => rfl
  | cons character text ih =>
      rw [quote, List.flatMap_cons, List.append_assoc, split?_quoteCharacter, ← quote, ih]
      rfl

end EntitySearch.QuotedText
