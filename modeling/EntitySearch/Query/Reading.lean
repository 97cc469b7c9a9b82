import EntitySearch.Query.Lexicon

/-!
# Reading queries

The reader decides at each place by what stands there and never takes a decision
back: an operator commits to another operand, a field name with a colon to a
value, and what a run of characters can be is tried in the order wildcard, term.
Blanks may stand between all parts.  The nesting of calls is bounded by an
allowance that starts well above the length of the query.
-/

namespace EntitySearch.Query

mutual

/-- One or more conjunctions; the operator between them may be left out. -/
def readDisjunction? : Nat → List Char → Option (Disjunction × List Char)
  | 0, _ => none
  | allowance + 1, source =>
      match readConjunction? allowance source with
      | none => none
      | some (first, rest) =>
          let next := match afterOr? rest with
            | some rest => skipBlanks rest
            | none => rest
          match readDisjunction? allowance next with
          | some (others, rest) => some (.more first others, rest)
          | none => some (.single first, rest)

/-- One or more clauses with operators between them. -/
def readConjunction? : Nat → List Char → Option (Conjunction × List Char)
  | 0, _ => none
  | allowance + 1, source =>
      match readClause? allowance source with
      | none => none
      | some (first, rest) =>
          match afterAnd? rest with
          | none => some (.single first, rest)
          | some next =>
              match readConjunction? allowance (skipBlanks next) with
              | some (others, rest) => some (.more first others, rest)
              | none => some (.single first, rest)

/-- A clause, with the blanks behind it. -/
def readClause? : Nat → List Char → Option (Clause × List Char)
  | 0, _ => none
  | allowance + 1, source =>
      let (modifier, rest) := readModifier source
      match readBody? allowance (skipBlanks rest) with
      | none => none
      | some (body, rest) =>
          let (boost, rest) := readBoost (skipBlanks rest)
          some (.mk modifier body boost, skipBlanks rest)

def readBody? : Nat → List Char → Option (Body × List Char)
  | 0, _ => none
  | allowance + 1, source =>
      match readGroup? allowance source with
      | some (inner, rest) => some (.group inner, rest)
      | none =>
          match afterLiteral? ['*', ':', '*'] source with
          | some rest => some (.matchAll, rest)
          | none =>
              match readFieldBody? allowance source with
              | some found => some found
              | none => (readLeaf? source).map fun (leaf, rest) => (.leaf leaf, rest)

/-- A disjunction in parentheses. -/
def readGroup? : Nat → List Char → Option (Disjunction × List Char)
  | 0, _ => none
  | allowance + 1, source =>
      match source with
      | '(' :: rest =>
          match readDisjunction? allowance (skipBlanks rest) with
          | some (inner, ')' :: rest) => some (inner, rest)
          | _ => none
      | _ => none

/-- A field name with a range, a group or a leaf. -/
def readFieldBody? : Nat → List Char → Option (Body × List Char)
  | 0, _ => none
  | allowance + 1, source =>
      match readFieldName? source with
      | none => none
      | some (field, rest) =>
          match readRange? rest with
          | some ((lower, upper), rest) => some (.fieldRange field lower upper, rest)
          | none =>
              match readGroup? allowance rest with
              | some (inner, rest) => some (.fieldGroup field inner, rest)
              | none =>
                  (readLeaf? rest).map fun (leaf, rest) => (.fieldLeaf field leaf, rest)

end

/-- More nested calls than reading a query of this length takes. -/
def readingAllowance (source : List Char) : Nat :=
  6 * source.length + 6

/-- The query that makes up a whole text. -/
def read? (source : List Char) : Option Disjunction :=
  match readDisjunction? (readingAllowance source) (skipBlanks source) with
  | some (query, []) => some query
  | _ => none

end EntitySearch.Query
