/-!
# Query syntax

A query is a disjunction of conjunctions of clauses.  A clause demands,
forbids or merely wants what its body matches, and may weigh it with a boost.
Bodies are groups, the match-all sign, leaves, and the same under a field name.
Leaves keep their text as it is written, backslashes included.
-/

namespace EntitySearch.Query

/-- What stands before a clause. -/
inductive Modifier
  | must
  | mustNot
deriving Repr, DecidableEq

/-- The decimal behind a caret. -/
structure Boost where
  whole : List Char
  fraction : Option (List Char)
deriving Repr, DecidableEq

inductive LeafKind
  | phrase
  | wildcard
  | term
deriving Repr, DecidableEq

/-- A phrase, a wildcard or a term as it is written; a phrase without its quotes. -/
structure Leaf where
  kind : LeafKind
  written : List Char
deriving Repr, DecidableEq

mutual

/-- One or more conjunctions of which any may hold. -/
inductive Disjunction
  | single (first : Conjunction)
  | more (first : Conjunction) (rest : Disjunction)

/-- One or more clauses that hold together. -/
inductive Conjunction
  | single (first : Clause)
  | more (first : Clause) (rest : Conjunction)

/-- A body with an optional modifier and an optional boost. -/
inductive Clause
  | mk (modifier : Option Modifier) (body : Body) (boost : Option Boost)

/-- What a clause is about. -/
inductive Body
  | group (inner : Disjunction)
  | matchAll
  | leaf (leaf : Leaf)
  | fieldGroup (field : List Char) (inner : Disjunction)
  | fieldLeaf (field : List Char) (leaf : Leaf)
  | fieldRange (field lower upper : List Char)

end

/-- The text that a written leaf stands for: a backslash makes the next character literal,
and one that has no next character stands for nothing. -/
def unescape : List Char → List Char
  | [] => []
  | '\\' :: character :: rest => character :: unescape rest
  | character :: rest => if character = '\\' then unescape rest else character :: unescape rest

def Conjunction.clauses : Conjunction → List Clause
  | .single first => [first]
  | .more first rest => first :: rest.clauses

def Disjunction.conjunctions : Disjunction → List Conjunction
  | .single first => [first]
  | .more first rest => first :: rest.conjunctions

end EntitySearch.Query
