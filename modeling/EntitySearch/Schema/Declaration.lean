import EntitySearch.Schema.Configuration

/-!
# Declaring an index

An index is declared in steps, in any order.  Fields add up; a later name, or a
later list of default fields, replaces an earlier one.
-/

namespace EntitySearch

/-- A step by which an entity type declares its index. -/
inductive DeclarationStep
  | name (name : String)
  | field (spec : FieldSpec)
  | defaults (names : List String)
  | extractor
deriving Repr, DecidableEq

namespace IndexDeclaration

/-- The declaration of an entity type before any step. -/
def blank (typeName : String) (version : UInt64) : IndexDeclaration :=
  ⟨typeName, none, version, [], [], false⟩

def take (declaration : IndexDeclaration) : DeclarationStep → IndexDeclaration
  | .name name => { declaration with indexName := some name }
  | .field spec => { declaration with fields := declaration.fields ++ [spec] }
  | .defaults names => { declaration with defaultFields := names }
  | .extractor => { declaration with hasExtractor := true }

def ofSteps (typeName : String) (version : UInt64) (steps : List DeclarationStep) :
    IndexDeclaration :=
  steps.foldl take (blank typeName version)

end IndexDeclaration

end EntitySearch
