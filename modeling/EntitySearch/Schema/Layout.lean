import EntitySearch.Schema.Field

/-!
# Field layouts

The layout of an index lists its fields in order and says how each one is kept:
which values it takes, whether they can be searched, and whether a document
gives them back.
-/

namespace EntitySearch

/-- How the text of a field is cut into terms. -/
inductive TermRule
  /-- The whole text is one term. -/
  | whole
  /-- The text is analysed into words. -/
  | words
  /-- Some other rule, which queries of this library do not use. -/
  | other
deriving Repr, DecidableEq

/-- The values that a field takes and how they are searched. -/
inductive FieldContent
  | text (terms : Option TermRule)
  | unsigned (indexed fast : Bool)
  | signed (indexed fast : Bool)
  | floating
  | boolean
deriving Repr, DecidableEq

structure LayoutField where
  name : String
  content : FieldContent
  stored : Bool
deriving Repr, DecidableEq

/-- The fields of an index in order. -/
structure Layout where
  fields : List LayoutField
deriving Repr, DecidableEq

/-- The layout field that a declared field becomes. -/
def FieldSpec.layoutField (spec : FieldSpec) : LayoutField :=
  match spec.kind with
  | .text stored => ⟨spec.name, .text (some .words), stored⟩
  | .keyword => ⟨spec.name, .text (some .whole), true⟩
  | .unsigned => ⟨spec.name, .unsigned true true, true⟩
  | .signed => ⟨spec.name, .signed true true, true⟩

namespace Layout

def coreFields : List LayoutField :=
  [⟨CoreField.kind, .text (some .whole), true⟩,
   ⟨CoreField.entity, .unsigned true true, true⟩,
   ⟨CoreField.project, .unsigned true true, true⟩,
   ⟨CoreField.schemaVersion, .unsigned false false, true⟩,
   ⟨CoreField.progressMark, .unsigned false false, true⟩]

def ofSpecs (specs : List FieldSpec) : Layout :=
  ⟨coreFields ++ specs.map FieldSpec.layoutField⟩

/-- The field of the given name; the last one if a name is repeated. -/
def find? (layout : Layout) (name : String) : Option LayoutField :=
  layout.fields.reverse.find? (·.name == name)

/-- The first core field that the layout lacks. -/
def missingCoreField? (layout : Layout) : Option String :=
  CoreField.names.find? fun name => !layout.fields.any (·.name == name)

end Layout

end EntitySearch
