import EntitySearch.Text.Blank
import EntitySearch.Text.FilePath
import EntitySearch.Text.IndexName
import EntitySearch.Schema.Layout

/-!
# Index configurations

An entity type declares its index: a name, a version, fields and the fields that
an unqualified query term searches.  A declaration without fault becomes a
configuration; the fault that is reported is the first one met when the parts
are judged in the order type name, index name, fields, default fields, extractor.
-/

namespace EntitySearch

/-- What an entity type declares about its index. -/
structure IndexDeclaration where
  typeName : String
  indexName : Option String
  version : UInt64
  fields : List FieldSpec
  defaultFields : List String
  hasExtractor : Bool
deriving Repr, DecidableEq

inductive ConfigurationFault
  | emptyTypeName
  | invalidIndexName (name : String)
  | invalidFieldName (name : String)
  | reservedField (name : String)
  | repeatedField (name : String)
  | unsuitableDefault (name : String)
  | undeclaredDefault (name : String)
  | missingExtractor (typeName : String)
deriving Repr, DecidableEq

def ConfigurationFault.message : ConfigurationFault → String
  | .emptyTypeName => "entity type name must not be empty"
  | .invalidIndexName name => "invalid index name '" ++ name ++ "'"
  | .invalidFieldName name => "invalid field name '" ++ name ++ "'"
  | .reservedField name => "field name '" ++ name ++ "' is reserved"
  | .repeatedField name => "field '" ++ name ++ "' declared twice"
  | .unsuitableDefault name =>
      "default query field '" ++ name ++ "' must be a text or keyword field"
  | .undeclaredDefault name => "default query field '" ++ name ++ "' is not declared"
  | .missingExtractor typeName => "no field extractor configured for " ++ typeName

/-- Whether the name can name a field: ASCII letters, digits and underscores. -/
def isFieldName (name : String) : Bool :=
  !name.toList.isEmpty &&
    name.toList.all fun character => character.isAlphanum || character == '_'

/-- Whether the name can name an index and its directory: ASCII letters, digits,
underscores and hyphens. -/
def isIndexName (name : String) : Bool :=
  !name.toList.isEmpty &&
    name.toList.all fun character =>
      character.isAlphanum || character == '_' || character == '-'

/-- The first fault of a list of fields, given the names declared before them. -/
def fieldFault? (earlier : List String) : List FieldSpec → Option ConfigurationFault
  | [] => none
  | spec :: specs =>
      if !isFieldName spec.name then some (.invalidFieldName spec.name)
      else if isReserved spec.name then some (.reservedField spec.name)
      else if earlier.contains spec.name then some (.repeatedField spec.name)
      else fieldFault? (spec.name :: earlier) specs

def defaultFieldFault? (fields : List FieldSpec) (name : String) : Option ConfigurationFault :=
  match fields.find? (·.name == name) with
  | some spec => if spec.kind.isTextual then none else some (.unsuitableDefault name)
  | none => some (.undeclaredDefault name)

namespace IndexDeclaration

/-- The declared index name, or else the one derived from the type name. -/
def effectiveIndexName (declaration : IndexDeclaration) : String :=
  declaration.indexName.getD (Text.indexNameFor declaration.typeName)

def fault? (declaration : IndexDeclaration) : Option ConfigurationFault :=
  if (Text.trimBlanks declaration.typeName.toList).isEmpty then some .emptyTypeName
  else if !isIndexName declaration.effectiveIndexName then
    some (.invalidIndexName declaration.effectiveIndexName)
  else
    (fieldFault? [] declaration.fields).or <|
      (declaration.defaultFields.findSome? (defaultFieldFault? declaration.fields)).or <|
        if declaration.hasExtractor then none
        else some (.missingExtractor declaration.typeName)

end IndexDeclaration

structure IndexConfiguration where
  declaration : IndexDeclaration
  accepted : declaration.fault? = none

namespace IndexDeclaration

/-- The configuration that a declaration without fault describes. -/
def build (declaration : IndexDeclaration) : Except ConfigurationFault IndexConfiguration :=
  match judged : declaration.fault? with
  | none => .ok ⟨declaration, judged⟩
  | some fault => .error fault

end IndexDeclaration

namespace IndexConfiguration

def typeName (configuration : IndexConfiguration) : String :=
  configuration.declaration.typeName

def indexName (configuration : IndexConfiguration) : String :=
  configuration.declaration.effectiveIndexName

/-- The version of the index contents; an index of another version is rebuilt. -/
def version (configuration : IndexConfiguration) : UInt64 :=
  configuration.declaration.version

def fields (configuration : IndexConfiguration) : List FieldSpec :=
  configuration.declaration.fields

/-- The fields that an unqualified query term searches; all text fields when empty. -/
def defaultFields (configuration : IndexConfiguration) : List String :=
  configuration.declaration.defaultFields

def layout (configuration : IndexConfiguration) : Layout :=
  Layout.ofSpecs configuration.fields

def directory (configuration : IndexConfiguration) (root : String) : String :=
  Text.joinPath root configuration.indexName

end IndexConfiguration

end EntitySearch
