import EntitySearch.Analysis.Analyzer
import EntitySearch.Document.Kind
import EntitySearch.Failure
import EntitySearch.Pattern.Automaton
import EntitySearch.Pattern.Glob
import EntitySearch.Query.Fault
import EntitySearch.Query.Plan
import EntitySearch.Query.Reading
import EntitySearch.Schema.Layout
import EntitySearch.Text.Blank
import EntitySearch.Text.Integer

/-!
# Translating queries

A translator knows the fields that queries can name, and the fields that a leaf
without a field name searches.  It turns a query into a plan that matches entity
documents only.  A leaf of stop words has no plan and drops out of the
combination around it; a query without any other leaf matches nothing.  A clause
about a field that the index lacks matches nothing either, but the bounds of its
ranges must be integers.
-/

namespace EntitySearch

/-- How queries treat a field: as analysed text, as text taken whole, or as a number. -/
inductive FieldClass
  | words
  | whole
  | unsigned
  | signed
deriving Repr, DecidableEq

def FieldClass.isNumeric : FieldClass → Bool
  | .words => false
  | .whole => false
  | .unsigned => true
  | .signed => true

/-- A field that queries can name. -/
structure QueryField where
  name : String
  fieldClass : FieldClass
deriving Repr, DecidableEq

/-- The class of a layout field, if queries can name it. -/
def FieldContent.queryClass? : FieldContent → Option FieldClass
  | .text (some .words) => some .words
  | .text (some _) => some .whole
  | .text none => none
  | .unsigned true _ => some .unsigned
  | .signed true _ => some .signed
  | _ => none

/-- The field as queries see it.  Of the core fields they see the identifier and the
project. -/
def LayoutField.queryField? (field : LayoutField) : Option QueryField :=
  if isReserved field.name && field.name != CoreField.entity &&
      field.name != CoreField.project then none
  else field.content.queryClass?.map (⟨field.name, ·⟩)

/-- The fields of one index as queries see them. -/
structure Translator where
  fields : List QueryField
  defaults : List QueryField
deriving Repr, DecidableEq

namespace Translator

open Query

/-- The field of a name; the last one if a name is repeated. -/
def find? (fields : List QueryField) (name : String) : Option QueryField :=
  fields.reverse.find? (·.name == name)

/-- The field of a default name, which must not hold numbers. -/
def defaultField? (fields : List QueryField) (name : String) : Except SearchFailure QueryField :=
  match find? fields name with
  | some field =>
      if field.fieldClass.isNumeric then
        .error (.invalidConfiguration ("'" ++ name ++ "' cannot be a default query field"))
      else .ok field
  | none =>
      .error (.invalidConfiguration ("'" ++ name ++ "' cannot be a default query field"))

/-- The translator of a layout.  Without default names every field of analysed text is a
default. -/
def ofLayout (layout : Layout) (defaultNames : List String) :
    Except SearchFailure Translator :=
  match layout.missingCoreField? with
  | some name => .error (.engine (.missingField name))
  | none =>
      let fields := layout.fields.filterMap LayoutField.queryField?
      if defaultNames.isEmpty then
        .ok ⟨fields, fields.filter (·.fieldClass == .words)⟩
      else
        match defaultNames.mapM (defaultField? fields) with
        | .ok defaults => .ok ⟨fields, defaults⟩
        | .error failure => .error failure

/-- A plan, or nothing where only stop words were asked for. -/
abbrev Planned := Except QueryFault (Option QueryPlan)

/-- Combines clauses.  Without clauses there is no plan; a single clause that is not
forbidden stands for itself; where all are forbidden everything else matches. -/
def combine : List (Occurrence × QueryPlan) → Option QueryPlan
  | [] => none
  | [(.should, plan)] => some plan
  | [(.must, plan)] => some plan
  | clauses =>
      if clauses.all (·.1 == .mustNot) then
        some (.combination (clauses ++ [(.must, .all)]))
      else some (.combination clauses)

/-- The integer of a text in a field of unsigned numbers. -/
def unsignedIn (field : String) (text : List Char) : Except QueryFault UInt64 :=
  match Text.unsigned? (Text.trimBlanks text) with
  | some value => .ok value
  | none => .error (.notAnInteger (String.ofList text) field)

/-- The integer of a text in a field of signed numbers. -/
def signedIn (field : String) (text : List Char) : Except QueryFault Int64 :=
  match Text.signed? (Text.trimBlanks text) with
  | some value => .ok value
  | none => .error (.notAnInteger (String.ofList text) field)

/-- A bound of a range; an asterisk leaves the side open. -/
def bound {Value : Type} (value : List Char → Except QueryFault Value) (text : List Char) :
    Except QueryFault (Option Value) :=
  if text = ['*'] then .ok none
  else (value text).map some

/-- Demands that a bound is an asterisk or an integer of either kind. -/
def checkBound (field : String) (text : List Char) : Except QueryFault Unit :=
  if text = ['*'] then .ok ()
  else
    match signedIn field text with
    | .ok _ => .ok ()
    | .error _ => (unsignedIn field text).map fun _ => ()

/-- The plan of a range on a field; on text nothing matches. -/
def rangePlan (field : QueryField) (lower upper : List Char) : Except QueryFault QueryPlan :=
  match field.fieldClass with
  | .unsigned => do
      let lower ← bound (unsignedIn field.name) lower
      let upper ← bound (unsignedIn field.name) upper
      return .unsignedRange field.name lower upper
  | .signed => do
      let lower ← bound (signedIn field.name) lower
      let upper ← bound (signedIn field.name) upper
      return .signedRange field.name lower upper
  | .words | .whole => do
      checkBound field.name lower
      checkBound field.name upper
      return .empty

def patternPlan (field : QueryField) (glob : List Char) : Except QueryFault QueryPlan :=
  let pattern := String.ofList (globPattern glob)
  if patternIsAccepted pattern then .ok (.pattern field.name pattern)
  else .error (.unusableWildcard (String.ofList glob))

/-- The plan of a wildcard on a field.  Analysed text is lowercase, so the wildcard is
lowercased for it; on numbers only the single asterisk is allowed. -/
def wildcardPlan (field : QueryField) (glob : List Char) : Except QueryFault QueryPlan :=
  match field.fieldClass with
  | .unsigned =>
      if glob = ['*'] then .ok (.unsignedRange field.name none none)
      else .error (.wildcardOnNumber field.name)
  | .signed =>
      if glob = ['*'] then .ok (.signedRange field.name none none)
      else .error (.wildcardOnNumber field.name)
  | .words => patternPlan field (Text.lowercaseInContext glob)
  | .whole => patternPlan field glob

/-- The plan of a text on a field of analysed text. -/
def wordsPlan (field : String) (isPhrase : Bool) (text : String) : Option QueryPlan :=
  match Analysis.analyze text with
  | [] => none
  | [only] => some (.term field (.text only.term))
  | terms =>
      if isPhrase then
        some (.phrase field (terms.map fun placed => (placed.position, placed.term)))
      else
        some (.combination (terms.map fun placed =>
          (.should, .term field (.text placed.term))))

/-- The text that a leaf searches for: a wildcard as written, other leaves unescaped. -/
def leafText (leaf : Leaf) : List Char :=
  match leaf.kind with
  | .wildcard => leaf.written
  | .phrase => unescape leaf.written
  | .term => unescape leaf.written

def leafPlan (leaf : Leaf) (field : QueryField) : Planned :=
  let text := leafText leaf
  if leaf.kind = .wildcard then (wildcardPlan field text).map some
  else
    match field.fieldClass with
    | .words => .ok (wordsPlan field.name (leaf.kind == .phrase) (String.ofList text))
    | .whole => .ok (some (.term field.name (.text (String.ofList text))))
    | .unsigned =>
        (unsignedIn field.name text).map fun value => some (.term field.name (.unsigned value))
    | .signed =>
        (signedIn field.name text).map fun value => some (.term field.name (.signed value))

def anyOf : List QueryPlan → Option QueryPlan
  | [] => none
  | [plan] => some plan
  | plans => some (.combination (plans.map (.should, ·)))

/-- The plan of a leaf: on the field that is named around it, or on the default fields. -/
def leafOn (translator : Translator) (target : Option QueryField) (leaf : Leaf) : Planned :=
  match target with
  | some field => leafPlan leaf field
  | none =>
      if translator.defaults.isEmpty then
        .error (.noField (String.ofList (leafText leaf)))
      else
        match translator.defaults.mapM (leafPlan leaf) with
        | .ok plans => .ok (anyOf (plans.filterMap id))
        | .error fault => .error fault

def boostFactor (boost : Boost) : Numeric.Single :=
  let fraction := boost.fraction.getD []
  let digits := boost.whole ++ fraction
  Numeric.Single.ofDecimal (digits.foldl (fun value digit =>
    10 * value + (digit.toNat - '0'.toNat)) 0) (-(fraction.length : Int))

def boosted (boost : Option Boost) (plan : QueryPlan) : QueryPlan :=
  match boost with
  | some boost => .boost (boostFactor boost) plan
  | none => plan

/-- The part that a clause with this modifier plays. -/
def occurrence : Option Modifier → Occurrence
  | none => .should
  | some .must => .must
  | some .mustNot => .mustNot

/-- The part of a clause in a conjunction: what is not forbidden is demanded. -/
def demanded : Occurrence × QueryPlan → Occurrence × QueryPlan
  | (.mustNot, plan) => (.mustNot, plan)
  | (_, plan) => (.must, plan)

/-- The clause that a conjunction becomes in the disjunction around it. -/
def conjoin : List (Occurrence × QueryPlan) → Option (Occurrence × QueryPlan)
  | [] => none
  | [clause] => some clause
  | clauses => (combine (clauses.map demanded)).map fun plan => (.should, plan)

mutual

/-- The clauses that the conjunctions of a disjunction become. -/
def disjunctionClauses (translator : Translator) (target : Option QueryField) :
    Disjunction → Except QueryFault (List (Occurrence × QueryPlan))
  | .single first => do
      let clauses ← conjunctionClauses translator target first
      return (conjoin clauses).toList
  | .more first rest => do
      let clauses ← conjunctionClauses translator target first
      let others ← disjunctionClauses translator target rest
      return (conjoin clauses).toList ++ others

def conjunctionClauses (translator : Translator) (target : Option QueryField) :
    Conjunction → Except QueryFault (List (Occurrence × QueryPlan))
  | .single first => do
      let clause ← clausePlan translator target first
      return clause.toList
  | .more first rest => do
      let clause ← clausePlan translator target first
      let others ← conjunctionClauses translator target rest
      return clause.toList ++ others

/-- The plan of a clause and the part that it plays. -/
def clausePlan (translator : Translator) (target : Option QueryField) :
    Clause → Except QueryFault (Option (Occurrence × QueryPlan))
  | .mk modifier body boost => do
      let plan ← bodyPlan translator target body
      return plan.map fun plan => (occurrence modifier, boosted boost plan)

def bodyPlan (translator : Translator) (target : Option QueryField) : Body → Planned
  | .group inner => (disjunctionClauses translator target inner).map combine
  | .matchAll => .ok (some .all)
  | .leaf leaf => leafOn translator target leaf
  | .fieldGroup name inner =>
      match find? translator.fields (String.ofList name) with
      | some field => (disjunctionClauses translator (some field) inner).map combine
      | none => .ok (some .empty)
  | .fieldLeaf name leaf =>
      match find? translator.fields (String.ofList name) with
      | some field => leafPlan leaf field
      | none => .ok (some .empty)
  | .fieldRange name lower upper =>
      match find? translator.fields (String.ofList name) with
      | some field => (rangePlan field lower upper).map some
      | none => do
          checkBound (String.ofList name) lower
          checkBound (String.ofList name) upper
          return some .empty

end

/-- The plan that matches all entity documents and scores nothing. -/
def entitiesOnly : QueryPlan :=
  .constant Numeric.Single.zero (.term CoreField.kind (.text DocumentKind.entity.name))

/-- The plan of a whole query: what it matches among the entity documents. -/
def planOf (translator : Translator) (query : Disjunction) : Except QueryFault QueryPlan :=
  match disjunctionClauses translator none query with
  | .error fault => .error fault
  | .ok clauses =>
      match combine clauses with
      | none => .ok .empty
      | some matched => .ok (.combination [(.must, matched), (.must, entitiesOnly)])

def translate (translator : Translator) (query : String) : Except QueryFault QueryPlan :=
  match Query.read? query.toList with
  | none => .error (.unreadable query)
  | some tree => translator.planOf tree

end Translator

end EntitySearch
