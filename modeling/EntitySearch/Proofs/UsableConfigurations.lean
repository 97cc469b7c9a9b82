import EntitySearch.Proofs.CommandAnswers
import EntitySearch.Schema.Declaration
import EntitySearch.Service.EntityIndex
import Mathlib.Data.List.Induction
import Mathlib.Data.List.TakeWhile

/-!
# Usable configurations

An index is declared in steps, and the declaration is judged once, behind the last
of them.  What passes is not refused later: the layout has all core fields and no
name twice, the default fields are fields that queries can name, and the name of
the index is the name of one directory.
-/

namespace EntitySearch

/-! ### Declarations made in steps -/

namespace DeclarationStep

def name? : DeclarationStep → Option String
  | .name given => some given
  | _ => none

def field? : DeclarationStep → Option FieldSpec
  | .field spec => some spec
  | _ => none

def defaults? : DeclarationStep → Option (List String)
  | .defaults names => some names
  | _ => none

end DeclarationStep

namespace IndexDeclaration

open DeclarationStep

/-- A declaration has the fields of all steps in order; of the names and of the lists of default
fields it has the last. -/
theorem ofSteps_eq (typeName : String) (version : UInt64) (steps : List DeclarationStep) :
    ofSteps typeName version steps =
      { typeName := typeName
        indexName := (steps.filterMap name?).getLast?
        version := version
        fields := steps.filterMap field?
        defaultFields := (steps.filterMap defaults?).getLast?.getD []
        hasExtractor := steps.contains .extractor } := by
  induction steps using List.reverseRecOn with
  | nil => rfl
  | append_singleton steps step ih =>
      have taken : ofSteps typeName version (steps ++ [step]) =
          (ofSteps typeName version steps).take step := by
        rw [ofSteps, List.foldl_append]
        rfl
      rw [taken, ih]
      cases step <;> simp [take, name?, field?, defaults?]

end IndexDeclaration

/-! ### What is accepted -/

theorem Text.trimBlanks_eq_nil_iff {text : List Char} :
    trimBlanks text = [] ↔ ∀ character ∈ text, isBlank character = true := by
  rw [trimBlanks, List.reverse_eq_nil_iff, List.dropWhile_eq_nil_iff]
  simp only [List.mem_reverse]
  constructor
  · intro behind character inside
    rw [← List.takeWhile_append_dropWhile (p := isBlank) (l := text)] at inside
    rcases List.mem_append.1 inside with before | after
    · exact List.mem_takeWhile_imp before
    · exact behind character after
  · intro all character inside
    exact all character (List.dropWhile_sublist _ |>.subset inside)

namespace IndexDeclaration

structure IsSound (declaration : IndexDeclaration) : Prop where
  typed : ∃ character ∈ declaration.typeName.toList, Text.isBlank character = false
  named : isIndexName declaration.effectiveIndexName = true
  fieldNames : ∀ spec ∈ declaration.fields,
    isFieldName spec.name = true ∧ isReserved spec.name = false
  distinct : (declaration.fields.map (·.name)).Nodup
  defaults : ∀ name ∈ declaration.defaultFields,
    ∃ spec ∈ declaration.fields, spec.name = name ∧ spec.kind.isTextual = true
  extracts : declaration.hasExtractor = true

theorem find?_of_declared {fields : List FieldSpec} (distinct : (fields.map (·.name)).Nodup)
    {spec : FieldSpec} (declared : spec ∈ fields) :
    fields.find? (·.name == spec.name) = some spec := by
  cases found : fields.find? (·.name == spec.name) with
  | none =>
      have unlike := List.find?_eq_none.1 found spec declared
      simp at unlike
  | some other =>
      have sameName : other.name = spec.name := by simpa using List.find?_some found
      rw [List.inj_on_of_nodup_map distinct (List.mem_of_find?_eq_some found) declared sameName]

theorem fault?_eq_none_iff_isSound {declaration : IndexDeclaration} :
    declaration.fault? = none ↔ declaration.IsSound := by
  rw [fault?_eq_none_iff, fieldFault?_eq_none_iff, Ne, Text.trimBlanks_eq_nil_iff]
  constructor
  · rintro ⟨typed, named, ⟨distinct, fieldNames⟩, defaults, extracts⟩
    refine ⟨?_, named, ?_, distinct, ?_, extracts⟩
    · simpa using typed
    · intro spec declared
      obtain ⟨isNamed, isFree, -⟩ := fieldNames spec declared
      exact ⟨isNamed, isFree⟩
    · intro name isDefault
      obtain ⟨spec, found, textual⟩ := defaultFieldFault?_eq_none_iff.1 (defaults name isDefault)
      exact ⟨spec, List.mem_of_find?_eq_some found, by simpa using List.find?_some found, textual⟩
  · rintro ⟨typed, named, fieldNames, distinct, defaults, extracts⟩
    refine ⟨?_, named, ⟨distinct, ?_⟩, ?_, extracts⟩
    · simpa using typed
    · intro spec declared
      obtain ⟨isNamed, isFree⟩ := fieldNames spec declared
      exact ⟨isNamed, isFree, List.not_mem_nil⟩
    · intro name isDefault
      obtain ⟨spec, declared, rfl, textual⟩ := defaults name isDefault
      exact defaultFieldFault?_eq_none_iff.2 ⟨spec, find?_of_declared distinct declared, textual⟩

end IndexDeclaration

/-! ### Directories -/

open CommandLine.Site (pathParts)

/-- The names on a path from one slash to the next. -/
def pathNames (path : String) : List String :=
  (pathParts path).filter fun part => part != "" && part != "."

theorem pathParts_slash (directory : String) {name : String} (noSlash : '/' ∉ name.toList) :
    pathParts (directory ++ "/" ++ name) = pathParts directory ++ [name] := by
  have split : (directory ++ "/" ++ name).toList = directory.toList ++ '/' :: name.toList := by
    simp
  rw [pathParts, split, List.splitOn_append_cons_self, List.splitOn_eq_singleton noSlash,
    List.map_append, List.map_singleton, String.ofList_toList, pathParts]

theorem pathNames_joinPath {name : String} (isEntry : IsEntryName name) (directory : String) :
    pathNames (Text.joinPath directory name) = pathNames directory ++ [name] := by
  obtain ⟨noSlash, isName⟩ := isEntry
  have kept : (name != "" && name != ".") = true := by
    simp only [List.mem_cons, not_or] at isName
    simp [isName.1, isName.2.1]
  have slashed (directory : String) :
      pathNames (directory ++ "/" ++ name) = pathNames directory ++ [name] := by
    rw [pathNames, pathParts_slash directory noSlash, List.filter_append, List.filter_singleton,
      kept]
    rfl
  rw [Text.joinPath]
  split
  case isFalse => exact slashed directory
  case isTrue closed =>
    rcases Bool.or_eq_true_iff.1 closed with empty | ends
    · rw [String.isEmpty_iff.1 empty, String.empty_append, pathNames, pathParts,
        List.splitOn_eq_singleton noSlash]
      simp [kept, pathNames, pathParts]
    · -- the slash that ends the directory is the one before the name
      rw [String.endsWith_eq_endsWith_toSlice, String.Slice.endsWith_string_iff,
        String.copy_toSlice] at ends
      obtain ⟨front, isFront⟩ := ends
      have opened : directory = String.ofList front ++ "/" := by
        rw [← String.ofList_toList (s := directory), ← isFront, String.ofList_append]
        rfl
      have noName : pathNames (String.ofList front ++ "/") = pathNames (String.ofList front) := by
        have noSlash : '/' ∉ "".toList := by decide
        have parts := pathParts_slash (String.ofList front) noSlash
        rw [String.append_empty] at parts
        rw [pathNames, parts, List.filter_append]
        simp [pathNames]
      rw [opened, slashed, noName]

theorem startsWith_joinPath {name : String} (isEntry : IsEntryName name) (directory : String) :
    (Text.joinPath directory name).startsWith "/" = directory.startsWith "/" := by
  rw [Bool.eq_iff_iff, String.startsWith_string_iff, String.startsWith_string_iff]
  cases characters : directory.toList with
  | nil =>
      have empty : directory = "" := String.toList_inj.1 characters
      have relative : ¬ "/".toList <+: name.toList := by
        rintro ⟨rest, same⟩
        exact isEntry.1 (same ▸ List.mem_cons_self)
      rw [empty, Text.joinPath]
      simpa using relative
  | cons first others =>
      have begins : ∃ rest, (Text.joinPath directory name).toList = first :: rest := by
        rw [Text.joinPath]
        split <;> simp [characters]
      obtain ⟨rest, joined⟩ := begins
      rw [joined]
      simp

/-! ### Translators -/

namespace Translator

theorem defaultField?_eq_ok_iff {fields : List QueryField} {name : String} {field : QueryField} :
    defaultField? fields name = .ok field ↔
      find? fields name = some field ∧ field.fieldClass.isNumeric = false := by
  rw [defaultField?]
  split
  case h_1 other found =>
    rw [found, Option.some.injEq]
    split
    case isTrue numeric =>
      constructor
      · intro failed
        cases failed
      · rintro ⟨rfl, textual⟩
        rw [numeric] at textual
        cases textual
    case isFalse textual =>
      rw [Bool.not_eq_true] at textual
      rw [Except.ok.injEq]
      constructor
      · rintro rfl
        exact ⟨rfl, textual⟩
      · exact And.left
  case h_2 absent => simp [absent]

end Translator

namespace IndexConfiguration

variable (configuration : IndexConfiguration)

/-- The names of the fields that queries search where they name none. -/
def searchedNames : List String :=
  if configuration.defaultFields.isEmpty then
    (configuration.fields.filter (·.kind.queryClass == .words)).map (·.name)
  else configuration.defaultFields

/-- A configuration with which nothing that is derived from it fails. -/
structure IsUsable : Prop where
  layout : configuration.layout.fields =
    Layout.coreFields ++ configuration.fields.map FieldSpec.layoutField
  distinct : (configuration.layout.fields.map (·.name)).Nodup
  core : configuration.layout.missingCoreField? = none ∧
    ∀ field ∈ Layout.coreFields, configuration.layout.find? field.name = some field
  translator : ∃ translator,
    Translator.ofLayout configuration.layout configuration.defaultFields = .ok translator ∧
      translator.fields = configuration.queryFields ∧
      translator.defaults.map (·.name) = configuration.searchedNames ∧
      ∀ field ∈ translator.defaults,
        field ∈ translator.fields ∧ field.fieldClass.isNumeric = false
  directory : IsEntryName configuration.indexName ∧
    ∀ root, pathNames (configuration.directory root) =
        pathNames root ++ [configuration.indexName] ∧
      (configuration.directory root).startsWith "/" = root.startsWith "/"
  starts : ∀ settings : Settings, settings.fault? = none →
    ∃ index, EntityIndex.make configuration settings = .ok index

/-- The translator of a configuration searches the configured fields by default. -/
theorem defaults_of_ofLayout {translator : Translator}
    (made : Translator.ofLayout configuration.layout configuration.defaultFields = .ok translator) :
    translator.defaults.map (·.name) = configuration.searchedNames ∧
      ∀ field ∈ translator.defaults,
        field ∈ translator.fields ∧ field.fieldClass.isNumeric = false := by
  obtain ⟨fields, ⟨unnamed, byClass⟩ | ⟨named, byName⟩⟩ := Translator.ofLayout_cases made
  · rw [byClass]
    constructor
    · -- the two core fields that queries can name hold numbers
      rw [fields, ← queryFields, queryFields_eq, List.filter_append, searchedNames, unnamed,
        List.filter_map]
      have noCore : [(⟨CoreField.entity, .unsigned⟩ : QueryField),
          ⟨CoreField.project, .unsigned⟩].filter (·.fieldClass == .words) = [] := rfl
      rw [noCore, List.nil_append, List.map_map]
      rfl
    · intro field isDefault
      obtain ⟨known, words⟩ := List.mem_filter.1 isDefault
      rw [beq_iff_eq.1 words]
      exact ⟨known, rfl⟩
  · constructor
    · rw [searchedNames, if_neg (by simpa using named)]
      apply map_of_mapM_ok _ byName
      intro name field isField
      have found := (Translator.defaultField?_eq_ok_iff.1 isField).1
      simpa using List.find?_some found
    · intro field isDefault
      obtain ⟨name, -, isField⟩ := exists_of_mapM_ok byName isDefault
      obtain ⟨found, textual⟩ := Translator.defaultField?_eq_ok_iff.1 isField
      exact ⟨List.mem_reverse.1 (List.mem_of_find?_eq_some found), textual⟩

theorem isUsable : configuration.IsUsable where
  layout := rfl
  distinct := configuration.nodup_names_layout
  core := by
    refine ⟨configuration.missingCoreField?_layout, fun field inside => ?_⟩
    exact configuration.find?_layout (List.mem_append_left _ inside)
  translator := by
    obtain ⟨translator, made, fields⟩ := configuration.exists_translator
    exact ⟨translator, made, fields, configuration.defaults_of_ofLayout made⟩
  directory := by
    have isEntry := isEntryName_of_isIndexName configuration.isIndexName_indexName
    exact ⟨isEntry, fun root => ⟨pathNames_joinPath isEntry root,
      startsWith_joinPath isEntry root⟩⟩
  starts := by
    intro settings faultless
    obtain ⟨translator, made, -⟩ := configuration.exists_translator
    rw [EntityIndex.make, faultless, made]
    exact ⟨_, rfl⟩

end IndexConfiguration

namespace IndexDeclaration

open DeclarationStep

theorem build_cases (declaration : IndexDeclaration) :
    (∃ fault, declaration.fault? = some fault ∧ declaration.build = .error fault) ∨
      ∃ accepted, declaration.build = .ok ⟨declaration, accepted⟩ := by
  unfold build
  split
  case h_1 accepted => exact .inr ⟨accepted, rfl⟩
  case h_2 fault found => exact .inl ⟨fault, found, rfl⟩

/-- Whatever steps declare an index, what they declare is refused as an invalid configuration, or
it is sound and makes a usable configuration with the fields of the steps. -/
theorem ofSteps_is_refused_or_usable (typeName : String) (version : UInt64)
    (steps : List DeclarationStep) :
    let declaration := ofSteps typeName version steps
    (∃ fault, declaration.build = .error fault ∧ ¬ declaration.IsSound ∧
        ∀ settings, EntityIndex.ofDeclaration declaration settings =
          .error (.invalidConfiguration fault.message)) ∨
      ∃ configuration, declaration.build = .ok configuration ∧ declaration.IsSound ∧
        configuration.typeName = typeName ∧ configuration.version = version ∧
        configuration.indexName =
          (steps.filterMap name?).getLast?.getD (Text.indexNameFor typeName) ∧
        configuration.fields = steps.filterMap field? ∧
        configuration.defaultFields = (steps.filterMap defaults?).getLast?.getD [] ∧
        configuration.IsUsable := by
  intro declaration
  have parts := ofSteps_eq typeName version steps
  rcases declaration.build_cases with ⟨fault, faulty, refused⟩ | ⟨accepted, built⟩
  · refine .inl ⟨fault, refused, fun sound => ?_, fun settings => ?_⟩
    · rw [fault?_eq_none_iff_isSound.2 sound] at faulty
      cases faulty
    · rw [EntityIndex.ofDeclaration, refused]
  · refine .inr ⟨_, built, fault?_eq_none_iff_isSound.1 accepted, ?_, ?_, ?_, ?_, ?_,
      IndexConfiguration.isUsable _⟩
    · exact congrArg IndexDeclaration.typeName parts
    · exact congrArg IndexDeclaration.version parts
    · exact congrArg IndexDeclaration.effectiveIndexName parts
    · exact congrArg IndexDeclaration.fields parts
    · exact congrArg IndexDeclaration.defaultFields parts

end IndexDeclaration

end EntitySearch
