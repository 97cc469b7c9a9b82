import EntitySearch.Json.Writer
import EntitySearch.Settings.Basic

/-!
# Decoding settings

Settings are decoded from structured values.  A section is a table of its
fields, in which unknown names are ignored, or a list of its fields in order,
which may be short; what is missing has its default.  How strictly the single
values are taken is up to a reader: JSON values must have the very type of the
field.
-/

namespace EntitySearch

/-- How the parts of settings are taken from values: the fields of a section by their
names, texts, unsigned integers and flags. -/
structure SettingReader (Value : Type) where
  fields? : List String → Value → Option (List (Option Value))
  text? : Value → Option String
  unsigned? : Value → Option UInt64
  flag? : Value → Option Bool

namespace SettingReader

variable {Value : Type} (reader : SettingReader Value)

/-- A field with a default for a missing value; a value that cannot be taken is a fault. -/
def orDefault {Part : Type} (take : Value → Option Part) (default : Part) :
    Option Value → Option Part
  | none => some default
  | some value => take value

/-- An unsigned integer of 32 bits. -/
def narrow? (value : Value) : Option UInt32 :=
  match reader.unsigned? value with
  | some number => if number.toNat < UInt32.size then some number.toUInt32 else none
  | none => none

def indexing? (value : Value) : Option IndexingSettings :=
  let defaults : IndexingSettings := {}
  match reader.fields? ["worker_pool_size", "priority", "batch_size", "writer_heap_size"]
      value with
  | some [poolSize, priority, batchSize, writerMemory] => do
      return {
        poolSize := ← orDefault reader.unsigned? defaults.poolSize poolSize
        priority := ← orDefault reader.narrow? defaults.priority priority
        batchSize := ← orDefault reader.unsigned? defaults.batchSize batchSize
        writerMemory := ← orDefault reader.unsigned? defaults.writerMemory writerMemory }
  | _ => none

def cluster? (value : Value) : Option ClusterSettings :=
  let defaults : ClusterSettings := {}
  match reader.fields? ["fanout_timeout_ms"] value with
  | some [answerTimeout] => do
      return { answerTimeout :=
        ← orDefault reader.unsigned? defaults.answerTimeout answerTimeout }
  | _ => none

def log? (value : Value) : Option LogSettings :=
  let defaults : LogSettings := {}
  match reader.fields? ["log_filter", "json_logs"] value with
  | some [filter, asJson] => do
      return {
        filter := ← orDefault reader.text? defaults.filter filter
        asJson := ← orDefault reader.flag? defaults.asJson asJson }
  | _ => none

def settings? (value : Value) : Option Settings :=
  let defaults : Settings := {}
  match reader.fields? ["site_dir", "indexing", "cluster", "observability"] value with
  | some [siteDirectory, indexing, cluster, log] => do
      return {
        siteDirectory := ← orDefault reader.text? defaults.siteDirectory siteDirectory
        indexing := ← orDefault reader.indexing? defaults.indexing indexing
        cluster := ← orDefault reader.cluster? defaults.cluster cluster
        log := ← orDefault reader.log? defaults.log log }
  | _ => none

end SettingReader

/-- The fields of a list in the order of their names; a longer list is refused. -/
def listedFields? {Value : Type} (names : List String) (elements : List Value) :
    Option (List (Option Value)) :=
  if elements.length ≤ names.length then
    some ((List.range names.length).map (elements[·]?))
  else none

/-- Takes settings from JSON values of the very types of the fields. -/
def Json.settingReader : SettingReader Json where
  fields? names
    | .object members => some (names.map (Json.object members).member?)
    | .array elements => listedFields? names elements
    | _ => none
  text? := Json.asString?
  unsigned? := Json.asUnsigned?
  flag? := Json.asBool?

def Settings.ofJson? (value : Json) : Option Settings :=
  Json.settingReader.settings? value

end EntitySearch
