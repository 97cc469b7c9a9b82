import EntitySearch.Settings.Decoding
import EntitySearch.Toml.Reader
import EntitySearch.Text.Integer
import EntitySearch.Text.Lowercase

/-!
# Layers of settings

Settings come from three layers, each of which overrides the ones before it key
by key: the default values, a settings file, and environment variables.  A table
is merged into what is there; any other value replaces it.  A name at the top of
a layer may be a path of names with points between them.

The values of the layers are taken leniently: numbers, flags and texts pass for
each other where the meaning is plain.
-/

namespace EntitySearch

namespace Toml

/-- Puts a value at a key, in place of what is there. -/
def put (key : String) (value : Toml) : List (String × Toml) → List (String × Toml)
  | [] => [(key, value)]
  | entry :: rest =>
      if entry.1 == key then (key, value) :: rest else entry :: put key value rest

def find? (entries : List (String × Toml)) (key : String) : Option Toml :=
  (entries.find? (·.1 == key)).map (·.2)

mutual

/-- Sets a key of a table to a value; a table is merged into what is there. -/
def setKey (target : Toml) (key : String) : Toml → Toml
  | .table incoming =>
      let present := (find? target.entries key).getD (.table [])
      .table (put key (mergeEntries present incoming) target.entries)
  | value => .table (put key value target.entries)

/-- Sets the keys of a table to the values of another; what is no table becomes one when
the first key is set. -/
def mergeEntries (target : Toml) : List (String × Toml) → Toml
  | [] => target
  | (key, value) :: rest => mergeEntries (setKey target key value) rest

end

/-- Sets the key at the end of a path to a value; what is no table on the way becomes
one. -/
def setPath (value : Toml) : List String → Toml → Toml
  | [], target => target
  | [key], target => setKey target key value
  | key :: next :: path, target =>
      let present := (find? target.entries key).getD (.table [])
      .table (put key (setPath value (next :: path) present) target.entries)

end Toml

namespace SettingLayer

/-- Whether the character can be part of a name in a path. -/
def isNameCharacter (character : Char) : Bool :=
  character.isAlphanum || character == '_' || character == '-' || character == ' '

/-- The names of a path; a text that is no path is one name. -/
def pathOf (written : String) : List String :=
  let names := written.splitOn "."
  if names.all fun name => !name.isEmpty && name.toList.all isNameCharacter then names
  else [written]

def putOver (target : Toml) (layer : List (String × Toml)) : Toml :=
  layer.foldl (fun target entry => Toml.setPath entry.2 (pathOf entry.1) target) target

def defaults : List (String × Toml) :=
  let settings : Settings := {}
  [("site_dir", .text settings.siteDirectory),
   ("indexing", .table
     [("worker_pool_size", .integer settings.indexing.poolSize.toNat),
      ("priority", .integer settings.indexing.priority.toNat),
      ("batch_size", .integer settings.indexing.batchSize.toNat),
      ("writer_heap_size", .integer settings.indexing.writerMemory.toNat)]),
   ("cluster", .table
     [("fanout_timeout_ms", .integer settings.cluster.answerTimeout.toNat)]),
   ("observability", .table
     [("log_filter", .text settings.log.filter), ("json_logs", .boolean settings.log.asJson)])]

/-- What the names of environment variables with settings begin with, in lower case. -/
def variableStart : String := "text_index__"

/-- The value that the text of an environment variable stands for. -/
def variableValue (written : String) : Toml :=
  let lowered := Text.lowercaseInContext written.toList
  if lowered = "true".toList then .boolean true
  else if lowered = "false".toList then .boolean false
  else
    match Text.signed? written.toList with
    | some value => .integer value.toInt
    | none =>
        match Numeric.Double.ofText? written.toList with
        | some value => .float value
        | none => .text written

/-- The setting of an environment variable, if it is one. -/
def ofVariable? (name value : String) : Option (String × Toml) :=
  let lowered := String.ofList (Text.lowercaseInContext name.toList)
  if lowered.startsWith variableStart then
    let key := String.ofList (lowered.toList.drop variableStart.length)
    some (".".intercalate (key.splitOn "__"), variableValue value)
  else none

def ofVariables (environment : List (String × String)) : List (String × Toml) :=
  environment.filterMap fun (name, value) => ofVariable? name value

end SettingLayer

namespace Toml

/-- The flag that a text stands for, in letters of either case. -/
def wordFlag? (written : String) : Option Bool :=
  let lowered := String.ofList (Text.lowercaseInContext written.toList)
  if ["true", "on", "yes"].contains lowered then some true
  else if ["false", "off", "no"].contains lowered then some false
  else none

def lenientUnsigned? : Toml → Option UInt64
  | .integer value => if 0 ≤ value then some (UInt64.ofNat value.toNat) else none
  | .float value => some value.toUnsigned
  | .boolean value => some (if value then 1 else 0)
  | .text written | .moment written =>
      match wordFlag? written with
      | some value => some (if value then 1 else 0)
      | none => Text.unsigned? written.toList
  | .array _ | .table _ => none

def lenientFlag? : Toml → Option Bool
  | .integer value => some (value != 0)
  | .float value => some (!value.isZero)
  | .boolean value => some value
  | .text written | .moment written =>
      if written = "1" then some true
      else if written = "0" then some false
      else wordFlag? written
  | .array _ | .table _ => none

def lenientText? : Toml → Option String
  | .integer value => some (toString value)
  | .float value => some value.plainText
  | .boolean value => some (if value then "true" else "false")
  | .text written | .moment written => some written
  | .array _ | .table _ => none

/-- Takes settings from the values of layers. -/
def settingReader : SettingReader Toml where
  fields? names
    | .table entries => some (names.map (find? entries))
    | .array elements => some ((List.range names.length).map (elements[·]?))
    | _ => none
  text? := lenientText?
  unsigned? := lenientUnsigned?
  flag? := lenientFlag?

end Toml

/-- The settings of a file, if there is one, and of environment variables, over the
defaults; nothing if the file cannot be read or a value cannot be taken. -/
def Settings.load? (file : Option String) (environment : List (String × String)) :
    Option Settings := do
  let written ← match file with
    | none => some []
    | some written => (Toml.read? written.toList).map Toml.entries
  let layers := [SettingLayer.defaults, written, SettingLayer.ofVariables environment]
  Toml.settingReader.settings? (layers.foldl SettingLayer.putOver (.table []))

end EntitySearch
