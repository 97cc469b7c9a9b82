import EntitySearch.Toml.Value

/-!
# Building TOML tables

A table is built by assignments to dotted keys and, in a document, by headers.
What has been defined stays: a key is assigned once, a header opens a table once,
and a table made by dotted keys is not opened by a header.  Tables on the way to
a key are made where they are missing.
-/

namespace EntitySearch

/-- A table under construction, with what may still be done to it: an implied table has
only been met on the way to a deeper one, a dotted one was made by dotted keys. -/
inductive TomlNode
  | value (value : Toml)
  | table (implied dotted : Bool) (entries : List (String × TomlNode))
  | tables (elements : List TomlNode)
deriving Inhabited

namespace TomlNode

/-- The table without entries that the document or an inline table starts from. -/
def root : TomlNode := .table false false []

mutual

def finish : TomlNode → Toml
  | .value content => content
  | .table _ _ entries => .table (finishEntries entries)
  | .tables elements => .array (finishElements elements)

def finishEntries : List (String × TomlNode) → List (String × Toml)
  | [] => []
  | (key, node) :: rest => (key, finish node) :: finishEntries rest

/-- The finished elements of an array of tables. -/
def finishElements : List TomlNode → List Toml
  | [] => []
  | node :: rest => finish node :: finishElements rest

end

def find? (entries : List (String × TomlNode)) (key : String) : Option TomlNode :=
  (entries.find? (·.1 == key)).map (·.2)

/-- Puts a node at a key, in place of what is there. -/
def put (key : String) (node : TomlNode) :
    List (String × TomlNode) → List (String × TomlNode)
  | [] => [(key, node)]
  | entry :: rest =>
      if entry.1 == key then (key, node) :: rest else entry :: put key node rest

/-- Changes the table at the end of a path.  Dotted keys may pass implied tables only,
headers also pass defined ones and the last table of an array. -/
def changeAt (dotted : Bool) (change : TomlNode → Option TomlNode) :
    List String → TomlNode → Option TomlNode
  | [], node => change node
  | key :: path, .table implied isDotted entries =>
      let child : Option TomlNode := match find? entries key with
        | none => changeAt dotted change path (.table true dotted [])
        | some (.value _) => none
        | some (.tables elements) =>
            match elements.getLast? with
            | none => none
            | some last => (changeAt dotted change path last).map fun changed =>
                .tables (elements.dropLast ++ [changed])
        | some (.table childImplied childDotted children) =>
            if dotted && !childImplied then none
            else changeAt dotted change path (.table childImplied childDotted children)
      child.map fun child => .table implied isDotted (put key child entries)
  | _ :: _, _ => none

/-- Assigns a value to a key that is still free; `throughDots` says that dots lead here. -/
def assignHere (throughDots : Bool) (key : String) (value : Toml) :
    TomlNode → Option TomlNode
  | .table implied isDotted entries =>
      if isDotted != throughDots || (find? entries key).isSome then none
      else some (.table implied isDotted (put key (.value value) entries))
  | _ => none

def assign (path : List String) (key : String) (value : Toml) (node : TomlNode) :
    Option TomlNode :=
  changeAt true (assignHere (!path.isEmpty) key value) path node

/-- Puts a finished table at a key that is free. -/
def attachTable (key : String) (table : TomlNode) : TomlNode → Option TomlNode
  | .table implied isDotted entries => some (.table implied isDotted (put key table entries))
  | _ => none

/-- Appends a finished table to the array of tables at a key. -/
def attachElement (key : String) (table : TomlNode) : TomlNode → Option TomlNode
  | .table implied isDotted entries =>
      match find? entries key with
      | none => some (.table implied isDotted (put key (.tables [table]) entries))
      | some (.tables elements) =>
          some (.table implied isDotted (put key (.tables (elements ++ [table])) entries))
      | some _ => none
  | _ => none

/-- The table that a header opens: a new one, or one that was only implied so far. -/
def openedAt? (key : String) : TomlNode → Option TomlNode
  | .table _ _ entries =>
      match find? entries key with
      | none => some (.table false false [])
      | some (.table true false children) => some (.table false false children)
      | some _ => none
  | _ => none

/-- The node at the end of a path as a header finds it; implied tables stand for what is
missing. -/
def nodeAt? : List String → TomlNode → Option TomlNode
  | [], node => some node
  | key :: path, .table _ _ entries =>
      match find? entries key with
      | none => nodeAt? path (.table true false [])
      | some (.value _) => none
      | some (.tables elements) =>
          match elements.getLast? with
          | none => none
          | some last => nodeAt? path last
      | some (.table implied dotted children) => nodeAt? path (.table implied dotted children)
  | _ :: _, _ => none

end TomlNode

/-- The table that the assignments of a document go to. -/
inductive TomlPlace
  | document
  | table (path : List String) (key : String)
  | element (path : List String) (key : String)

/-- A document under construction: what is finished, and the table that is open. -/
structure TomlBuilder where
  finished : TomlNode
  place : TomlPlace
  current : TomlNode

inductive TomlLine
  | blank
  | assignment (path : List String) (key : String) (value : Toml)
  | table (path : List String) (key : String)
  | element (path : List String) (key : String)

namespace TomlBuilder

def start : TomlBuilder := ⟨TomlNode.root, .document, TomlNode.root⟩

/-- The document with the open table put into its place. -/
def close (builder : TomlBuilder) : Option TomlNode :=
  match builder.place with
  | .document => some builder.current
  | .table path key =>
      TomlNode.changeAt false (TomlNode.attachTable key builder.current) path builder.finished
  | .element path key =>
      TomlNode.changeAt false (TomlNode.attachElement key builder.current) path
        builder.finished

/-- Whether a header can open an element of the array of tables at a key. -/
def holdsElements (key : String) : TomlNode → Bool
  | .table _ _ entries =>
      match TomlNode.find? entries key with
      | none => true
      | some (.tables _) => true
      | some _ => false
  | _ => false

def add (builder : TomlBuilder) : TomlLine → Option TomlBuilder
  | .blank => some builder
  | .assignment path key value =>
      (builder.current.assign path key value).map fun current =>
        { builder with current := current }
  | .table path key => do
      let finished ← builder.close
      let opened ← (← TomlNode.nodeAt? path finished).openedAt? key
      return ⟨finished, .table path key, opened⟩
  | .element path key => do
      let finished ← builder.close
      if holdsElements key (← TomlNode.nodeAt? path finished) then
        return ⟨finished, .element path key, TomlNode.root⟩
      else none

/-- The table that the lines of a document make. -/
def build? (lines : List TomlLine) : Option Toml := do
  let builder ← lines.foldlM add start
  return (← builder.close).finish

end TomlBuilder

end EntitySearch
