import EntitySearch.Index.Directory
import EntitySearch.Json.Writer

/-!
# Archives of indexes

An archive is the content of an index as a JSON value: the fields of the layout,
and the segments with the values of their documents.  Postings are not kept; they
follow from the layout and the values.
-/

namespace EntitySearch.Archive

/-- The names under which the contents of fields are archived. -/
def contentNames : List (String × FieldContent) :=
  [("words", .text (some .words)), ("whole", .text (some .whole)),
   ("terms", .text (some .other)), ("text", .text none),
   ("unsigned", .unsigned true true), ("unsigned indexed", .unsigned true false),
   ("unsigned fast", .unsigned false true), ("unsigned kept", .unsigned false false),
   ("signed", .signed true true), ("signed indexed", .signed true false),
   ("signed fast", .signed false true), ("signed kept", .signed false false),
   ("floating", .floating), ("boolean", .boolean)]

def contentName (content : FieldContent) : String :=
  ((contentNames.find? (·.2 == content)).map (·.1)).getD ""

def contentOf? (name : String) : Option FieldContent :=
  (contentNames.find? (·.1 == name)).map (·.2)

def writeField (field : LayoutField) : Json :=
  .array [.ofString field.name, .ofString (contentName field.content), .bool field.stored]

def readField? : Json → Option LayoutField
  | .array [name, content, stored] => do
      return ⟨← name.asString?, ← contentOf? (← content.asString?), ← stored.asBool?⟩
  | _ => none

/-- A value of a document with the name of its field. -/
def writeValue (entry : String × FieldValue) : Json :=
  let (type, value) := match entry.2 with
    | .text value => ("text", Json.ofString value)
    | .unsigned value => ("unsigned", .ofNat value.toNat)
    | .signed value => ("signed", .ofInt value.toInt)
  .array [.ofString entry.1, .ofString type, value]

def readValue? : Json → Option (String × FieldValue)
  | .array [name, type, value] => do
      let name ← name.asString?
      match ← type.asString? with
      | "text" => return (name, .text (← value.asString?))
      | "unsigned" => return (name, .unsigned (← value.asUnsigned?))
      | "signed" => return (name, .signed (← value.asSigned?))
      | _ => none
  | _ => none

def writeStored {layout : Layout} (stored : StoredDocument layout) : Json :=
  .array [.bool stored.live, .bool stored.estimated,
    .array (stored.document.values.map writeValue)]

def readStored? (layout : Layout) : Json → Option (StoredDocument layout)
  | .array [live, estimated, .array values] => do
      let document : Document := ⟨← values.mapM readValue?⟩
      return ⟨layout.index document, ← live.asBool?, ← estimated.asBool?⟩
  | _ => none

def write (content : IndexContent) : Json :=
  .ofMembers
    [("fields", .array (content.layout.fields.map writeField)),
     ("segments", .array (content.segments.map fun segment =>
       .array (segment.map writeStored)))]

def read? (archive : Json) : Option IndexContent := do
  let layout : Layout := ⟨← (← (← archive.member? "fields").asArray?).mapM readField?⟩
  let segments ← (← archive.member? "segments").asArray?
  return ⟨layout, ← segments.mapM fun segment => do
    (← segment.asArray?).mapM (readStored? layout)⟩

/-- What is found where an archive should be: a directory without index for null. -/
def directory : Json → IndexDirectory
  | .null => .vacant
  | archive =>
      match read? archive with
      | some content => .readable content
      | none => .unreadable

end EntitySearch.Archive
