import EntitySearch.Failure
import EntitySearch.Index.Change

/-!
# The index directory

What is found in the place of an index on disk.  Opening an index for writing
creates one in an empty directory; an index of another layout cannot be opened.
-/

namespace EntitySearch

/-- What is found in the place of an index. -/
inductive IndexDirectory
  /-- There is nothing. -/
  | missing
  /-- There is a file instead of a directory. -/
  | blocked
  /-- There is a directory without an index. -/
  | vacant
  /-- There is an index that cannot be read. -/
  | unreadable
  /-- There is an index. -/
  | readable (content : IndexContent)

namespace IndexDirectory

def isDirectory : IndexDirectory → Bool
  | .missing => false
  | .blocked => false
  | .vacant => true
  | .unreadable => true
  | .readable _ => true

/-- The content of the index, if it can be read. -/
def content? : IndexDirectory → Option IndexContent
  | .readable content => some content
  | _ => none

/-- Makes the directory where there is nothing. -/
def create : IndexDirectory → Except SearchFailure IndexDirectory
  | .missing => .ok .vacant
  | .blocked => .error (.initialization "Failed to create index directory: File exists")
  | directory => .ok directory

def wipe (_ : IndexDirectory) : IndexDirectory := .vacant

/-- Opens the index for a layout, creating it where there is none.  The directory is left
as the attempt leaves it. -/
def openFor (layout : Layout) : IndexDirectory → Except SearchFailure IndexContent
  | .missing =>
      .error (.initialization "Failed to open index directory: No such directory")
  | .blocked =>
      .error (.initialization "Failed to open index directory: Not a directory")
  | .vacant => .ok (IndexContent.empty layout)
  | .unreadable => .error (.engine .corruptedData)
  | .readable content =>
      if content.layout = layout then .ok content
      else .error (.engine .layoutMismatch)

end IndexDirectory

end EntitySearch
