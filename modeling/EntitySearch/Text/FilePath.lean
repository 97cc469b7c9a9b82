/-!
# File paths

Joining a directory and a name: one slash stands between them unless the
directory is empty or already ends in a slash.
-/

namespace EntitySearch.Text

def joinPath (directory name : String) : String :=
  if directory.isEmpty || directory.endsWith "/" then directory ++ name
  else directory ++ "/" ++ name

end EntitySearch.Text
