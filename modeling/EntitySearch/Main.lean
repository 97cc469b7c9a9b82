import EntitySearch.CommandLine.Site
import EntitySearch.Index.Archive
import EntitySearch.Json.Reader
import EntitySearch.Settings.Layers

/-!
# The command line

Runs one command over the indexes of a site.  The sites are read from standard
input as one JSON object: under the name of each site directory an object with
the archives of its indexes by name.  A report goes to standard output as JSON; a
failed command ends with status 1, and arguments that make no command with
status 2.
-/

namespace EntitySearch.CommandLine

def archivedSite (sites : Json) (directory : String) : Site :=
  match (sites.member? directory).bind Json.asMembers? with
  | none => Table.empty
  | some members => Table.ofList (members.filterMap fun (name, archive) =>
      (Json.text name).asString?.map (·, Archive.directory archive))

def usage : String :=
  "Usage: text-index-cli [-d <SITE_DIR>] " ++
    "<list | inspect <INDEX> | count <INDEX> <QUERY> | " ++
    "search <INDEX> <QUERY> [-o <OFFSET>] [-l <LIMIT>] | analyze <TEXT> | help>"

def settingVariables : List String :=
  ["SITE_DIR", "INDEXING__WORKER_POOL_SIZE", "INDEXING__PRIORITY", "INDEXING__BATCH_SIZE",
    "INDEXING__WRITER_HEAP_SIZE", "CLUSTER__FANOUT_TIMEOUT_MS", "OBSERVABILITY__LOG_FILTER",
    "OBSERVABILITY__JSON_LOGS"].map ("TEXT_INDEX__" ++ ·)

/-- The settings of the environment; the defaults where they are faulty. -/
def environmentSettings : IO Settings := do
  let environment ← settingVariables.filterMapM fun name => do
    return (← IO.getEnv name).map (name, ·)
  return (Settings.load? none environment).getD {}

/-- Runs a command and gives back the exit status. -/
def runInvocation (invocation : Invocation) : IO UInt32 := do
  let settings ← environmentSettings
  let directory := (invocation.siteDirectory.or (← IO.getEnv "TEXT_INDEX_SITE_DIR")).getD
    settings.siteDirectory
  let site ← match invocation.command with
    | .analyze _ => pure Table.empty
    | _ => do
        let input ← (← IO.getStdin).readToEnd
        pure (archivedSite ((Json.read? input.toList).getD .null) directory)
  match Site.run site invocation.command with
  | .ok report =>
      IO.println (String.ofList (report.json Report.scoreNumber).write)
      return 0
  | .error failure =>
      IO.eprintln ("Error: " ++ failure.message)
      return 1

end EntitySearch.CommandLine

open EntitySearch.CommandLine in
def main (arguments : List String) : IO UInt32 := do
  match readInvocation arguments with
  | .ok invocation => runInvocation invocation
  | .error .help =>
      IO.println usage
      return 0
  | .error .misuse =>
      IO.eprintln usage
      return 2
