import EntitySearch.Analysis.Analyzer
import EntitySearch.CommandLine.Arguments
import EntitySearch.Index.LocalIndex
import EntitySearch.Json.Writer
import EntitySearch.Numeric.Double
import EntitySearch.Search.Hits

/-!
# Commands over a site

The commands look at the indexes of a site as they are on disk.  An index is
named by the path of its directory below the directory of all indexes.  Queries
are read without default fields of their own, so a term without a field searches
every field of analysed text.
-/

namespace EntitySearch.CommandLine

open Numeric (Single)

/-- What is found under the directory of all indexes, by name. -/
abbrev Site := Table String IndexDirectory

inductive CommandFailure
  | noIndex (path : String)
  | refused (failure : SearchFailure)
deriving Repr, DecidableEq

def CommandFailure.message : CommandFailure → String
  | .noIndex path => "No index found at " ++ path
  | .refused failure => failure.message

structure ShownHit where
  entity : Option EntityId
  project : Option ProjectId
  score : Single

/-- What a command shows. -/
inductive Report
  | names (names : List String)
  | figures (index : String) (figures : IndexStatistics)
  | count (index query : String) (count : Nat)
  | hits (hits : List ShownHit)
  | terms (terms : List String)

namespace Site

def directoryNames (site : Site) : List String :=
  (site.filter fun _ directory => directory.isDirectory).keys

/-- Where a path leads: above or to the directory of all indexes, or to one of its
entries. -/
inductive Location
  | site
  | root
  | entry (name : String)

/-- Follows the parts of a path, each of which must be a directory. -/
def follow (site : Site) : Location → List String → Option Location
  | location, [] => some location
  | location, part :: parts =>
      if part == "" || part == "." then follow site location parts
      else
        match location, part with
        | .site, "index" => follow site .root parts
        | .site, _ => none
        | .root, ".." => follow site .site parts
        | .root, name =>
            if (site.get? name).any (·.isDirectory) then follow site (.entry name) parts
            else none
        | .entry _, ".." => follow site .root parts
        | .entry _, _ => none

/-- The parts of a path between its slashes. -/
def pathParts (path : String) : List String :=
  (path.toList.splitOn '/').map String.ofList

def openIndex (site : Site) (path : String) : Except CommandFailure IndexContent :=
  let found := if path.startsWith "/" then none else follow site .root (pathParts path)
  match found with
  | some (.entry name) =>
      match site.get? name with
      | some (.readable content) => .ok content
      | some .unreadable => .error (.refused (.engine .corruptedData))
      | _ => .error (.noIndex path)
  | _ => .error (.noIndex path)

/-- The plan of a query for an index without default fields of its own. -/
def planFor (content : IndexContent) (query : String) : Except CommandFailure QueryPlan :=
  match Translator.ofLayout content.layout [] with
  | .error failure => .error (.refused failure)
  | .ok translator =>
      (translator.translate query).mapError fun fault =>
        .refused (.invalidQuery fault.message)

def shown {layout : Layout} (hit : Hit layout) : ShownHit :=
  ⟨hit.entity?, hit.project?, hit.score⟩

def run (site : Site) : Command → Except CommandFailure Report
  | .list => .ok (.names site.directoryNames)
  | .inspect index => do
      let content ← site.openIndex index
      return .figures index content.statistics
  | .count index query => do
      let content ← site.openIndex index
      let plan ← planFor content query
      return .count index query (content.count plan)
  | .search index query offset limit => do
      let content ← site.openIndex index
      let plan ← planFor content query
      return .hits ((content.window plan offset.toNat limit.toNat).map shown)
  | .analyze text => .ok (.terms (Analysis.terms text))

end Site

namespace Report

def optionalWord : Option UInt64 → Json
  | some value => .ofNat value.toNat
  | none => .null

/-- A score as a number; null where it is not finite. -/
def scoreNumber (score : Single) : Json :=
  if score.isFinite then
    let (coefficient, places) := score.exactDecimal
    .number (.decimal score.negative coefficient (-(places : Int)))
  else .null

/-- A report as JSON, with the scores written in the given way. -/
def json (score : Single → Json) : Report → Json
  | .names listed => .array (listed.map .ofString)
  | .figures index shown => .ofMembers
      [("index_name", .ofString index), ("total_documents", .ofNat shown.totalDocuments),
       ("entity_documents", .ofNat shown.entityDocuments),
       ("schema_version", optionalWord shown.schemaVersion),
       ("progress_mark", .ofNat shown.progressMark.toNat), ("last_commit", .null)]
  | .count index query counted => .ofMembers
      [("index", .ofString index), ("query", .ofString query), ("count", .ofNat counted)]
  | .hits found => .array (found.map fun hit => .ofMembers
      [("entity_id", optionalWord hit.entity), ("project_id", optionalWord hit.project),
       ("score", score hit.score)])
  | .terms listed => .array (listed.map .ofString)

end Report

end EntitySearch.CommandLine
