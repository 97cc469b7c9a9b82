import EntitySearch.Cluster.Message
import EntitySearch.Index.LocalIndex
import EntitySearch.Scheduling.Work
import EntitySearch.Schema.Configuration
import EntitySearch.Search.Hits
import EntitySearch.Settings.Basic

/-!
# Entity indexes

An entity index is a configuration together with the translator of its queries
and the settings under which it works.  It answers questions about the snapshot
of an open local index, and as long as the local index is not open there is
nothing to find.
-/

namespace EntitySearch

/-- The index of an entity type, ready to work. -/
structure EntityIndex where
  configuration : IndexConfiguration
  translator : Translator
  settings : Settings

namespace EntityIndex

def make (configuration : IndexConfiguration) (settings : Settings) :
    Except SearchFailure EntityIndex :=
  match settings.fault? with
  | some fault => .error fault.toGeneral.toSearch
  | none =>
      match Translator.ofLayout configuration.layout configuration.defaultFields with
      | .error failure => .error failure
      | .ok translator => .ok ⟨configuration, translator, settings⟩

def ofDeclaration (declaration : IndexDeclaration) (settings : Settings) :
    Except SearchFailure EntityIndex :=
  match declaration.build with
  | .error fault => .error (.invalidConfiguration fault.message)
  | .ok configuration => make configuration settings

def name (index : EntityIndex) : String := index.configuration.indexName

def layout (index : EntityIndex) : Layout := index.configuration.layout

/-- The layout and the version that the index must have on disk. -/
def spec (index : EntityIndex) : IndexSpec := ⟨index.layout, index.configuration.version⟩

/-- The name under which the works of the index are submitted. -/
def workerName (index : EntityIndex) : String := "index:" ++ index.name

def documentFor (index : EntityIndex) (entity : Entity) : EntityDocument :=
  index.layout.documentFor entity

def plan (index : EntityIndex) (query : String) : Except SearchFailure QueryPlan :=
  (index.translator.translate query).mapError fun fault => .invalidQuery fault.message

def localCount (index : EntityIndex) (snapshot : Option IndexContent) (query : String) :
    Except SearchFailure UInt64 :=
  match snapshot with
  | none => .ok 0
  | some content => (index.plan query).map fun plan => (content.count plan).toUInt64

def localSearch (index : EntityIndex) (snapshot : Option IndexContent) (query : String)
    (limit : UInt64) : Except SearchFailure ScoredEntities :=
  match snapshot with
  | none => .ok Table.empty
  | some content =>
      if limit = 0 then .ok Table.empty
      else (index.plan query).map fun plan => content.bestScores plan limit.toNat

def localDeleteProject (index : EntityIndex) (state : LocalIndex) (project : ProjectId) :
    LocalIndex × Except SearchFailure Unit :=
  state.transact index.layout (.ok [.deleteProject project])

def deleteEntities (index : EntityIndex) (state : LocalIndex) (ids : List EntityId) :
    LocalIndex × Except SearchFailure Unit :=
  state.transact index.layout (.ok (ids.map .deleteEntity))

def answer (index : EntityIndex) (state : LocalIndex) :
    ClusterTask → LocalIndex × Except SearchFailure ClusterResponse
  | .count _ query => (state, (index.localCount state.snapshot query).map .count)
  | .search _ query limit => (state, (index.localSearch state.snapshot query limit).map .scores)
  | .deleteProject _ project =>
      let (after, outcome) := index.localDeleteProject state project
      (after, outcome.map fun _ => .done)

end EntityIndex

end EntitySearch
