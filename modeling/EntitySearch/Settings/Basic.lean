import EntitySearch.Failure
import EntitySearch.Text.FilePath

/-!
# Settings

The settings of the application around its indexes, with their default values.
Settings are usable when the pool, the batches and the timeout are not empty and
the writer has enough memory; the first rule that is broken is reported.
-/

namespace EntitySearch

structure IndexingSettings where
  poolSize : UInt64 := 4
  priority : UInt32 := 20
  batchSize : UInt64 := 5000
  writerMemory : UInt64 := 50000000
deriving Repr, DecidableEq

/-- Settings of the questions to other nodes; the timeout is in milliseconds. -/
structure ClusterSettings where
  answerTimeout : UInt64 := 30000
deriving Repr, DecidableEq

structure LogSettings where
  filter : String := "project_text_index=info"
  asJson : Bool := false
deriving Repr, DecidableEq

structure Settings where
  siteDirectory : String := "./site"
  indexing : IndexingSettings := {}
  cluster : ClusterSettings := {}
  log : LogSettings := {}
deriving Repr, DecidableEq

inductive SettingsFault
  | emptyPool
  | emptyBatches
  | smallWriterMemory
  | noTimeout
deriving Repr, DecidableEq

def leastWriterMemory : UInt64 := 15000000

def SettingsFault.message : SettingsFault → String
  | .emptyPool => "indexing.worker_pool_size must be greater than 0"
  | .emptyBatches => "indexing.batch_size must be greater than 0"
  | .smallWriterMemory =>
      "indexing.writer_heap_size must be at least " ++ toString leastWriterMemory ++ " bytes"
  | .noTimeout => "cluster.fanout_timeout_ms must be greater than 0"

def SettingsFault.toGeneral (fault : SettingsFault) : GeneralFailure :=
  .configuration fault.message

namespace Settings

def forSite (directory : String) : Settings := { siteDirectory := directory }

/-- The directory that holds the indexes of all entity types. -/
def indexRoot (settings : Settings) : String :=
  Text.joinPath settings.siteDirectory "index"

/-- The first rule that the settings break. -/
def fault? (settings : Settings) : Option SettingsFault :=
  if settings.indexing.poolSize = 0 then some .emptyPool
  else if settings.indexing.batchSize = 0 then some .emptyBatches
  else if settings.indexing.writerMemory < leastWriterMemory then some .smallWriterMemory
  else if settings.cluster.answerTimeout = 0 then some .noTimeout
  else none

end Settings

end EntitySearch
