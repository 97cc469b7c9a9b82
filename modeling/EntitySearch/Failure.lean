/-!
# Failures

The ways in which the parts of the index can fail, one type per part, each with
its wording.  A failure that passes from one part to another is reworded once,
at the border: the receiving part either has a kind for the cause or wraps the
whole text of the failure that it was handed.
-/

namespace EntitySearch

/-- Failures of the application around the indexes: its store, settings and files. -/
inductive GeneralFailure
  | store (detail : String)
  | notFound (detail : String)
  | validation (detail : String)
  | configuration (detail : String)
  | io (detail : String)
  | serialization (detail : String)
  | timeout (detail : String)
  | internal (detail : String)
deriving Repr, DecidableEq

/-- Failures of the background batches. -/
inductive BatchFailure
  | failed (detail : String)
  | panicked (detail : String)
  | shutDown
  | configuration (detail : String)
deriving Repr, DecidableEq

/-- Failures to have a task answered by another node. -/
inductive NodeFailure
  | unreachable (detail : String)
  | timedOut (detail : String)
  | unknownIndex (detail : String)
  | taskFailed (detail : String)
  | serialization (detail : String)
deriving Repr, DecidableEq

/-- Failures inside the index engine. -/
inductive EngineFailure
  | missingField (name : String)
  | invalidArgument (detail : String)
  | corruptedData
  | layoutMismatch
deriving Repr, DecidableEq

inductive SearchFailure
  | initialization (detail : String)
  | invalidQuery (detail : String)
  | execution (detail : String)
  | indexing (detail : String)
  | deletion (detail : String)
  | layout (detail : String)
  | io (detail : String)
  | invalidConfiguration (detail : String)
  | engine (cause : EngineFailure)
  | store (detail : String)
  | cluster (cause : NodeFailure)
deriving Repr, DecidableEq

def GeneralFailure.message : GeneralFailure → String
  | .store detail => "Store error: " ++ detail
  | .notFound detail => "Not found: " ++ detail
  | .validation detail => "Validation error: " ++ detail
  | .configuration detail => "Configuration error: " ++ detail
  | .io detail => "IO error: " ++ detail
  | .serialization detail => "Serialization error: " ++ detail
  | .timeout detail => "Operation timed out: " ++ detail
  | .internal detail => "Internal error: " ++ detail

/-- The stable code of an application failure. -/
def GeneralFailure.code : GeneralFailure → String
  | .store _ => "STORE_ERROR"
  | .notFound _ => "NOT_FOUND"
  | .validation _ => "VALIDATION_ERROR"
  | .configuration _ => "CONFIGURATION_ERROR"
  | .io _ => "IO_ERROR"
  | .serialization _ => "SERIALIZATION_ERROR"
  | .timeout _ => "TIMEOUT"
  | .internal _ => "INTERNAL_ERROR"

def BatchFailure.message : BatchFailure → String
  | .failed detail => "Batch execution failed: " ++ detail
  | .panicked detail => "Batch panicked: " ++ detail
  | .shutDown => "Scheduler is shut down"
  | .configuration detail => "Configuration error: " ++ detail

def NodeFailure.message : NodeFailure → String
  | .unreachable detail => "Node unreachable: " ++ detail
  | .timedOut detail => "Node timed out: " ++ detail
  | .unknownIndex detail => "Unknown index: " ++ detail
  | .taskFailed detail => "Task failed: " ++ detail
  | .serialization detail => "Serialization error: " ++ detail

def EngineFailure.message : EngineFailure → String
  | .missingField name => "The field does not exist: '" ++ name ++ "'"
  | .invalidArgument detail => "An invalid argument was passed: '" ++ detail ++ "'"
  | .corruptedData => "Data corrupted"
  | .layoutMismatch => "Schema error: 'An index exists but the schema does not match.'"

def SearchFailure.message : SearchFailure → String
  | .initialization detail => "Index initialization failed: " ++ detail
  | .invalidQuery detail => "Invalid query: " ++ detail
  | .execution detail => "Search execution failed: " ++ detail
  | .indexing detail => "Document indexing failed: " ++ detail
  | .deletion detail => "Document deletion failed: " ++ detail
  | .layout detail => "Schema error: " ++ detail
  | .io detail => "IO error: " ++ detail
  | .invalidConfiguration detail => "Invalid configuration: " ++ detail
  | .engine cause => "Tantivy error: " ++ cause.message
  | .store detail => "Entity store error: " ++ detail
  | .cluster cause => "Cluster error: " ++ cause.message

/-- An application failure met while an index was at work: settings and files keep their
kind, everything else is a failure of the entity store. -/
def GeneralFailure.toSearch : GeneralFailure → SearchFailure
  | .configuration detail => .invalidConfiguration detail
  | .io detail => .io detail
  | failure => .store failure.message

def GeneralFailure.toBatch (failure : GeneralFailure) : BatchFailure :=
  .failed failure.message

def SearchFailure.toGeneral : SearchFailure → GeneralFailure
  | .invalidConfiguration detail => .configuration detail
  | .invalidQuery detail => .validation detail
  | .io detail => .io detail
  | failure => .internal failure.message

def SearchFailure.toBatch (failure : SearchFailure) : BatchFailure :=
  .failed failure.message

/-- An index failure as the node reports it to the one that sent the task. -/
def SearchFailure.toNode (failure : SearchFailure) : NodeFailure :=
  .taskFailed failure.message

def BatchFailure.toGeneral : BatchFailure → GeneralFailure
  | .configuration detail => .configuration detail
  | failure => .internal failure.message

end EntitySearch
