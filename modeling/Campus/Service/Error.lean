import Campus.Ingest.Error
import Campus.Query.Error
import Campus.Store.Error
/-!
# Service failures

A failure belongs to one of four classes, which users tell apart by a code. A breakdown is none that
users are told of: it ends what the service was doing.
-/

namespace Campus

/-- The class of a failure. -/
inductive ErrorCode
  /-- A query, an upload or an id is not acceptable. -/
  | validation
  | resultTooLarge
  /-- The dataset to be removed does not exist. -/
  | notFound
  /-- The store failed. -/
  | storage
deriving DecidableEq

/-- The name of a class. -/
def ErrorCode.label : ErrorCode → String
  | validation => "VALIDATION_ERROR"
  | resultTooLarge => "RESULT_TOO_LARGE"
  | notFound => "NOT_FOUND"
  | storage => "STORAGE_ERROR"

/-- Why the service does not do what it is asked for. -/
inductive ServiceError
  /-- A dataset cannot have this id. -/
  | invalidId (id : String)
  /-- There is a dataset with this id. -/
  | duplicateId (id : String)
  /-- There is no dataset with this id to remove. -/
  | unknownId (id : String)
  /-- The upload gives no dataset. -/
  | upload (error : IngestError)
  /-- The query has no result. -/
  | query (error : QueryError)
  /-- The dataset of an accepted query has gone meanwhile. -/
  | datasetGone (id : String)
  | store (error : StoreError)
deriving DecidableEq

namespace ServiceError

/-- Whether this is a breakdown, which no one is told of. -/
def isBreakdown : ServiceError → Bool
  | query .breakdown => true
  | _ => false

/-- The class of a failure; of a breakdown it is never asked for. -/
def code : ServiceError → ErrorCode
  | query (.resultTooLarge _ _) => .resultTooLarge
  | unknownId _ => .notFound
  | store _ => .storage
  | _ => .validation

/-- The message of a failure. -/
def message : ServiceError → String
  | invalidId id => s!"Invalid dataset id: '{id}'"
  | duplicateId id => s!"Dataset ID already exists: {id}"
  | unknownId id => s!"Dataset not found: {id}"
  | upload error => error.message
  | query error => error.message
  | datasetGone id => s!"Dataset not found: {id}"
  | store error => s!"Storage error: {error.message}"

end ServiceError
end Campus
