import Campus.Ingest.Rooms
import Campus.Query.Execution
import Campus.Query.Grammar
import Campus.Service.Error
import Campus.Store.Basic
/-!
# The dataset service

The service adds datasets from uploads, removes and lists them, and answers queries. An upload is
checked and ingested completely before anything is stored, so a failure leaves the stored datasets
as they were.
-/

namespace Campus

/-- What the service relies on. -/
structure Surroundings where
  /-- The device that the store's folder is on. -/
  device : Device
  /-- Where addresses are looked up. -/
  gazetteer : Gazetteer

/-- The service. -/
structure Service where
  store : Store
  /-- How many rows an answer may have. -/
  rowLimit : Nat
  /-- The addresses that were looked up, in this order. -/
  asked : List String

namespace Service

/-- The service on a store. -/
def onStore (store : Store) (rowLimit : Nat) : Service := ⟨store, rowLimit, []⟩

/-- Refuse an id that no dataset can have. -/
def checkId (id : String) : Except ServiceError Unit :=
  if isValidDatasetId id then .ok () else .error (.invalidId id)

/-- Refuse an id that a dataset has. -/
def checkNew (service : Service) (id : String) : Except ServiceError Unit :=
  match service.store.contains id with
  | .ok true => .error (.duplicateId id)
  | .ok false => .ok ()
  | .error error => .error (.store error)

/-- The dataset that an upload gives. -/
def ingest (surroundings : Surroundings) (service : Service) (id : String) (kind : DatasetKind)
    (upload : Upload) : Service × Except ServiceError Dataset :=
  match upload.archive with
  | .error error => (service, .error (.upload error))
  | .ok archive =>
    let ingestion := archive.ingest surroundings.gazetteer kind id
    ({ service with asked := service.asked ++ ingestion.asked },
      (ingestion.records.mapError .upload).map (Dataset.ofRecords id kind))

/-- The datasets in the order of their ids. -/
def list (service : Service) : Except ServiceError (List DatasetSummary) :=
  service.store.list.mapError .store

/-- The ids of the datasets in ascending order. -/
def ids (service : Service) : Except ServiceError (List String) :=
  service.list.map fun summaries => summaries.map DatasetSummary.id

/-- Put a dataset into the store. -/
def commit (surroundings : Surroundings) (service : Service) (dataset : Dataset) :
    Service × Except ServiceError (List String) :=
  match service.store.put surroundings.device dataset with
  | (store, .ok _) => ({ service with store }, ids { service with store })
  | (store, .error error) => ({ service with store }, .error (.store error))

/-- Add the dataset of an upload under a new id. The answer is the ids of all datasets. -/
def add (surroundings : Surroundings) (service : Service) (id : String) (kind : DatasetKind)
    (upload : Upload) : Service × Except ServiceError (List String) :=
  match checkId id, service.checkNew id with
  | .error error, _ => (service, .error error)
  | .ok (), .error error => (service, .error error)
  | .ok (), .ok () =>
    match service.ingest surroundings id kind upload with
    | (service, .error error) => (service, .error error)
    | (service, .ok dataset) => service.commit surroundings dataset

/-- Remove a dataset. The answer is its id. -/
def remove (surroundings : Surroundings) (service : Service) (id : String) :
    Service × Except ServiceError String :=
  match checkId id with
  | .error error => (service, .error error)
  | .ok () =>
    match service.store.delete surroundings.device id with
    | (store, .ok true) => ({ service with store }, .ok id)
    | (store, .ok false) => ({ service with store }, .error (.unknownId id))
    | (store, .error error) => ({ service with store }, .error (.store error))

/-- The query that a document spells, given the datasets that exist. -/
def readQuery (listed : List DatasetSummary) (document : Json) : Except ServiceError Query :=
  (Query.read (listed.map DatasetSummary.id).contains document).mapError .query

/-- The answer to a query over the dataset that was found for it. -/
def answer (rowLimit : Nat) (query : Query) (found : Option Dataset) :
    Except ServiceError (List Record) :=
  match found with
  | some dataset => (query.execute rowLimit dataset.data).mapError .query
  | none => .error (.datasetGone query.dataset)

/-- The answer to a query document. The store is read twice: for the datasets that exist, and for
the one that the query is about. -/
def query (service : Service) (document : Json) : Except ServiceError (List Record) := do
  let query ← readQuery (← service.list) document
  answer service.rowLimit query (← (service.store.get? query.dataset).mapError .store)

/-- Close the store. -/
def close (service : Service) : Service := { service with store := service.store.close }

end Service
end Campus
