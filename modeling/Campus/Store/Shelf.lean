import Campus.Dataset.Basic
import Campus.Store.Error
/-!
# Shelves

A shelf holds whole datasets in memory, each under its id. Once it is closed it answers nothing
more.
-/

namespace Campus

/-- Datasets in memory. -/
structure Shelf where
  datasets : Keyed Dataset
  isClosed : Bool

namespace Shelf

/-- The open shelf without datasets. -/
def empty : Shelf := ⟨∅, false⟩

/-- Put a dataset under its id, over any earlier one. -/
def add (datasets : Keyed Dataset) (dataset : Dataset) : Keyed Dataset :=
  datasets.insert dataset.id dataset

/-- The open shelf of some datasets; the last of equal ids is kept. -/
def ofDatasets (datasets : List Dataset) : Shelf := ⟨datasets.foldl add ∅, false⟩

/-- Fail if the shelf is closed. -/
def check (shelf : Shelf) : Except StoreError Unit :=
  if shelf.isClosed then .error .closed else .ok ()

/-- The dataset under an id. -/
def get? (shelf : Shelf) (id : String) : Except StoreError (Option Dataset) := do
  shelf.check
  return shelf.datasets.get? id

/-- Whether there is a dataset under an id. -/
def contains (shelf : Shelf) (id : String) : Except StoreError Bool := do
  shelf.check
  return shelf.datasets.contains id

/-- What a listing shows of the datasets, in the order of their ids. -/
def list (shelf : Shelf) : Except StoreError (List DatasetSummary) := do
  shelf.check
  return shelf.datasets.values.map Dataset.summary

/-- Put a dataset on the shelf. -/
def put (shelf : Shelf) (dataset : Dataset) : Except StoreError Shelf := do
  shelf.check
  return { shelf with datasets := add shelf.datasets dataset }

/-- Take a dataset off the shelf, and say whether it was there. -/
def delete (shelf : Shelf) (id : String) : Except StoreError (Shelf × Bool) := do
  shelf.check
  return ({ shelf with datasets := shelf.datasets.erase id }, shelf.datasets.contains id)

/-- Close the shelf. -/
def close (shelf : Shelf) : Shelf := { shelf with isClosed := true }

end Shelf
end Campus
