import Campus.Data.Keyed
import Campus.Dataset.Field
import Campus.Dataset.Scalar
import Campus.Text.Blank
/-!
# Datasets

A dataset is a named list of flat records of one kind. Its records are keyed by its own name, so a
record key names the dataset and the field it belongs to: `sections_avg` is the field `avg` of the
dataset `sections`.
-/

namespace Campus

/-- A flat record: values by key. -/
abbrev Record := Keyed Scalar

/-- What a dataset describes. -/
inductive DatasetKind
  | sections
  | rooms
deriving DecidableEq

namespace DatasetKind

/-- The name of a kind. -/
def label : DatasetKind → String
  | sections => "sections"
  | rooms => "rooms"

/-- The kind with a given name. -/
def ofLabel? : String → Option DatasetKind
  | "sections" => some sections
  | "rooms" => some rooms
  | _ => none

/-- The message about a name that no kind has. -/
def unknownMessage (label : String) : String := s!"Unknown dataset kind: '{label}'"

/-- The fields every record of a kind has. -/
def fields : DatasetKind → List Field
  | sections => Field.ofSections
  | rooms => Field.ofRooms

/-- A kind is found under its own name. -/
theorem ofLabel?_label (kind : DatasetKind) : ofLabel? kind.label = some kind := by
  cases kind <;> rfl

end DatasetKind

/-- A dataset id is usable when it is not blank and has no underscore, which separates it from the
field name in a key. -/
def isValidDatasetId (id : String) : Bool :=
  (Text.trimChars id.toList) != [] && !id.toList.contains '_'

/-- The record key of a field in a dataset. -/
def recordKey (dataset : String) (field : Field) : String := dataset ++ "_" ++ field.label

/-- A stored dataset. -/
structure Dataset where
  /-- The name it is stored and queried under. -/
  id : String
  /-- What it describes. -/
  kind : DatasetKind
  /-- How many records it announces; ingestion announces the number it holds. -/
  numRows : Nat
  /-- The records in the order they were ingested. -/
  data : List Record
deriving DecidableEq

/-- The part of a dataset that listings show. -/
structure DatasetSummary where
  id : String
  kind : DatasetKind
  numRows : Nat
deriving DecidableEq

namespace Dataset

/-- A dataset that announces the records it holds. -/
def ofRecords (id : String) (kind : DatasetKind) (data : List Record) : Dataset :=
  ⟨id, kind, data.length, data⟩

/-- What a listing shows of a dataset. -/
def summary (d : Dataset) : DatasetSummary := ⟨d.id, d.kind, d.numRows⟩

end Dataset
end Campus
