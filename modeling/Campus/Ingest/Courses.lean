import Campus.Ingest.Sections
import Campus.Ingest.TaskGroup
import Campus.Ingest.Upload
/-!
# Course archives

Every file of a course archive is a course file. The files are read at the same time, and the
records come in the order of the file names whatever file is read first.
-/

namespace Campus

/-- The folder that a course archive has to have. -/
def courseFolder : String := "courses/"

/-- The failure of an ingestion whose tasks failed. -/
def IngestError.ofTasks : TaskFailure IngestError → IngestError
  | .error error => error
  | .breakdown => .brokenTask

/-- What numbered tasks give, in the order of the numbers. -/
def inOrder {α : Type} (numbered : List (Nat × α)) : List α :=
  (numbered.mergeSort fun a b => a.1 ≤ b.1).map Prod.snd

namespace Archive

/-- The tasks that read the course files, each with its number. -/
def courseTasks (archive : Archive) (dataset : String) :
    TaskGroup IngestError (Nat × List Record) :=
  .ofOutcomes (archive.files.entries.zipIdx.map fun (file, number) =>
    (courseFileRecords dataset file.1 file.2).map fun records => (number, records))

/-- The records of a course archive whose files are read in a given order. -/
def courseRecordsIn (order : List Nat) (archive : Archive) (dataset : String) :
    Except IngestError (List Record) := do
  archive.require [courseFolder]
  let (outcome, _) := ((archive.courseTasks dataset).reordered order).collect
  let parsed ← outcome.mapError .ofTasks
  return (inOrder parsed).flatten

/-- The records of a course archive. -/
def courseRecords (archive : Archive) (dataset : String) : Except IngestError (List Record) :=
  courseRecordsIn (List.range archive.size) archive dataset

end Archive
end Campus
