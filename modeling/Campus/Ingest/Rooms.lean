import Campus.Ingest.Courses
import Campus.Ingest.Location
import Campus.Ingest.Tables
/-!
# Campus archives

A campus archive has an index page of buildings and, in one folder, a page of rooms for every
building, named by its short name. The survey of an archive joins the rooms with their buildings; it
is made before any address is looked up. Only addresses of buildings with rooms are looked up, each
once.
-/

namespace Campus

/-- The page that lists the buildings. -/
def indexFile : String := "index.htm"

/-- The folder with the pages of the buildings. -/
def buildingsFolder : String := "campus/discover/buildings-and-classrooms/"

/-- What a campus archive has to have, in the order in which it is looked for. -/
def campusEntries : List String := ["campus/", "campus/discover/", buildingsFolder, indexFile]

/-- The short name of the building whose page a file is: the last part of its path without the last
extension. -/
def buildingCode? (file : String) : Option String :=
  let chars := file.toList
  let folder := buildingsFolder.toList
  if folder.isPrefixOf chars then
    let last := ((chars.drop folder.length).reverse.takeWhile (· != '/')).reverse
    let code :=
      if last.contains '.' then ((last.reverse.dropWhile (· != '.')).drop 1).reverse else last
    if code.isEmpty then none else some (String.ofList code)
  else none

/-- The text of a page. -/
def pageText (name : String) (content : List UInt8) : Except IngestError String :=
  match Bytes.text? content with
  | some text => .ok text
  | none => .error (.unreadableFile name)

/-- The building of a short name: the first one in the index. -/
def Building.withCode? (buildings : List Building) (code : String) : Option Building :=
  buildings.find? fun building => building.shortName == code

/-- The rooms on the page of one building. -/
structure RoomTable where
  building : Building
  rooms : List Room

namespace RoomTable

/-- The record of a room in a dataset. -/
def record (dataset : String) (building : Building) (place : Location) (room : Room) : Record :=
  Keyed.ofList [
    (recordKey dataset .fullname, .text building.fullName),
    (recordKey dataset .shortname, .text building.shortName),
    (recordKey dataset .name, .text (building.shortName ++ "_" ++ room.number)),
    (recordKey dataset .number, .text room.number),
    (recordKey dataset .address, .text building.address),
    (recordKey dataset .lat, .number place.lat),
    (recordKey dataset .lon, .number place.lon),
    (recordKey dataset .seats, .number room.seats),
    (recordKey dataset .type, .text room.type),
    (recordKey dataset .furniture, .text room.furniture),
    (recordKey dataset .href, .text room.href)]

/-- The records of a table. A building without rooms has no place and needs none. -/
def records (dataset : String) (places : Keyed Location) (table : RoomTable) : List Record :=
  match places.get? table.building.address with
  | some place => table.rooms.map (record dataset table.building place)
  | none => []

end RoomTable

/-- The rooms of an archive with their buildings, in the order of the files. -/
structure RoomSurvey where
  tables : List RoomTable

namespace RoomSurvey

/-- The tasks that read the pages of known buildings, each with its number. -/
def tasks (archive : Archive) (buildings : List Building) :
    TaskGroup IngestError (Nat × RoomTable) :=
  .ofOutcomes (archive.files.entries.zipIdx.filterMap fun (file, number) => do
    let building ← (buildingCode? file.1).bind (Building.withCode? buildings)
    return (pageText file.1 file.2).map fun page =>
      (number, ⟨building, Room.ofPage page⟩))

/-- The buildings of an archive. -/
def buildings (archive : Archive) : Except IngestError (List Building) := do
  archive.require campusEntries
  match archive.file? indexFile with
  | some content => return Building.ofPage (← pageText indexFile content)
  | none => .error (.missingEntry indexFile)

/-- The survey of an archive whose pages are read in a given order. -/
def ofArchiveIn (order : List Nat) (archive : Archive) : Except IngestError RoomSurvey := do
  let (outcome, _) := ((tasks archive (← buildings archive)).reordered order).collect
  let parsed ← outcome.mapError .ofTasks
  return ⟨inOrder parsed⟩

/-- The different addresses of buildings with rooms, in ascending order. -/
def addresses (survey : RoomSurvey) : List String :=
  (Keyed.ofList ((survey.tables.filter fun table => !table.rooms.isEmpty).map fun table =>
    (table.building.address, ()))).keys

/-- Look up addresses in their order until one fails: those that were asked for, and the places or
the failure. -/
def locateAll (gazetteer : Gazetteer) (places : Keyed Location) :
    List String → List String × Except IngestError (Keyed Location)
  | [] => ([], .ok places)
  | address :: rest =>
    match gazetteer.locate address with
    | .error error => ([address], .error error)
    | .ok place =>
      let (asked, outcome) := locateAll gazetteer (places.insert address place) rest
      (address :: asked, outcome)

/-- The records of the rooms at their places, file by file. -/
def records (survey : RoomSurvey) (dataset : String) (places : Keyed Location) : List Record :=
  survey.tables.flatMap (RoomTable.records dataset places)

end RoomSurvey

/-- What ingesting an archive comes to. -/
structure Ingestion where
  /-- The addresses that were asked for. -/
  asked : List String
  records : Except IngestError (List Record)

namespace Archive

/-- The rooms of a campus archive whose pages are read in a given order. -/
def roomRecordsIn (order : List Nat) (gazetteer : Gazetteer) (archive : Archive)
    (dataset : String) :
    Ingestion :=
  match RoomSurvey.ofArchiveIn order archive with
  | .error error => ⟨[], .error error⟩
  | .ok survey =>
    let (asked, places) := RoomSurvey.locateAll gazetteer ∅ survey.addresses
    ⟨asked, places.map fun places => survey.records dataset places⟩

/-- The rooms of a campus archive. -/
def roomRecords (gazetteer : Gazetteer) (archive : Archive) (dataset : String) : Ingestion :=
  roomRecordsIn (List.range archive.size) gazetteer archive dataset

/-- Refuse to have no records. -/
def requireRecords (records : List Record) : Except IngestError (List Record) :=
  if records.isEmpty then .error .noValidRecords else .ok records

/-- The records of an archive of some kind. -/
def ingest (gazetteer : Gazetteer) (kind : DatasetKind) (archive : Archive) (dataset : String) :
    Ingestion :=
  let ingestion : Ingestion := match kind with
    | .sections => ⟨[], archive.courseRecords dataset⟩
    | .rooms => archive.roomRecords gazetteer dataset
  { ingestion with records := ingestion.records.bind requireRecords }

end Archive
end Campus
