import Campus.Proofs.Ingest.Asking
import Campus.Proofs.Dataset.Shape
import Mathlib.Data.List.Forall2
/-!
# Rooms joined with their buildings

The records of a campus archive are those of its pages, file by file, and of a page those of its
rooms, row by row. Each shows the room, the first building in the index whose short name the page
has, and the place of that building's address. No row of a page is left out and none is taken twice;
a file that is the page of no building adds nothing.
-/

namespace Campus

/-- The values of a room at its place in a building. -/
def Room.value? (building : Building) (place : Location) (room : Room) : Field → Option Scalar
  | .fullname => some (.text building.fullName)
  | .shortname => some (.text building.shortName)
  | .name => some (.text (building.shortName ++ "_" ++ room.number))
  | .number => some (.text room.number)
  | .address => some (.text building.address)
  | .lat => some (.number place.lat)
  | .lon => some (.number place.lon)
  | .seats => some (.number room.seats)
  | .type => some (.text room.type)
  | .furniture => some (.text room.furniture)
  | .href => some (.text room.href)
  | .uuid | .id | .title | .instructor | .dept | .year | .avg | .pass | .fail | .audit => none

/-- The record of a room shows its values and nothing else. -/
theorem RoomTable.shows_record (dataset : String) (building : Building) (place : Location)
    (room : Room) :
    (record dataset building place room).Shows dataset (room.value? building place) := by
  let values : List (Field × Scalar) := [
    (.fullname, .text building.fullName), (.shortname, .text building.shortName),
    (.name, .text (building.shortName ++ "_" ++ room.number)), (.number, .text room.number),
    (.address, .text building.address), (.lat, .number place.lat), (.lon, .number place.lon),
    (.seats, .number room.seats), (.type, .text room.type), (.furniture, .text room.furniture),
    (.href, .text room.href)]
  have distinct : (values.map Prod.fst).Nodup := by
    simp only [values, List.map_cons, List.map_nil]
    decide
  have given : ∀ field, room.value? building place field =
      (values.find? fun entry => entry.1 == field).map Prod.snd := by
    intro field
    cases field <;> rfl
  exact Record.shows_ofFields dataset distinct given

namespace Room

/-- A record is that of a room in a building, at the place that the gazetteer has for the address
of the building. -/
def IsRecorded (gazetteer : Gazetteer) (dataset : String) (building : Building) (room : Room)
    (record : Record) : Prop :=
  ∃ place, gazetteer building.address = .ok place ∧
    record.Shows dataset (room.value? building place)

/-- Records are those of the rooms on pages, file by file and row by row. Which files are pages of
which building is left open. -/
inductive Joined (isPage : Building → String → Prop) (gazetteer : Gazetteer) (dataset : String) :
    List (String × List UInt8) → List Record → Prop
  | nil : Joined isPage gazetteer dataset [] []
  /-- A page has a record for every row. -/
  | page {building : Building} {file : String × List UInt8} {text : String}
    {files : List (String × List UInt8)} {records later : List Record}
    (ofBuilding : isPage building file.1) (isText : Bytes.text? file.2 = some text)
    (rows : List.Forall₂ (IsRecorded gazetteer dataset building) (ofPage text) records)
    (rest : Joined isPage gazetteer dataset files later) :
    Joined isPage gazetteer dataset (file :: files) (records ++ later)
  /-- A file that is the page of no building has none. -/
  | other {file : String × List UInt8} {files : List (String × List UInt8)} {later : List Record}
    (noPage : ∀ building, ¬isPage building file.1)
    (rest : Joined isPage gazetteer dataset files later) :
    Joined isPage gazetteer dataset (file :: files) later

variable {isPage : Building → String → Prop} {gazetteer : Gazetteer} {dataset : String}

/-- Every room of a page has a record. -/
theorem Joined.exists_record {files : List (String × List UInt8)} {records : List Record}
    (joined : Joined isPage gazetteer dataset files records) {file : String × List UInt8}
    (member : file ∈ files) (ofSome : ∃ building, isPage building file.1) {text : String}
    (isText : Bytes.text? file.2 = some text) {room : Room} (listed : room ∈ ofPage text) :
    ∃ building, isPage building file.1 ∧
      ∃ record ∈ records, IsRecorded gazetteer dataset building room record := by
  induction joined with
  | nil => cases member
  | page ofBuilding isTextToo rows rest ih =>
    rcases List.mem_cons.1 member with rfl | later
    · obtain rfl := Option.some.inj (isText.symm.trans isTextToo)
      obtain ⟨i, fits, rfl⟩ := List.mem_iff_getElem.1 listed
      have fitsToo := rows.length_eq ▸ fits
      have recorded := rows.get fits fitsToo
      exact ⟨_, ofBuilding, _, List.mem_append_left _ (List.getElem_mem fitsToo), recorded⟩
    · obtain ⟨building, ofBuilding, record, isThere, recorded⟩ := ih later
      exact ⟨building, ofBuilding, record, List.mem_append_right _ isThere, recorded⟩
  | other noPage rest ih =>
    rcases List.mem_cons.1 member with rfl | later
    · obtain ⟨building, ofBuilding⟩ := ofSome
      exact absurd ofBuilding (noPage building)
    · exact ih later

/-- Without pages there are no records. -/
theorem Joined.eq_nil {files : List (String × List UInt8)} {records : List Record}
    (joined : Joined isPage gazetteer dataset files records)
    (noPages : ∀ file ∈ files, ∀ building, ¬isPage building file.1) : records = [] := by
  induction joined with
  | nil => rfl
  | page ofBuilding _ _ _ _ => exact absurd ofBuilding (noPages _ List.mem_cons_self _)
  | other _ _ ih => exact ih fun file later => noPages file (List.mem_cons_of_mem _ later)

end Room

variable {gazetteer : Gazetteer} {dataset : String} {buildings : List Building}

/-- A table whose building has a place if there are rooms has a record for every room. -/
theorem RoomTable.forall₂_records {places : Keyed Location} {table : RoomTable}
    (placed : table.rooms ≠ [] → ∃ place, gazetteer table.building.address = .ok place ∧
      places.get? table.building.address = some place) :
    List.Forall₂ (Room.IsRecorded gazetteer dataset table.building) table.rooms
      (records dataset places table) := by
  by_cases rooms : table.rooms = []
  · have none : records dataset places table = [] := by
      rw [records, rooms]
      split <;> rfl
    rw [none, rooms]
    exact .nil
  · obtain ⟨place, located, isThere⟩ := placed rooms
    rw [records, isThere, List.forall₂_map_right_iff, List.forall₂_same]
    exact fun room _ => ⟨place, located, shows_record dataset table.building place room⟩

/-- The records of tables are those of the files that they are read from. -/
theorem RoomSurvey.joined_records {places : Keyed Location} {files : List (String × List UInt8)}
    {tables : List RoomTable} (read : files.filterMap (tableOf? buildings) = tables.map .ok)
    (placed : ∀ table ∈ tables, table.rooms ≠ [] →
      ∃ place, gazetteer table.building.address = .ok place ∧
        places.get? table.building.address = some place) :
    Room.Joined (Building.HasPage buildings) gazetteer dataset files
      (tables.flatMap (RoomTable.records dataset places)) := by
  induction files generalizing tables with
  | nil =>
    obtain rfl : tables = [] := List.map_eq_nil_iff.1 read.symm
    exact .nil
  | cons file files ih =>
    cases table? : tableOf? buildings file with
    | none =>
      rw [List.filterMap_cons_none table?] at read
      exact .other (tableOf?_eq_none_iff.1 table?) (ih read placed)
    | some outcome =>
      rw [List.filterMap_cons_some table?] at read
      cases tables with
      | nil => cases read
      | cons table tables =>
        obtain ⟨rfl, readRest⟩ := List.cons.inj read
        obtain ⟨isPage, page, isText, rooms⟩ := tableOf?_eq_some_ok_iff.1 table?
        rw [List.flatMap_cons]
        refine .page isPage isText (rooms ▸ RoomTable.forall₂_records ?_) (ih readRest ?_)
        · exact placed table List.mem_cons_self
        · exact fun other later => placed other (List.mem_cons_of_mem _ later)

namespace Archive

variable {archive : Archive}

/-- What may be ingested if every address that is asked for has a place. -/
theorem MayIngestRooms.joined {ingestion : Ingestion}
    (ingested : archive.MayIngestRooms gazetteer dataset ingestion)
    (known : RoomSurvey.buildings archive = .ok buildings) (legible : archive.IsLegible buildings)
    (placed : ∀ address ∈ ingestion.asked, ∃ place, gazetteer address = .ok place) :
    ∃ records, ingestion.records = .ok records ∧
      Room.Joined (Building.HasPage buildings) gazetteer dataset archive.files.entries records := by
  obtain ⟨survey, lookups, outcome, all, follows, ends, rfl⟩ :=
    ingested.exists_lookups known legible
  cases outcome with
  | error error =>
    obtain ⟨address, asked, failed⟩ := follows.of_failure ends
    obtain ⟨reason, unplaced, -⟩ := Gazetteer.locate_eq_error_iff.1 failed
    obtain ⟨place, isPlace⟩ := placed address asked
    cases unplaced.symm.trans isPlace
  | ok places =>
    refine ⟨_, rfl, RoomSurvey.joined_records all fun table isTable hasRooms => ?_⟩
    have listed := RoomSurvey.mem_addresses_iff.2 ⟨table, isTable, hasRooms, rfl⟩
    obtain ⟨place, located, isThere⟩ := (follows.of_places ends).2 _ listed
    exact ⟨place, Gazetteer.locate_eq_ok_iff.1 located, isThere⟩

/-- If every address that is asked for has a place, the records are those of the rooms on the pages,
in the order of the files and of the rows, whatever page is read first and however the lookups go
on. -/
theorem joins_rooms_with_buildings (gazetteer : Gazetteer) (dataset : String)
    {content : List UInt8} {page : String} (complete : archive.missing? campusEntries = none)
    (hasIndex : archive.file? indexFile = some content) (isText : Bytes.text? content = some page)
    (legible : archive.IsLegible (Building.ofPage page)) :
    archive.files.keys.Pairwise (· < ·) ∧
    (∀ order, archive.IsPageOrder order →
      archive.MayIngestRooms gazetteer dataset (archive.roomRecordsIn order gazetteer dataset)) ∧
    ∀ ingestion, archive.MayIngestRooms gazetteer dataset ingestion →
      (∀ address ∈ ingestion.asked, ∃ place, gazetteer address = .ok place) →
      ∃ records, ingestion.records = .ok records ∧
        Room.Joined (Building.HasPage (Building.ofPage page)) gazetteer dataset
          archive.files.entries records :=
  ⟨archive.files.keys_ascending,
    fun _ isOrder => mayIngestRooms_roomRecordsIn gazetteer dataset isOrder,
    fun _ ingested placed =>
      ingested.joined (buildings_of_index complete hasIndex isText) legible placed⟩

/-- The room of the hall has a record with the place of the hall. -/
theorem joins_rooms_with_buildings_hallCampus :
    ∃ records, (hallCampus.roomRecords (fun _ => .ok ⟨.ofNat 49, .ofNat 123⟩) "rooms").records =
        .ok records ∧
      ∃ record ∈ records, record.get? "rooms_name" = some (.text "H_101") ∧
        record.get? "rooms_lat" = some (.number (.ofNat 49)) := by
  obtain ⟨-, executed, joins⟩ := joins_rooms_with_buildings
    (fun _ => .ok ⟨.ofNat 49, .ofNat 123⟩) "rooms" complete_hallCampus index_hallCampus
    (Bytes.text?_ofText hallPage) (legible_hallCampus _)
  have ingested := executed (List.range hallCampus.size) (isPageOrder_of_perm (.refl _))
  obtain ⟨records, found, joined⟩ := joins _ ingested fun address _ => ⟨_, rfl⟩
  have listed : ⟨"101", .ofNat 40, "", "", "r"⟩ ∈ Room.ofPage hallPage := by
    rw [hallPage_lists.2]
    exact List.mem_singleton_self _
  obtain ⟨building, isPage, record, isThere, place, placed, shown⟩ :=
    joined.exists_record (mem_files_hallCampus.2 (.inr rfl)) ⟨_, hasPage_hallCampus⟩
      (by rw [Bytes.text?_ofText]) listed
  obtain rfl := isPage.unique hasPage_hallCampus
  obtain rfl := Except.ok.inj placed
  exact ⟨records, found, record, isThere, shown.values .name, shown.values .lat⟩

/-- A file with an empty stem is not taken for the page of a building without a short name, though
that is its stem: it has a room, and there is no record. -/
theorem not_joined_without_short_name :
    let archive := ofEntries (campusWith ".htm" (Bytes.ofText hallPage))
    let gazetteer : Gazetteer := fun _ => .ok ⟨.ofNat 49, .ofNat 123⟩
    archive.missing? campusEntries = none ∧
    archive.file? indexFile = some (Bytes.ofText hallPage) ∧
    (∀ file ∈ archive.files.entries, Bytes.text? file.2 = some hallPage) ∧
    ¬∃ records, (archive.roomRecords gazetteer "rooms").records = .ok records ∧
      Room.Joined (fun building file =>
          building.IsFirst (Building.ofPage hallPage) ∧ IsStem building.shortName file)
        gazetteer "rooms" archive.files.entries records := by
  intro archive gazetteer
  have files {file : String × List UInt8} :
      file ∈ archive.files.entries ↔ file = (indexFile, Bytes.ofText hallPage) ∨
        file = (buildingsFolder ++ ".htm", Bytes.ofText hallPage) :=
    mem_files_campusWith (by decide +kernel) (by decide +kernel)
  have complete : archive.missing? campusEntries = none := by decide +kernel
  have hasIndex : archive.file? indexFile = some (Bytes.ofText hallPage) :=
    Keyed.mem_entries_iff.1 (files.2 (.inl rfl))
  have isText : ∀ file ∈ archive.files.entries, Bytes.text? file.2 = some hallPage := by
    intro file isFile
    rcases files.1 isFile with rfl | rfl <;> rw [Bytes.text?_ofText]
  refine ⟨complete, hasIndex, isText, ?_⟩
  rintro ⟨records, found, joined⟩
  -- What the archive has pages of is told by the names of its files.
  have noPages : ∀ file ∈ archive.files.entries, ∀ building,
      ¬Building.HasPage (Building.ofPage hallPage) building file.1 := by
    intro file isFile building isPage
    have named := buildingCode?_eq_some_iff.2 ⟨isPage.named, isPage.isStem⟩
    have unnamed : buildingCode? file.1 = none := by
      rcases files.1 isFile with rfl | rfl
      · exact (by decide +kernel : buildingCode? indexFile = none)
      · exact (by decide +kernel : buildingCode? (buildingsFolder ++ ".htm") = none)
    cases unnamed.symm.trans named
  have isOrder : archive.IsPageOrder (List.range archive.size) := isPageOrder_of_perm (.refl _)
  have ingested := mayIngestRooms_roomRecordsIn gazetteer "rooms" isOrder
  obtain ⟨others, foundToo, joinedToo⟩ := ingested.joined
    (buildings_of_index complete hasIndex (Bytes.text?_ofText hallPage))
    (fun file isFile _ => ⟨hallPage, isText file isFile⟩) fun address _ => ⟨_, rfl⟩
  obtain rfl : others = records := Except.ok.inj (foundToo.symm.trans found)
  obtain rfl := joinedToo.eq_nil noPages
  have isFirst : Building.IsFirst (Building.ofPage hallPage) ⟨"Annex", "", "2 Main"⟩ := by
    rw [hallPage_lists.1]
    exact ⟨[], _, rfl, nofun⟩
  have isStem : IsStem "" (buildingsFolder ++ ".htm") :=
    ⟨"", ".htm", by simp, .inl rfl, by decide, .inr ⟨"htm", rfl, by decide⟩⟩
  have isPage := files.2 (.inr rfl)
  have listed : ⟨"101", .ofNat 40, "", "", "r"⟩ ∈ Room.ofPage hallPage := by
    rw [hallPage_lists.2]
    exact List.mem_singleton_self _
  obtain ⟨_, -, record, isThere, -⟩ :=
    joined.exists_record isPage ⟨_, isFirst, isStem⟩ (isText _ isPage) listed
  cases isThere

end Archive
end Campus
