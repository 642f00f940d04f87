import Campus.Proofs.Data.Bytes
import Campus.Proofs.Ingest.Lookups
import Campus.Proofs.Markup.Trees
/-!
# Which addresses of an archive are asked for

An address needs a place if a page of its building has rooms. However the pages are read and the
lookups go on, nothing else is asked for, and nothing twice. If every address that needs a place has
one, all of them are asked for and there are records; if one has none, what is told is the failure
of one of those, and there are no records at all.
-/

namespace Campus
namespace Archive

/-- An address needs a place in an archive: it is that of a building which has a room on one of its
pages. -/
def NeedsPlace (archive : Archive) (buildings : List Building) (address : String) : Prop :=
  ∃ building : Building, building.address = address ∧
    ∃ file ∈ archive.files.entries, building.HasPage buildings file.1 ∧
      ∃ page, Bytes.text? file.2 = some page ∧ Room.ofPage page ≠ []

/-- Every page of a building is a text. -/
def IsLegible (archive : Archive) (buildings : List Building) : Prop :=
  ∀ file ∈ archive.files.entries, (∃ building, Building.HasPage buildings building file.1) →
    ∃ page, Bytes.text? file.2 = some page

/-- What ingesting a campus archive may come to, whatever page is read first and however the lookups
go on. -/
inductive MayIngestRooms (gazetteer : Gazetteer) (archive : Archive) (dataset : String) :
    Ingestion → Prop
  /-- A page cannot be read, and no address is asked for. -/
  | unread {order : List Nat} {error : IngestError} (isOrder : archive.IsPageOrder order)
    (failed : RoomSurvey.ofArchiveIn order archive = .error error) :
    MayIngestRooms gazetteer archive dataset ⟨[], .error error⟩
  /-- The lookups go on until they end. -/
  | lookedUp {order : List Nat} {survey : RoomSurvey} {steps : List String}
    {outcome : Except IngestError (Keyed Location)} (isOrder : archive.IsPageOrder order)
    (read : RoomSurvey.ofArchiveIn order archive = .ok survey)
    (ends : ((Lookups.start survey.addresses).run gazetteer steps).EndsWith outcome) :
    MayIngestRooms gazetteer archive dataset
      ⟨((Lookups.start survey.addresses).run gazetteer steps).asked,
        outcome.map (survey.records dataset)⟩

variable {archive : Archive} {order : List Nat} {gazetteer : Gazetteer} {dataset : String}
  {buildings : List Building} {survey : RoomSurvey}

/-- Looking addresses up one after another is one of the ways of ingesting an archive. -/
theorem mayIngestRooms_roomRecordsIn (gazetteer : Gazetteer) (dataset : String)
    (isOrder : archive.IsPageOrder order) :
    archive.MayIngestRooms gazetteer dataset (archive.roomRecordsIn order gazetteer dataset) := by
  rw [roomRecordsIn]
  cases read : RoomSurvey.ofArchiveIn order archive with
  | error error => exact .unread isOrder read
  | ok survey =>
    have distinct : survey.addresses.Nodup := Keyed.keys_nodup _
    obtain ⟨steps, asked, ends⟩ := Lookups.exists_run_locateAll gazetteer distinct
    simpa only [asked] using MayIngestRooms.lookedUp isOrder read ends

/-- A legible archive can be surveyed, in whatever order its pages are read. -/
theorem exists_survey (known : RoomSurvey.buildings archive = .ok buildings)
    (legible : archive.IsLegible buildings) (isOrder : archive.IsPageOrder order) :
    ∃ survey, RoomSurvey.ofArchiveIn order archive = .ok survey ∧
      archive.files.entries.filterMap (RoomSurvey.tableOf? buildings) =
        survey.tables.map .ok := by
  rcases RoomSurvey.ofArchiveIn_cases known isOrder with read | ⟨error, -, failed⟩
  · exact read
  · obtain ⟨file, isFile, unread⟩ := List.mem_filterMap.1 failed
    obtain ⟨isPage, noText, -⟩ := RoomSurvey.tableOf?_eq_some_error_iff.1 unread
    obtain ⟨page, isText⟩ := legible file isFile isPage
    cases noText.symm.trans isText

/-- The addresses of a survey are those that need a place. -/
theorem mem_addresses_iff_needsPlace
    (all : archive.files.entries.filterMap (RoomSurvey.tableOf? buildings) =
      survey.tables.map .ok) {address : String} :
    address ∈ survey.addresses ↔ archive.NeedsPlace buildings address := by
  have isTable (table : RoomTable) : table ∈ survey.tables ↔
      ∃ file ∈ archive.files.entries, RoomSurvey.tableOf? buildings file = some (.ok table) := by
    rw [← List.mem_filterMap, all, List.mem_map]
    simp
  rw [RoomSurvey.mem_addresses_iff]
  constructor
  · rintro ⟨table, listed, hasRooms, rfl⟩
    obtain ⟨file, isFile, read⟩ := (isTable table).1 listed
    obtain ⟨isPage, page, isText, rooms⟩ := RoomSurvey.tableOf?_eq_some_ok_iff.1 read
    exact ⟨table.building, rfl, file, isFile, isPage, page, isText, rooms ▸ hasRooms⟩
  · rintro ⟨building, rfl, file, isFile, isPage, page, isText, hasRooms⟩
    refine ⟨⟨building, Room.ofPage page⟩, (isTable _).2 ⟨file, isFile, ?_⟩, hasRooms, rfl⟩
    exact RoomSurvey.tableOf?_eq_some_ok_iff.2 ⟨isPage, page, isText, rfl⟩

/-- What ingesting a legible archive may come to: its survey is made, and the lookups end. -/
theorem MayIngestRooms.exists_lookups {ingestion : Ingestion}
    (ingested : archive.MayIngestRooms gazetteer dataset ingestion)
    (known : RoomSurvey.buildings archive = .ok buildings)
    (legible : archive.IsLegible buildings) :
    ∃ (survey : RoomSurvey) (lookups : Lookups) (outcome : Except IngestError (Keyed Location)),
      archive.files.entries.filterMap (RoomSurvey.tableOf? buildings) = survey.tables.map .ok ∧
      Lookups.Follows gazetteer survey.addresses lookups ∧ lookups.EndsWith outcome ∧
      ingestion = ⟨lookups.asked, outcome.map (survey.records dataset)⟩ := by
  cases ingested with
  | unread isOrder failed =>
    obtain ⟨survey, read, -⟩ := exists_survey known legible isOrder
    cases failed.symm.trans read
  | lookedUp isOrder read ends =>
    obtain ⟨_, readToo, all⟩ := exists_survey known legible isOrder
    cases readToo.symm.trans read
    exact ⟨_, _, _, all, (Lookups.follows_start gazetteer _).run _, ends, rfl⟩

/-- Only addresses that need a place are asked for, and none twice, whatever page is read first and
however the lookups go on, which come to an end once each has gone on twice. If all that need a
place have one, each is asked for and there are records; if one has none, the failure of such a one
is told. -/
theorem asks_for_needed_places (gazetteer : Gazetteer) (dataset : String) {content : List UInt8}
    {page : String} (complete : archive.missing? campusEntries = none)
    (hasIndex : archive.file? indexFile = some content) (isText : Bytes.text? content = some page)
    (legible : archive.IsLegible (Building.ofPage page)) :
    (∀ order, archive.IsPageOrder order →
      archive.MayIngestRooms gazetteer dataset (archive.roomRecordsIn order gazetteer dataset) ∧
      ∃ survey, RoomSurvey.ofArchiveIn order archive = .ok survey ∧
        ∀ steps : List String, (∀ address ∈ survey.addresses, 2 ≤ steps.count address) →
          ∃ outcome, ((Lookups.start survey.addresses).run gazetteer steps).EndsWith outcome) ∧
    ∀ ingestion, archive.MayIngestRooms gazetteer dataset ingestion →
      ingestion.asked.Nodup ∧
      (∀ address ∈ ingestion.asked, archive.NeedsPlace (Building.ofPage page) address) ∧
      ((∀ address, archive.NeedsPlace (Building.ofPage page) address →
          ∃ place, gazetteer address = .ok place) →
        (∃ records, ingestion.records = .ok records) ∧
        ∀ address, archive.NeedsPlace (Building.ofPage page) address →
          address ∈ ingestion.asked) ∧
      ((∃ address reason, archive.NeedsPlace (Building.ofPage page) address ∧
          gazetteer address = .error reason) →
        ∃ address reason, archive.NeedsPlace (Building.ofPage page) address ∧
          gazetteer address = .error reason ∧
          ingestion.records = .error (.geocode address reason)) := by
  have known := buildings_of_index complete hasIndex isText
  constructor
  · intro order isOrder
    obtain ⟨survey, read, -⟩ := exists_survey known legible isOrder
    exact ⟨mayIngestRooms_roomRecordsIn gazetteer dataset isOrder, survey, read,
      fun steps enough => ⟨_, Lookups.endsWith_locateAll gazetteer enough⟩⟩
  · intro ingestion ingested
    obtain ⟨survey, lookups, outcome, all, follows, ends, rfl⟩ :=
      ingested.exists_lookups known legible
    have needed {address : String} :
        address ∈ survey.addresses ↔ archive.NeedsPlace (Building.ofPage page) address :=
      mem_addresses_iff_needsPlace all
    refine ⟨follows.once, fun address asked => needed.1 (follows.mem_addresses asked), ?_, ?_⟩
    · intro allPlaced
      cases outcome with
      | ok places =>
        refine ⟨⟨_, rfl⟩, fun address needs => ?_⟩
        exact ((follows.of_places ends).1 address).2 (needed.2 needs)
      | error error =>
        obtain ⟨address, asked, failed⟩ := follows.of_failure ends
        obtain ⟨reason, unplaced, -⟩ := Gazetteer.locate_eq_error_iff.1 failed
        obtain ⟨place, placed⟩ := allPlaced address (needed.1 (follows.mem_addresses asked))
        cases unplaced.symm.trans placed
    · rintro ⟨address, reason, needs, unplaced⟩
      cases outcome with
      | ok places =>
        obtain ⟨place, located, -⟩ := (follows.of_places ends).2 address (needed.2 needs)
        cases unplaced.symm.trans (Gazetteer.locate_eq_ok_iff.1 located)
      | error error =>
        obtain ⟨other, asked, failed⟩ := follows.of_failure ends
        obtain ⟨reason, unplaced, rfl⟩ := Gazetteer.locate_eq_error_iff.1 failed
        exact ⟨other, reason, needed.1 (follows.mem_addresses asked), unplaced, rfl⟩

/-- A page with a building that has no short name, another one, and a room. -/
def hallPage : String := tablePage [
  [("views-field-title", "<a>Annex"), ("views-field-field-building-code", ""),
    ("views-field-field-building-address", "2 Main")],
  [("views-field-title", "<a>Hall"), ("views-field-field-building-code", "H"),
    ("views-field-field-building-address", "1 Main")],
  [("views-field-field-room-number", "<a>101"), ("views-field-field-room-capacity", "40"),
    ("views-field-field-room-furniture", ""), ("views-field-field-room-type", ""),
    ("views-field-nothing", "<a href=r>")]]

/-- What the page lists. -/
theorem hallPage_lists :
    Building.ofPage hallPage = [⟨"Annex", "", "2 Main"⟩, ⟨"Hall", "H", "1 Main"⟩] ∧
      Room.ofPage hallPage = [⟨"101", .ofNat 40, "", "", "r"⟩] := by
  unfold hallPage tablePage
  rw [Building.ofPage_ofList, Room.ofPage_ofList]
  delta Building.ofTree Building.ofRow? Room.ofTree Room.ofRow? rowValues Column.value? Column.link?
  simp only [Markup.Draft.finish, Markup.Draft.tree?_eq, Markup.Node.descendants,
    Markup.Node.findAll_eq, Markup.Node.findFirst?_eq]
  decide +kernel

/-- The entries of a campus archive with one file in the folder of the buildings. All have the same
content, which is not looked at where the entry is a folder. -/
def campusWith (file : String) (page : List UInt8) : List ArchiveEntry :=
  [buildingsFolder, indexFile, buildingsFolder ++ file].map fun name => ⟨name, page⟩

/-- The files of such an archive are the index and the one in the folder. -/
theorem mem_files_campusWith {file : String} {page : List UInt8} {entry : String × List UInt8}
    (distinct : [buildingsFolder, indexFile, buildingsFolder ++ file].Nodup)
    (isFile : ArchiveEntry.isFolder ⟨buildingsFolder ++ file, []⟩ = false) :
    entry ∈ (ofEntries (campusWith file page)).files.entries ↔
      entry = (indexFile, page) ∨ entry = (buildingsFolder ++ file, page) := by
  have names : ((campusWith file page).map ArchiveEntry.name).Nodup := by
    rw [campusWith, List.map_map]
    simpa using distinct
  have isFolder (name : String) :
      ArchiveEntry.isFolder ⟨name, page⟩ = ArchiveEntry.isFolder ⟨name, []⟩ := rfl
  have folder : ArchiveEntry.isFolder ⟨buildingsFolder, []⟩ = true := by decide +kernel
  have index : ArchiveEntry.isFolder ⟨indexFile, []⟩ = false := by decide +kernel
  obtain ⟨name, content⟩ := entry
  rw [Keyed.mem_entries_iff, get?_files_ofEntries names]
  simp only [campusWith, List.map_cons, List.map_nil, List.mem_cons, List.not_mem_nil, or_false,
    exists_eq_or_imp, exists_eq_left, isFolder, folder, index, isFile, Prod.mk.injEq, true_and,
    Bool.true_eq_false, false_and, false_or]
  simp only [eq_comm]

/-- The archive with the page of the hall. -/
def hallCampus : Archive := ofEntries (campusWith "H.htm" (Bytes.ofText hallPage))

/-- The files of the archive with the page of the hall. -/
theorem mem_files_hallCampus {file : String × List UInt8} :
    file ∈ hallCampus.files.entries ↔
      file = (indexFile, Bytes.ofText hallPage) ∨
        file = (buildingsFolder ++ "H.htm", Bytes.ofText hallPage) :=
  mem_files_campusWith (by decide +kernel) (by decide +kernel)

/-- The file in the folder is the page of the hall. -/
theorem hasPage_hallCampus :
    Building.HasPage (Building.ofPage hallPage) ⟨"Hall", "H", "1 Main"⟩
      (buildingsFolder ++ "H.htm") where
  isFirst := by
    rw [hallPage_lists.1]
    exact ⟨[⟨"Annex", "", "2 Main"⟩], [], rfl, by simp⟩
  named := by simp
  isStem := ⟨"", "H.htm", by simp, .inl rfl, by decide, .inr ⟨"htm", rfl, by decide⟩⟩

/-- Of the two buildings on the page only the hall needs a place, since no file is the page of a
building without a short name. -/
theorem needsPlace_hallCampus {address : String} :
    hallCampus.NeedsPlace (Building.ofPage hallPage) address ↔ address = "1 Main" := by
  constructor
  · rintro ⟨building, rfl, file, -, ⟨⟨before, after, listed, -⟩, named, -⟩, -⟩
    have member : building ∈ before ++ building :: after := by simp
    rw [← listed, hallPage_lists.1, List.mem_cons, List.mem_singleton] at member
    rcases member with rfl | rfl
    · exact absurd rfl named
    · rfl
  · rintro rfl
    refine ⟨_, rfl, _, mem_files_hallCampus.2 (.inr rfl), hasPage_hallCampus, hallPage, ?_, ?_⟩
    · rw [Bytes.text?_ofText]
    · simp [hallPage_lists.2]

/-- The archive has what it has to have. -/
theorem complete_hallCampus : hallCampus.missing? campusEntries = none := by decide +kernel

/-- The index of the archive. -/
theorem index_hallCampus : hallCampus.file? indexFile = some (Bytes.ofText hallPage) :=
  Keyed.mem_entries_iff.1 (mem_files_hallCampus.2 (.inl rfl))

/-- Every page of the archive is a text. -/
theorem legible_hallCampus (buildings : List Building) : hallCampus.IsLegible buildings := by
  intro file isFile _
  refine ⟨hallPage, ?_⟩
  rcases mem_files_hallCampus.1 isFile with rfl | rfl <;> rw [Bytes.text?_ofText]

/-- The address of the hall is the only one that is asked for, and its failure is the failure of the
whole. -/
theorem asks_for_needed_places_hallCampus :
    let order := List.range hallCampus.size
    let found := hallCampus.roomRecordsIn order (fun _ => .ok ⟨.ofNat 49, .ofNat 123⟩) "rooms"
    let failed := hallCampus.roomRecordsIn order (fun _ => .error "unknown") "rooms"
    (∃ records, found.records = .ok records) ∧ found.asked = ["1 Main"] ∧
      failed.records = .error (.geocode "1 Main" "unknown") := by
  intro order found failed
  have isOrder : hallCampus.IsPageOrder order := isPageOrder_of_perm (.refl _)
  have asks (gazetteer : Gazetteer) := asks_for_needed_places gazetteer "rooms" complete_hallCampus
    index_hallCampus (Bytes.text?_ofText hallPage) (legible_hallCampus _)
  simp only [needsPlace_hallCampus, forall_eq] at asks
  have first := (asks _).2 found ((asks _).1 order isOrder).1
  have second := (asks _).2 failed ((asks _).1 order isOrder).1
  obtain ⟨once, within, all, -⟩ := first
  obtain ⟨succeeded, asked⟩ := all ⟨_, rfl⟩
  obtain ⟨-, -, -, fails⟩ := second
  obtain ⟨address, reason, rfl, unplaced, told⟩ := fails ⟨_, _, rfl, rfl⟩
  refine ⟨succeeded, ?_, ?_⟩
  · apply List.perm_singleton.1
    rw [List.perm_ext_iff_of_nodup once (List.nodup_singleton _)]
    intro address
    rw [List.mem_singleton]
    exact ⟨within address, fun same => same ▸ asked⟩
  · cases unplaced
    exact told

end Archive
end Campus
