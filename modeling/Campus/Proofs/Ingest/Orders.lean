import Campus.Ingest.Rooms
import Campus.Proofs.Archive.Entries
import Campus.Proofs.Data.Bytes
import Campus.Proofs.Ingest.Collecting
import Campus.Proofs.Markup.Trees
/-!
# Ingestion in any order

Files are read at the same time, and so are addresses looked up. There are records exactly if every
file and every address that is needed gives what it should; then they are those of the files, one
after another by name, whatever ends first and in whatever order the archive has its entries.
Otherwise what is told is the failure of one file or address.
-/

namespace Campus

/-- What is assembled from parts that must all succeed, in whatever order they are tried. -/
structure Assembled {ε α : Type} (parts : List (Except ε (List α))) (outcome : Except ε (List α)) :
    Prop where
  /-- There is a result exactly if every part has one. -/
  succeeds : (∃ whole, outcome = .ok whole) ↔ ∀ part ∈ parts, ∃ values, part = .ok values
  /-- It is made of the results of the parts in their order. -/
  ordered : ∀ whole, outcome = .ok whole →
    ∃ lists : List (List α), parts = lists.map .ok ∧ whole = lists.flatten
  /-- A failure is that of some part. -/
  fails : ∀ error, outcome = .error error → .error error ∈ parts

namespace Assembled

variable {ε α : Type} {parts : List (Except ε (List α))} {outcome other : Except ε (List α)}

/-- Parts that all succeed are put one after another. -/
theorem of_values {lists : List (List α)} (all : parts = lists.map .ok) :
    Assembled parts (.ok lists.flatten) where
  succeeds := by
    refine iff_of_true ⟨_, rfl⟩ fun part member => ?_
    rw [all] at member
    obtain ⟨values, -, rfl⟩ := List.mem_map.1 member
    exact ⟨values, rfl⟩
  ordered := by
    rintro _ ⟨⟩
    exact ⟨lists, all, rfl⟩
  fails := nofun

/-- A part that fails may be what is told. -/
theorem of_failure {error : ε} (failed : .error error ∈ parts) :
    Assembled parts (.error error) where
  succeeds := iff_of_false (by simp) fun all => by
    obtain ⟨values, impossible⟩ := all _ failed
    cases impossible
  ordered := nofun
  fails := by
    rintro _ ⟨⟩
    exact failed

/-- Parts have one result. -/
theorem eq_ok (assembled : Assembled parts outcome) (another : Assembled parts other)
    {whole : List α} (succeeded : outcome = .ok whole) : other = .ok whole := by
  obtain ⟨again, succeededToo⟩ := another.succeeds.2 (assembled.succeeds.1 ⟨whole, succeeded⟩)
  obtain ⟨lists, all, rfl⟩ := assembled.ordered whole succeeded
  obtain ⟨others, allToo, rfl⟩ := another.ordered again succeededToo
  have same : others = lists :=
    List.map_injective_iff.2 (fun _ _ equal => Except.ok.inj equal) (allToo.symm.trans all)
  rw [succeededToo, same]

end Assembled

namespace Archive

variable {archive : Archive} {order : List Nat} {dataset : String} {gazetteer : Gazetteer}

/-- An archive that has what is required is not refused for lack of it. -/
theorem require_of_missing? {required : List String} (complete : archive.missing? required = none) :
    archive.require required = .ok () := by
  rw [require, complete]

/-- The tasks that read course files are numbered by the files. -/
theorem courseTasks_eq (archive : Archive) (dataset : String) :
    archive.courseTasks dataset = .ofNumbered (numbered
      (fun file => some (courseFileRecords dataset file.1 file.2)) archive.files.entries) := by
  simp only [courseTasks, TaskGroup.ofNumbered, numbered, Option.map_some, List.filterMap_eq_map',
    List.map_map, Function.comp_def]

/-- The records of a course archive are those of its files, in whatever order these are read. -/
theorem assembled_courseRecordsIn (complete : archive.missing? [courseFolder] = none)
    (finishing : (archive.courseTasks dataset).IsFinishing order) :
    Assembled (archive.files.entries.map fun file => courseFileRecords dataset file.1 file.2)
      (archive.courseRecordsIn order dataset) := by
  rw [courseTasks_eq] at finishing
  rw [courseRecordsIn, require_of_missing? complete, courseTasks_eq, ← List.filterMap_eq_map']
  rcases TaskGroup.collect_numbered finishing with
    ⟨found, collected, all⟩ | ⟨error, collected, failed⟩
  · simp only [collected, bind, Except.bind, Except.mapError, pure, Except.pure]
    exact .of_values all
  · simp only [collected, bind, Except.bind, Except.mapError, IngestError.ofTasks]
    exact .of_failure failed

end Archive

/-- The records of a table on its own: the address of its building is looked up if there are rooms.
-/
def RoomTable.recordsAt (gazetteer : Gazetteer) (dataset : String) (table : RoomTable) :
    Except IngestError (List Record) :=
  if table.rooms.isEmpty then .ok []
  else (gazetteer.locate table.building.address).map fun place =>
    table.rooms.map (record dataset table.building place)

namespace RoomSurvey

variable {archive : Archive} {order : List Nat} {dataset : String} {gazetteer : Gazetteer}
  {survey : RoomSurvey}

/-- The table on the page that a file is, if it is the page of a known building. -/
def tableOf? (buildings : List Building) (file : String × List UInt8) :
    Option (Except IngestError RoomTable) :=
  ((buildingCode? file.1).bind (Building.withCode? buildings)).map fun building =>
    (pageText file.1 file.2).map fun page => ⟨building, Room.ofPage page⟩

/-- The tasks that read pages are numbered by the files. -/
theorem tasks_eq (archive : Archive) (buildings : List Building) :
    tasks archive buildings =
      .ofNumbered (numbered (tableOf? buildings) archive.files.entries) := by
  rw [tasks, TaskGroup.ofNumbered, numbered, List.map_filterMap]
  congr 1
  refine List.filterMap_congr fun item _ => ?_
  cases known : (buildingCode? item.1.1).bind (Building.withCode? buildings) with
  | none => simp only [tableOf?, known, bind, Option.bind_none, Option.map_none]
  | some building =>
    simp only [tableOf?, known, bind, Option.bind_some, pure, Option.map_some]
    cases pageText item.1.1 item.1.2 <;> rfl

/-- The table on a text page of a known building. -/
theorem tableOf?_of_text {buildings : List Building} {file page : String} {content : List UInt8}
    (isText : Bytes.text? content = some page) :
    tableOf? buildings (file, content) =
      ((buildingCode? file).bind (Building.withCode? buildings)).map fun building =>
        .ok ⟨building, Room.ofPage page⟩ := by
  simp only [tableOf?, pageText, isText, Except.map]

/-- The addresses that are looked up are those of buildings with rooms. -/
theorem mem_addresses_iff {address : String} :
    address ∈ survey.addresses ↔
      ∃ table ∈ survey.tables, table.rooms ≠ [] ∧ table.building.address = address := by
  rw [addresses, Keyed.mem_keys_ofList_iff, List.map_map]
  simp [and_assoc]

/-- Either every address has a place, and under each its own is found, or the failure of one of them
is told. -/
theorem locateAll_cases (gazetteer : Gazetteer) (places : Keyed Location) (lookups : List String) :
    (∃ found, (locateAll gazetteer places lookups).2 = .ok found ∧
        (∀ address ∈ lookups, ∃ place, gazetteer.locate address = .ok place ∧
          found.get? address = some place) ∧
        ∀ address ∉ lookups, found.get? address = places.get? address) ∨
      ∃ address ∈ lookups, ∃ error, (locateAll gazetteer places lookups).2 = .error error ∧
        gazetteer.locate address = .error error := by
  induction lookups generalizing places with
  | nil => exact .inl ⟨places, rfl, nofun, fun _ _ => rfl⟩
  | cons first rest ih =>
    cases located : gazetteer.locate first with
    | error error =>
      exact .inr ⟨first, List.mem_cons_self, error, by simp [locateAll, located], located⟩
    | ok place =>
      rcases ih (places.insert first place) with
        ⟨found, all, each, others⟩ | ⟨address, member, error, failed, unlocated⟩
      · refine .inl ⟨found, by simpa [locateAll, located] using all, ?_, ?_⟩
        · intro address member
          by_cases later : address ∈ rest
          · exact each address later
          · obtain rfl := (List.mem_cons.1 member).resolve_right later
            refine ⟨place, located, ?_⟩
            rw [others address later, Keyed.get?_insert, if_pos rfl]
        · intro address absent
          rw [List.mem_cons, not_or] at absent
          rw [others address absent.2, Keyed.get?_insert, if_neg absent.1]
      · exact .inr ⟨address, List.mem_cons_of_mem _ member, error,
          by simpa [locateAll, located] using failed, unlocated⟩

/-- The records of a survey are those of its tables on their own, in whatever order the addresses
are answered. -/
theorem assembled_records (dataset : String) {lookups : List String}
    (same : lookups.Perm survey.addresses) :
    Assembled (survey.tables.map (RoomTable.recordsAt gazetteer dataset))
      ((locateAll gazetteer ∅ lookups).2.map fun places => survey.records dataset places) := by
  rcases locateAll_cases gazetteer ∅ lookups with
    ⟨found, all, each, others⟩ | ⟨address, member, error, failed, unlocated⟩
  · -- A table without rooms has no records whether or not its address has been looked up.
    have ofTable : ∀ table ∈ survey.tables, RoomTable.recordsAt gazetteer dataset table =
        .ok (RoomTable.records dataset found table) := by
      intro table isTable
      cases rooms : table.rooms with
      | nil =>
        rw [RoomTable.recordsAt, RoomTable.records, rooms, if_pos List.isEmpty_nil]
        split <;> rfl
      | cons room rest =>
        have hasRooms : table.rooms ≠ [] := by simp [rooms]
        have lookedUp := mem_addresses_iff.2 ⟨table, isTable, hasRooms, rfl⟩
        obtain ⟨place, located, isThere⟩ := each _ (same.mem_iff.2 lookedUp)
        rw [RoomTable.recordsAt, if_neg (by simp [rooms]), located, RoomTable.records, isThere]
        rfl
    rw [all, Except.map, records, List.flatMap_def]
    refine .of_values ?_
    rw [List.map_map]
    exact List.map_congr_left ofTable
  · rw [failed, Except.map]
    refine .of_failure ?_
    obtain ⟨table, isTable, hasRooms, rfl⟩ := mem_addresses_iff.1 (same.mem_iff.1 member)
    refine List.mem_map.2 ⟨table, isTable, ?_⟩
    rw [RoomTable.recordsAt, if_neg (by simpa using hasRooms), unlocated, Except.map]

end RoomSurvey

/-- An order in which the pages of an archive may be read: every page of a known building is, and
none is read twice. -/
def Archive.IsPageOrder (archive : Archive) (order : List Nat) : Prop :=
  ∀ buildings, RoomSurvey.buildings archive = .ok buildings →
    (RoomSurvey.tasks archive buildings).IsFinishing order

namespace RoomSurvey

/-- The records of the rooms of an archive, page by page: each page is read, and then the address of
its building is looked up if there are rooms. -/
def pages (archive : Archive) (buildings : List Building) (gazetteer : Gazetteer)
    (dataset : String) : List (Except IngestError (List Record)) :=
  (archive.files.entries.filterMap (tableOf? buildings)).map fun table =>
    table.bind (RoomTable.recordsAt gazetteer dataset)

variable {archive : Archive} {order : List Nat} {buildings : List Building}

/-- Whatever the order in which pages are read, either all can be and make a survey in the order of
the files, or one of them cannot be read. -/
theorem ofArchiveIn_cases (known : RoomSurvey.buildings archive = .ok buildings)
    (finishing : archive.IsPageOrder order) :
    (∃ survey, ofArchiveIn order archive = .ok survey ∧
        archive.files.entries.filterMap (tableOf? buildings) = survey.tables.map .ok) ∨
      ∃ error, ofArchiveIn order archive = .error error ∧
        .error error ∈ archive.files.entries.filterMap (tableOf? buildings) := by
  have finishing := finishing buildings known
  rw [tasks_eq] at finishing
  simp only [ofArchiveIn, known, bind, Except.bind, tasks_eq]
  rcases TaskGroup.collect_numbered finishing with
    ⟨found, collected, all⟩ | ⟨error, collected, failed⟩
  · exact .inl ⟨⟨inOrder found⟩, by simp [collected, Except.mapError, pure, Except.pure], all⟩
  · exact .inr ⟨error, by simp [collected, Except.mapError, IngestError.ofTasks], failed⟩

/-- The records of a survey are those of the pages, in whatever order the addresses are answered. -/
theorem assembled_pages {gazetteer : Gazetteer} {dataset : String} {survey : RoomSurvey}
    (all : archive.files.entries.filterMap (tableOf? buildings) = survey.tables.map .ok)
    {lookups : List String} (same : lookups.Perm survey.addresses) :
    Assembled (pages archive buildings gazetteer dataset)
      ((locateAll gazetteer ∅ lookups).2.map fun places => survey.records dataset places) := by
  rw [pages, all, List.map_map]
  exact assembled_records dataset same

end RoomSurvey

namespace Archive

variable {archive : Archive} {order : List Nat} {buildings : List Building}

/-- The records of a campus archive are those of its pages, in whatever order these are read. -/
theorem assembled_roomRecordsIn {gazetteer : Gazetteer} {dataset : String}
    (known : RoomSurvey.buildings archive = .ok buildings)
    (finishing : archive.IsPageOrder order) :
    Assembled (RoomSurvey.pages archive buildings gazetteer dataset)
      (archive.roomRecordsIn order gazetteer dataset).records := by
  rcases RoomSurvey.ofArchiveIn_cases known finishing with
    ⟨survey, read, all⟩ | ⟨error, read, failed⟩
  · rw [roomRecordsIn, read]
    exact RoomSurvey.assembled_pages all (.refl _)
  · rw [roomRecordsIn, read]
    exact .of_failure (List.mem_map.2 ⟨_, failed, rfl⟩)

/-- A course archive that has records has its folder. -/
theorem missing?_of_courseRecordsIn {dataset : String} {records : List Record}
    (succeeded : archive.courseRecordsIn order dataset = .ok records) :
    archive.missing? [courseFolder] = none := by
  cases complete : archive.missing? [courseFolder] with
  | none => rfl
  | some name => simp [courseRecordsIn, require, complete, bind, Except.bind] at succeeded

/-- A campus archive that has records has its buildings. -/
theorem exists_buildings_of_roomRecordsIn {gazetteer : Gazetteer} {dataset : String}
    {records : List Record}
    (succeeded : (archive.roomRecordsIn order gazetteer dataset).records = .ok records) :
    ∃ buildings, RoomSurvey.buildings archive = .ok buildings := by
  cases known : RoomSurvey.buildings archive with
  | ok buildings => exact ⟨buildings, rfl⟩
  | error error =>
    simp [roomRecordsIn, RoomSurvey.ofArchiveIn, known, bind, Except.bind] at succeeded

/-- The buildings of an archive that has what it has to have are those of its index. -/
theorem buildings_of_index {content : List UInt8} {page : String}
    (complete : archive.missing? campusEntries = none)
    (hasIndex : archive.file? indexFile = some content) (isText : Bytes.text? content = some page) :
    RoomSurvey.buildings archive = .ok (Building.ofPage page) := by
  simp only [RoomSurvey.buildings, require_of_missing? complete, hasIndex, pageText, isText,
    bind, Except.bind, pure, Except.pure]

/-- Course files may be read in any order of the files. -/
theorem isFinishing_courseTasks (dataset : String) (all : order.Perm (List.range archive.size)) :
    (archive.courseTasks dataset).IsFinishing order := by
  rw [courseTasks_eq]
  exact TaskGroup.isFinishing_numbered all

/-- Pages may be read in any order of the files. -/
theorem isPageOrder_of_perm (all : order.Perm (List.range archive.size)) :
    archive.IsPageOrder order := by
  intro buildings _
  rw [RoomSurvey.tasks_eq]
  exact TaskGroup.isFinishing_numbered all

/-- What comes of an archive is assembled from its files, in whatever order these are read, whatever
address is answered first, and in whatever order the archive has its entries. A course archive has
the records of its files, and a campus archive those of the pages of known buildings. -/
theorem records_in_any_order (dataset : String) (gazetteer : Gazetteer) :
    (∀ (archive : Archive) (order : List Nat), archive.missing? [courseFolder] = none →
      (archive.courseTasks dataset).IsFinishing order →
      Assembled (archive.files.entries.map fun file => courseFileRecords dataset file.1 file.2)
        (archive.courseRecordsIn order dataset)) ∧
    (∀ (archive : Archive) (order : List Nat) (content : List UInt8) (page : String),
      archive.missing? campusEntries = none → archive.file? indexFile = some content →
      Bytes.text? content = some page → archive.IsPageOrder order →
      Assembled (RoomSurvey.pages archive (Building.ofPage page) gazetteer dataset)
        (archive.roomRecordsIn order gazetteer dataset).records ∧
      ∀ (survey : RoomSurvey) (lookups : List String),
        RoomSurvey.ofArchiveIn order archive = .ok survey → lookups.Perm survey.addresses →
        Assembled (RoomSurvey.pages archive (Building.ofPage page) gazetteer dataset)
          ((RoomSurvey.locateAll gazetteer ∅ lookups).2.map fun places =>
            survey.records dataset places)) ∧
    ∀ first second : List ArchiveEntry, first.Perm second →
      (first.map ArchiveEntry.name).Nodup → ∀ (order other : List Nat) (records : List Record),
      (((ofEntries first).courseTasks dataset).IsFinishing order →
        ((ofEntries second).courseTasks dataset).IsFinishing other →
        (ofEntries first).courseRecordsIn order dataset = .ok records →
        (ofEntries second).courseRecordsIn other dataset = .ok records) ∧
      ((ofEntries first).IsPageOrder order → (ofEntries second).IsPageOrder other →
        ((ofEntries first).roomRecordsIn order gazetteer dataset).records = .ok records →
        ((ofEntries second).roomRecordsIn other gazetteer dataset).records = .ok records) := by
  refine ⟨fun archive order complete finishing => assembled_courseRecordsIn complete finishing,
    ?_, ?_⟩
  · intro archive order content page complete hasIndex isText finishing
    have known := buildings_of_index complete hasIndex isText
    refine ⟨assembled_roomRecordsIn known finishing, fun survey lookups read same => ?_⟩
    rcases RoomSurvey.ofArchiveIn_cases known finishing with ⟨other, readToo, all⟩ | ⟨_, failed, -⟩
    · cases read.symm.trans readToo
      exact RoomSurvey.assembled_pages all same
    · cases read.symm.trans failed
  · intro first second same distinct order other records
    rw [← ofEntries_of_perm same distinct]
    refine ⟨fun finishing finishingToo succeeded => ?_, fun finishing finishingToo succeeded => ?_⟩
    · have complete := missing?_of_courseRecordsIn succeeded
      exact (assembled_courseRecordsIn complete finishing).eq_ok
        (assembled_courseRecordsIn complete finishingToo) succeeded
    · obtain ⟨buildings, known⟩ := exists_buildings_of_roomRecordsIn succeeded
      exact (assembled_roomRecordsIn known finishing).eq_ok
        (assembled_roomRecordsIn known finishingToo) succeeded

/-- Two course files with a section each. -/
def twoCourses : List ArchiveEntry := [
  ⟨"courses/a", Bytes.ofText "\x7b\"result\":[[1,\"310\",\"\",\"\",\"cpsc\",2014,70,1,0,0]]\x7d"⟩,
  ⟨"courses/b", Bytes.ofText "\x7b\"result\":[[2,\"340\",\"\",\"\",\"cpsc\",2014,80,1,0,0]]\x7d"⟩]

/-- What is assembled from the two files are their sections, in the order of the names. -/
theorem exists_records_twoCourses {outcome : Except IngestError (List Record)}
    (assembled : Assembled ((ofEntries twoCourses).files.entries.map fun file =>
      courseFileRecords "courses" file.1 file.2) outcome) :
    ∃ records, outcome = .ok records ∧ (records.map fun record => record.get? "courses_id") =
      [some (.text "310"), some (.text "340")] := by
  let ids := fun records : List Record => records.map fun record => record.get? "courses_id"
  have read : ((ofEntries twoCourses).files.entries.map fun file =>
      courseFileRecords "courses" file.1 file.2).map (fun part => part.toOption.map ids) =
        [[some (.text "310")], [some (.text "340")]].map some := by decide +kernel
  obtain ⟨records, succeeded⟩ := assembled.succeeds.2 fun part member => by
    have there := List.mem_map_of_mem (f := fun part => part.toOption.map ids) member
    rw [read] at there
    cases part with
    | ok values => exact ⟨values, rfl⟩
    | error error => simp [Except.toOption] at there
  obtain ⟨lists, all, rfl⟩ := assembled.ordered records succeeded
  refine ⟨_, succeeded, ?_⟩
  rw [all, List.map_map] at read
  change lists.map (some ∘ ids) = _ at read
  rw [← List.map_map] at read
  have each : lists.map ids = [[some (.text "310")], [some (.text "340")]] :=
    List.map_injective_iff.2 (Option.some_injective _) read
  rw [List.map_flatten]
  exact congrArg List.flatten each

/-- A page with a table, given by the marks and contents of the cells of each row. -/
def tablePage (rows : List (List (String × String))) : String :=
  String.ofList ("<table>".toList ++ rows.flatMap fun cells =>
    "<tr>".toList ++ cells.flatMap fun (mark, content) =>
      "<td class=".toList ++ mark.toList ++ '>' :: content.toList)

/-- An index of two buildings. -/
def courtIndex : String := tablePage [
  [("views-field-title", "<a>Hall"), ("views-field-field-building-code", "H"),
    ("views-field-field-building-address", "1 Main")],
  [("views-field-title", "<a>Annex"), ("views-field-field-building-code", "A"),
    ("views-field-field-building-address", "2 Main")]]

/-- A page with one room. -/
def roomPage (number : String) : String := tablePage [
  [("views-field-field-room-number", "<a>" ++ number), ("views-field-field-room-capacity", "40"),
    ("views-field-field-room-furniture", ""), ("views-field-field-room-type", ""),
    ("views-field-nothing", "<a href=r>")]]

/-- A campus archive with an index and the pages of two buildings. -/
def court : List ArchiveEntry := [
  ⟨buildingsFolder, []⟩,
  ⟨buildingsFolder ++ "A.htm", Bytes.ofText (roomPage "7")⟩,
  ⟨buildingsFolder ++ "H.htm", Bytes.ofText (roomPage "101")⟩,
  ⟨indexFile, Bytes.ofText courtIndex⟩]

/-- The tables on the pages of the two buildings, in the order of the files. -/
def courtTables : List RoomTable := [
  ⟨⟨"Annex", "A", "2 Main"⟩, [⟨"7", .ofNat 40, "", "", "r"⟩]⟩,
  ⟨⟨"Hall", "H", "1 Main"⟩, [⟨"101", .ofNat 40, "", "", "r"⟩]⟩]

/-- What the pages list. -/
theorem pages_list :
    Building.ofPage courtIndex = [⟨"Hall", "H", "1 Main"⟩, ⟨"Annex", "A", "2 Main"⟩] ∧
      Room.ofPage (roomPage "7") = [⟨"7", .ofNat 40, "", "", "r"⟩] ∧
      Room.ofPage (roomPage "101") = [⟨"101", .ofNat 40, "", "", "r"⟩] := by
  unfold courtIndex roomPage tablePage
  rw [Building.ofPage_ofList, Room.ofPage_ofList, Room.ofPage_ofList]
  delta Building.ofTree Building.ofRow? Room.ofTree Room.ofRow? rowValues Column.value? Column.link?
  simp only [Markup.Draft.finish, Markup.Draft.tree?_eq, Markup.Node.descendants,
    Markup.Node.findAll_eq, Markup.Node.findFirst?_eq]
  decide +kernel

/-- The files of the archive, by their names. -/
theorem files_court : (ofEntries court).files.entries = [
    (buildingsFolder ++ "A.htm", Bytes.ofText (roomPage "7")),
    (buildingsFolder ++ "H.htm", Bytes.ofText (roomPage "101")),
    (indexFile, Bytes.ofText courtIndex)] := by
  have kinds : [buildingsFolder, buildingsFolder ++ "A.htm", buildingsFolder ++ "H.htm",
      indexFile].map (fun name => ArchiveEntry.isFolder ⟨name, []⟩) =
        [true, false, false, false] := by decide +kernel
  have isFolder (name : String) (content : List UInt8) :
      ArchiveEntry.isFolder ⟨name, content⟩ = ArchiveEntry.isFolder ⟨name, []⟩ := rfl
  simp only [List.map_cons, List.map_nil, List.cons.injEq, and_true] at kinds
  rw [files_ofEntries, court]
  -- The contents are not to be looked at when the names are compared.
  generalize Bytes.ofText courtIndex = index
  generalize Bytes.ofText (roomPage "101") = hall
  generalize Bytes.ofText (roomPage "7") = annex
  simp only [filesAmong, List.filter_cons, isFolder _ index, isFolder _ hall, isFolder _ annex,
    kinds, Bool.not_true, Bool.not_false, Bool.false_eq_true, if_true, if_false, List.filter_nil,
    List.map_cons, List.map_nil]
  refine Entries.sorted_of_ascending (Entries.ascending_of_keys ?_)
  simp only [List.map_cons, List.map_nil]
  decide +kernel

/-- The tables are those of the files that are pages. -/
theorem tables_court : (ofEntries court).files.entries.filterMap
    (RoomSurvey.tableOf? (Building.ofPage courtIndex)) = courtTables.map .ok := by
  obtain ⟨buildings, annex, hall⟩ := pages_list
  have codes : [buildingsFolder ++ "A.htm", buildingsFolder ++ "H.htm", indexFile].map
      buildingCode? = [some "A", some "H", none] := by decide +kernel
  simp only [List.map_cons, List.map_nil, List.cons.injEq, and_true] at codes
  obtain ⟨annexCode, hallCode, noCode⟩ := codes
  simp only [files_court, List.filterMap_cons, RoomSurvey.tableOf?_of_text (Bytes.text?_ofText _),
    annexCode, hallCode, noCode, annex, hall, buildings, Option.bind_some, Option.bind_none]
  rfl

/-- The archive has what it has to have. -/
theorem complete_court : (ofEntries court).missing? campusEntries = none := by decide +kernel

/-- The index of the archive. -/
theorem index_court : (ofEntries court).file? indexFile = some (Bytes.ofText courtIndex) :=
  Keyed.mem_entries_iff.1 (by simp [files_court])

/-- The pages may be read in any order of the three files. -/
theorem isPageOrder_court {order : List Nat} (all : order.Perm [0, 1, 2]) :
    (ofEntries court).IsPageOrder order := by
  refine isPageOrder_of_perm ?_
  rw [size, Keyed.size, files_court]
  exact all

/-- In whatever order the pages are read, the survey has their tables in the order of the files. -/
theorem survey_court {order : List Nat} (all : order.Perm [0, 1, 2]) :
    RoomSurvey.ofArchiveIn order (ofEntries court) = .ok ⟨courtTables⟩ := by
  have known := buildings_of_index complete_court index_court (Bytes.text?_ofText _)
  rcases RoomSurvey.ofArchiveIn_cases known (isPageOrder_court all) with
    ⟨⟨tables⟩, read, same⟩ | ⟨error, -, failed⟩
  · rw [tables_court] at same
    obtain rfl : courtTables = tables :=
      List.map_injective_iff.2 (fun _ _ equal => Except.ok.inj equal) same
    exact read
  · rw [tables_court] at failed
    obtain ⟨table, -, impossible⟩ := List.mem_map.1 failed
    cases impossible

/-- Two course files give their records in the order of the names, and so do the pages of two
buildings, however the archive has its entries, whichever file is read first and whichever address
is answered first. If one of the two addresses is unknown, that is what is told. -/
theorem records_in_any_order_twoCourses :
    let placed : Gazetteer := fun address =>
      .ok ⟨.ofNat (if address = "1 Main" then 49 else 48), .ofNat 123⟩
    let unplaced : Gazetteer := fun address =>
      if address = "1 Main" then .ok ⟨.ofNat 49, .ofNat 123⟩ else .error "unknown"
    (∃ records, (ofEntries twoCourses).courseRecordsIn [1, 0] "courses" = .ok records ∧
      (ofEntries twoCourses.reverse).courseRecordsIn [0, 1] "courses" = .ok records ∧
      (records.map fun record => record.get? "courses_id") =
        [some (.text "310"), some (.text "340")]) ∧
    (∃ records,
      ((ofEntries court).roomRecordsIn [2, 1, 0] placed "rooms").records = .ok records ∧
      ((ofEntries court.reverse).roomRecordsIn [1, 0, 2] placed "rooms").records = .ok records ∧
      ((RoomSurvey.locateAll placed ∅ ["2 Main", "1 Main"]).2.map fun places =>
        RoomSurvey.records ⟨courtTables⟩ "rooms" places) = .ok records ∧
      (records.map fun record => (record.get? "rooms_name", record.get? "rooms_lat")) =
        [(some (.text "A_7"), some (.number (.ofNat 48))),
          (some (.text "H_101"), some (.number (.ofNat 49)))]) ∧
    ((ofEntries court).roomRecordsIn [2, 1, 0] unplaced "rooms").records =
      .error (.geocode "2 Main" "unknown") := by
  intro placed unplaced
  have rooms (gazetteer : Gazetteer) := (records_in_any_order "rooms" gazetteer).2.1
    (ofEntries court) [2, 1, 0] _ courtIndex complete_court index_court (Bytes.text?_ofText _)
    (isPageOrder_court (by decide))
  have pages (gazetteer : Gazetteer) :
      RoomSurvey.pages (ofEntries court) (Building.ofPage courtIndex) gazetteer "rooms" =
        courtTables.map (RoomTable.recordsAt gazetteer "rooms") := by
    rw [RoomSurvey.pages, tables_court, List.map_map]
    rfl
  simp only [pages] at rooms
  refine ⟨?_, ?_, ?_⟩
  · obtain ⟨courses, -, reordered⟩ := records_in_any_order "courses" placed
    have assembled := courses (ofEntries twoCourses) [1, 0] (by decide +kernel)
      (isFinishing_courseTasks _ (by decide +kernel))
    obtain ⟨records, succeeded, ids⟩ := exists_records_twoCourses assembled
    refine ⟨records, succeeded, ?_, ids⟩
    exact (reordered twoCourses twoCourses.reverse (by decide +kernel) (by decide +kernel) [1, 0]
      [0, 1] records).1 (isFinishing_courseTasks _ (by decide +kernel))
        (isFinishing_courseTasks _ (by decide +kernel)) succeeded
  · have lists : courtTables.map (RoomTable.recordsAt placed "rooms") =
        (courtTables.map fun table => table.rooms.map (RoomTable.record "rooms" table.building
          ⟨.ofNat (if table.building.address = "1 Main" then 49 else 48), .ofNat 123⟩)).map .ok :=
      rfl
    have whole := Assembled.of_values lists
    have succeeded := whole.eq_ok (rooms placed).1 rfl
    have answered := whole.eq_ok ((rooms placed).2 ⟨courtTables⟩ ["2 Main", "1 Main"]
      (survey_court (by decide)) (by decide +kernel)) rfl
    have distinct : (court.map ArchiveEntry.name).Nodup := by decide +kernel
    have same := ofEntries_of_perm court.reverse_perm.symm distinct
    have reversed : (ofEntries court.reverse).IsPageOrder [1, 0, 2] :=
      same ▸ isPageOrder_court (by decide)
    have reordered := (records_in_any_order "rooms" placed).2.2 court court.reverse
      court.reverse_perm.symm distinct [2, 1, 0] [1, 0, 2]
    exact ⟨_, succeeded, (reordered _).2 (isPageOrder_court (by decide)) reversed succeeded,
      answered, by decide +kernel⟩
  · obtain ⟨succeeds, -, fails⟩ := (rooms unplaced).1
    have parts : courtTables.map (RoomTable.recordsAt unplaced "rooms") =
        [.error (.geocode "2 Main" "unknown"), .ok [RoomTable.record "rooms" ⟨"Hall", "H", "1 Main"⟩
          ⟨.ofNat 49, .ofNat 123⟩ ⟨"101", .ofNat 40, "", "", "r"⟩]] := rfl
    rw [parts] at succeeds fails
    cases outcome : ((ofEntries court).roomRecordsIn [2, 1, 0] unplaced "rooms").records with
    | ok records =>
      obtain ⟨values, impossible⟩ := succeeds.1 ⟨records, outcome⟩ _ List.mem_cons_self
      cases impossible
    | error error => simpa using fails error outcome

end Archive
end Campus
