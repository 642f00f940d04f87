import Campus.Ingest.Rooms
import Campus.Proofs.Dataset.Shape
/-!
# The shape of ingested records

Sections and rooms become records by listing one value for every field. Whatever order the tasks of
an ingestion end in, its records are those of single sections and rooms, so all have the shape of
the kind that was ingested.
-/

namespace Campus

variable {dataset : String}

namespace TaskGroup

variable {ε α : Type}

/-- Collected values are those of tasks, after the values there were before. -/
theorem mem_of_collectFrom {before found : List α} {pending : List (TaskEnd ε α)}
    (collected : (collectFrom before pending).1 = .ok found) {value : α} (member : value ∈ found) :
    value ∈ before ∨ .value value ∈ pending := by
  induction pending generalizing before with
  | nil =>
    cases collected
    exact Or.inl (List.mem_reverse.1 member)
  | cons task rest ih =>
    cases task with
    | value first =>
      rcases ih collected with stands | later
      · rcases List.mem_cons.1 stands with rfl | earlier
        · exact Or.inr List.mem_cons_self
        · exact Or.inl earlier
      · exact Or.inr (List.mem_cons_of_mem _ later)
    | error | breakdown => cases collected

/-- Tasks that are reordered are tasks of the group. -/
theorem mem_of_reordered {group : TaskGroup ε α} {order : List Nat} {task : TaskEnd ε α}
    (member : task ∈ (group.reordered order).pending) : task ∈ group.pending := by
  obtain ⟨number, _, found⟩ := List.mem_filterMap.1 member
  exact List.mem_of_getElem? found

/-- A value of a group of given outcomes is one of them. -/
theorem mem_of_ofOutcomes {outcomes : List (Except ε α)} {value : α}
    (member : .value value ∈ (ofOutcomes outcomes).pending) : .ok value ∈ outcomes := by
  obtain ⟨outcome, stands, same⟩ := List.mem_map.1 member
  cases outcome with
  | error => cases same
  | ok found =>
    cases same
    exact stands

/-- What is collected in some order from given outcomes are some of them. -/
theorem mem_of_collect {outcomes : List (Except ε α)} {order : List Nat} {found : List α}
    (collected : ((ofOutcomes outcomes).reordered order).collect.1 = .ok found) {value : α}
    (member : value ∈ found) : .ok value ∈ outcomes := by
  rcases mem_of_collectFrom collected member with stands | pending
  · cases stands
  · exact mem_of_ofOutcomes (mem_of_reordered pending)

end TaskGroup

/-- What stands in the order of numbers has a number. -/
theorem exists_mem_of_inOrder {α : Type} {numbered : List (Nat × α)} {value : α}
    (member : value ∈ inOrder numbered) : ∃ number, (number, value) ∈ numbered := by
  obtain ⟨⟨number, found⟩, stands, rfl⟩ := List.mem_map.1 member
  exact ⟨number, (List.mergeSort_perm _ _).mem_iff.1 stands⟩

/-- The record of a section has the shape of sections. -/
theorem SectionElement.hasShape_of_record? {element : SectionElement} {record : Record}
    (found : element.record? dataset = some record) : record.HasShape dataset .sections := by
  obtain ⟨year, _, rfl⟩ := Option.map_eq_some_iff.1 found
  let values : List (Field × Scalar) := [
    (.uuid, .text element.uuid.display), (.id, .text element.course), (.title, .text element.title),
    (.instructor, .text element.professor), (.dept, .text element.subject), (.year, .number year),
    (.avg, .number element.avg), (.pass, .number element.pass), (.fail, .number element.fail),
    (.audit, .number element.audit)]
  have classes : ∀ entry ∈ values, entry.2.fieldClass = entry.1.fieldClass := by
    simp [values, Scalar.fieldClass, Field.fieldClass]
  exact Record.hasShape_ofFields dataset .sections values (List.Perm.refl _) classes

/-- The record of a room has the shape of rooms. -/
theorem RoomTable.hasShape_record (building : Building) (place : Location) (room : Room) :
    (record dataset building place room).HasShape dataset .rooms := by
  let values : List (Field × Scalar) := [
    (.fullname, .text building.fullName), (.shortname, .text building.shortName),
    (.name, .text (building.shortName ++ "_" ++ room.number)), (.number, .text room.number),
    (.address, .text building.address), (.lat, .number place.lat), (.lon, .number place.lon),
    (.seats, .number room.seats), (.type, .text room.type), (.furniture, .text room.furniture),
    (.href, .text room.href)]
  have complete : (values.map Prod.fst).Perm DatasetKind.rooms.fields := by
    simp only [values, List.map_cons, List.map_nil]
    decide
  have classes : ∀ entry ∈ values, entry.2.fieldClass = entry.1.fieldClass := by
    simp [values, Scalar.fieldClass, Field.fieldClass]
  exact Record.hasShape_ofFields dataset .rooms values complete classes

namespace Archive

variable {order : List Nat} {archive : Archive}

/-- The records of a course file have the shape of sections. -/
theorem hasShape_of_courseFileRecords {name : String} {bytes : List UInt8} {records : List Record}
    (read : courseFileRecords dataset name bytes = .ok records) :
    ∀ record ∈ records, record.HasShape dataset .sections := by
  unfold courseFileRecords at read
  split at read
  · cases read
    intro record member
    obtain ⟨doc, _, found⟩ := List.mem_filterMap.1 member
    obtain ⟨element, _, found⟩ := Option.bind_eq_some_iff.1 found
    exact SectionElement.hasShape_of_record? found
  · cases read

/-- The records of a course archive have the shape of sections. -/
theorem hasShape_of_courseRecordsIn {records : List Record}
    (ingested : archive.courseRecordsIn order dataset = .ok records) :
    ∀ record ∈ records, record.HasShape dataset .sections := by
  unfold courseRecordsIn at ingested
  cases complete : archive.require [courseFolder] with
  | error error => simp [complete, bind, Except.bind] at ingested
  | ok _ =>
    cases collected : ((archive.courseTasks dataset).reordered order).collect.1 with
    | error error => simp [complete, collected, bind, Except.bind, Except.mapError] at ingested
    | ok parsed =>
      simp only [complete, collected, bind, Except.bind, Except.mapError, pure, Except.pure,
        Except.ok.injEq] at ingested
      subst ingested
      intro record member
      obtain ⟨ofFile, stands, inFile⟩ := List.mem_flatten.1 member
      obtain ⟨number, numbered⟩ := exists_mem_of_inOrder stands
      have outcome := TaskGroup.mem_of_collect collected numbered
      obtain ⟨⟨file, place⟩, _, read⟩ := List.mem_map.1 outcome
      cases ofRead : courseFileRecords dataset file.1 file.2 with
      | error error => simp [ofRead, Except.map] at read
      | ok found =>
        simp only [ofRead, Except.map, Except.ok.injEq, Prod.mk.injEq] at read
        obtain ⟨-, rfl⟩ := read
        exact hasShape_of_courseFileRecords ofRead record inFile

/-- The records of a campus archive have the shape of rooms. -/
theorem hasShape_of_roomRecordsIn {gazetteer : Gazetteer} {records : List Record}
    (ingested : (archive.roomRecordsIn order gazetteer dataset).records = .ok records) :
    ∀ record ∈ records, record.HasShape dataset .rooms := by
  unfold roomRecordsIn at ingested
  split at ingested
  · cases ingested
  next survey _ =>
  generalize RoomSurvey.locateAll gazetteer ∅ survey.addresses = located at ingested
  obtain ⟨asked, places⟩ := located
  cases places with
  | error error => cases ingested
  | ok places =>
    cases ingested
    intro record member
    obtain ⟨table, _, inTable⟩ := List.mem_flatMap.1 member
    unfold RoomTable.records at inTable
    split at inTable
    · next place _ =>
      obtain ⟨room, _, rfl⟩ := List.mem_map.1 inTable
      exact RoomTable.hasShape_record table.building place room
    · cases inTable

/-- What ingesting an archive gives are records, at least one, of the shape of its kind. -/
theorem hasShape_of_ingest {gazetteer : Gazetteer} {kind : DatasetKind} {records : List Record}
    (ingested : (archive.ingest gazetteer kind dataset).records = .ok records) :
    records ≠ [] ∧ ∀ record ∈ records, record.HasShape dataset kind := by
  unfold ingest at ingested
  simp only at ingested
  generalize outcomeEq : Ingestion.records _ = outcome at ingested
  cases outcome with
  | error error => cases ingested
  | ok found =>
    simp only [Except.bind, requireRecords] at ingested
    split at ingested
    · cases ingested
    next nonEmpty =>
    cases ingested
    refine ⟨by simpa using nonEmpty, ?_⟩
    cases kind with
    | sections => exact hasShape_of_courseRecordsIn outcomeEq
    | rooms => exact hasShape_of_roomRecordsIn outcomeEq

end Archive
end Campus
