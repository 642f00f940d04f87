import Campus.Proofs.Query.Documents
import Campus.Proofs.Service.Reopening
import Campus.Proofs.Service.Standing
import Campus.Proofs.Store.Keys
/-!
# Queries next to changes

A query reads the store twice, once for the datasets that exist and once for the one that it is
about, and other calls may change the store in between. What the caller is told is what a query is
told that reads both at the second moment, unless the first reading has already refused it: a
dataset that has gone meanwhile is told as one that never was there.
-/

namespace Campus

/-- What a caller is told of a failure: its class and its message. -/
def ServiceError.told (error : ServiceError) : ErrorCode × String := (error.code, error.message)

/-- A query that fails does not fail because of the store. -/
theorem ServiceError.code_of_mapError_query {α : Type} {outcome : Except QueryError α}
    {error : ServiceError} (failed : outcome.mapError .query = .error error) :
    error.code ≠ .storage := by
  cases outcome with
  | ok value => cases failed
  | error reason =>
    cases failed
    cases reason <;> exact nofun

/-- What a caller is told: the answer, or the class and the message of a failure. -/
def Service.told {α : Type} (answer : Except ServiceError α) : Except (ErrorCode × String) α :=
  answer.mapError ServiceError.told

/-- The catalog decides only whether the one dataset of a document is known. -/
theorem Query.read_of_read {inCatalog : String → Bool} {document : Json} {query : Query}
    (read : Query.read inCatalog document = .ok query) (other : String → Bool) :
    Query.read other document =
      if other query.dataset then .ok query else .error (.unknownDataset query.dataset) := by
  obtain ⟨columnKeys, parts, one, -⟩ := Grammar.query_read_eq_ok_iff.1 read
  simp only [Query.read, parts, one]

namespace Service

variable {service : Service} {document : Json} {query : Query}

/-- A query that has been read for some datasets is read for others if its own is among them. -/
theorem readQuery_of_readQuery {listed : List DatasetSummary}
    (read : readQuery listed document = .ok query) (other : List DatasetSummary) :
    readQuery other document =
      if (other.map DatasetSummary.id).contains query.dataset then .ok query
      else .error (.query (.unknownDataset query.dataset)) := by
  rw [readQuery, Query.read_of_read (readQuery_eq_ok_iff.1 read)]
  split <;> rfl

/-- A closed service lists nothing. -/
theorem list_of_isClosed (isClosed : service.store.shelf.isClosed = true) :
    service.list = .error (.store .closed) := by
  simp [list, Store.list, Shelf.list, Shelf.check, isClosed, bind, Except.bind, Except.mapError]

/-- A document is refused for itself, not because of the store. -/
theorem code_of_readQuery {listed : List DatasetSummary} {error : ServiceError}
    (refused : readQuery listed document = .error error) : error.code ≠ .storage :=
  ServiceError.code_of_mapError_query refused

/-- An answer is refused for the query, not because of the store. -/
theorem code_of_answer {rowLimit : Nat} {found : Option Dataset} {error : ServiceError}
    (refused : answer rowLimit query found = .error error) : error.code ≠ .storage := by
  cases found with
  | none =>
    cases refused
    exact nofun
  | some d => exact ServiceError.code_of_mapError_query refused

end Service

namespace QueryStage

open Service

variable {service : Service} {document : Json} {query : Query}

/-- A query that fails at its first reading fails as one that is answered then, and otherwise it has
been read for some datasets. -/
theorem next_called (service : Service) (document : Json) :
    (∃ error, (called document).next service = done (.error error) ∧
      service.query document = .error error ∧
      (error.code = .storage → service.store.shelf.isClosed = true)) ∨
    ∃ query listed, (called document).next service = reading query ∧
      readQuery listed document = .ok query := by
  cases isClosed : service.store.shelf.isClosed with
  | true =>
    have isListed := list_of_isClosed isClosed
    refine .inl ⟨.store .closed, ?_, ?_, fun _ => rfl⟩
    · simp only [next, isListed, Except.bind]
    · simp only [Service.query, isListed, bind, Except.bind]
  | false =>
    have isListed := list_of_isOpen isClosed
    cases read : readQuery (service.store.shelf.datasets.values.map Dataset.summary) document with
    | error error =>
      refine .inl ⟨error, ?_, ?_, fun storage => absurd storage (code_of_readQuery read)⟩
      · simp only [next, isListed, Except.bind, read]
      · simp only [Service.query, isListed, bind, Except.bind, read]
    | ok query =>
      refine .inr ⟨query, _, ?_, read⟩
      simp only [next, isListed, Except.bind, read]

/-- A query that has been read, for whatever datasets, tells at its second reading what one tells
that is answered then. -/
theorem next_reading {listed : List DatasetSummary}
    (read : readQuery listed document = .ok query) (keyed : service.store.shelf.IsKeyed) :
    ∃ result, (reading query).next service = done result ∧
      told result = told (service.query document) ∧
      ∀ error, result = .error error → error.code = .storage →
        service.store.shelf.isClosed = true := by
  cases isClosed : service.store.shelf.isClosed with
  | true =>
    have isListed := list_of_isClosed isClosed
    have looked : service.store.get? query.dataset = .error .closed := by
      simp [Store.get?, Shelf.get?, Shelf.check, isClosed, bind, Except.bind]
    refine ⟨.error (.store .closed), ?_, ?_, fun _ _ _ => rfl⟩
    · simp only [next, looked]
    · simp only [Service.query, isListed, bind, Except.bind]
  | false =>
    have looked : service.store.get? query.dataset =
        .ok (service.store.shelf.datasets.get? query.dataset) :=
      Shelf.get?_eq_ok_iff.2 ⟨isClosed, rfl⟩
    refine ⟨answer service.rowLimit query (service.store.shelf.datasets.get? query.dataset), ?_, ?_,
      fun error failed storage => absurd storage (code_of_answer failed)⟩
    · simp only [next, looked]
    · have isListed := list_of_isOpen isClosed
      have reread := readQuery_of_readQuery read
        (service.store.shelf.datasets.values.map Dataset.summary)
      have known : ((service.store.shelf.datasets.values.map Dataset.summary).map
          DatasetSummary.id).contains query.dataset =
            (service.store.shelf.datasets.get? query.dataset).isSome := by
        rw [Shelf.ids_of_list keyed (Shelf.list_eq_ok_iff.2 ⟨isClosed, rfl⟩), Bool.eq_iff_iff,
          List.contains_iff_mem]
        exact Keyed.mem_keys_iff
      rw [known] at reread
      cases found : service.store.shelf.datasets.get? query.dataset with
      | some d =>
        rw [found, Option.isSome_some, if_pos rfl] at reread
        simp only [Service.query, isListed, bind, Except.bind, reread, looked, found,
          Except.mapError]
      | none =>
        -- The query is refused here for an unknown dataset, in the words for one that has gone.
        rw [found, Option.isSome_none, if_neg Bool.false_ne_true] at reread
        simp only [Service.query, isListed, bind, Except.bind, reread]
        rfl

/-- A query that lists the datasets of one service and reads from another one tells what one of the
two tells that is asked alone, and the store is to blame only if it is closed. -/
theorem next_next (first : Service) {second : Service} (keyed : second.store.shelf.IsKeyed)
    (document : Json) :
    ∃ result, ((called document).next first).next second = done result ∧
      (told result = told (first.query document) ∨ told result = told (second.query document)) ∧
      ∀ error, result = .error error → error.code = .storage →
        first.store.shelf.isClosed = true ∨ second.store.shelf.isClosed = true := by
  rcases next_called first document with
    ⟨error, refused, alone, blame⟩ | ⟨query, listed, goesOn, read⟩
  · refine ⟨.error error, by rw [refused, next], .inl (by rw [alone]), ?_⟩
    intro same failed storage
    cases failed
    exact .inl (blame storage)
  · obtain ⟨result, isDone, same, blame⟩ := next_reading read keyed
    refine ⟨result, by rw [goesOn, isDone], .inr same, fun error failed storage => ?_⟩
    exact .inr (blame error failed storage)

end QueryStage

/-- A stage of a call leaves the shelf as it is or does to it what a write is to lead to. -/
theorem Stage.shelf_next (surroundings : Surroundings) (number : Nat) (change : Change)
    (shared : SharedService) (stage : Stage) :
    let after := (stage.next surroundings number change shared).1.service.store.shelf
    after = shared.service.store.shelf ∨
      ∃ write : StoreWrite, after = write.target shared.service.store.shelf := by
  cases stage with
  | called | waiting | checking =>
    simp only [next]
    split <;> exact .inl rfl
  | ingesting =>
    cases change with
    | add id kind upload =>
      have kept := Service.store_ingest surroundings shared.service id kind upload
      simp only [next]
      split <;> next ingested =>
        rw [ingested] at kept
        exact .inl (congrArg Store.shelf kept)
    | remove id => exact .inl rfl
  | writing write => exact StoreWrite.shelf_of_stage.imp_right fun target => ⟨write, target⟩
  | listing | releasing | clearing | done => exact .inl rfl

namespace Traffic

variable {traffic : Traffic}

/-- A stage of a call keeps every dataset under its own id and closes nothing. -/
theorem isKeyed_step (keyed : traffic.store.shelf.IsKeyed) (calls : Nat → Surroundings × Change)
    (number : Nat) :
    (traffic.step calls number).store.shelf.IsKeyed ∧
      (traffic.step calls number).store.shelf.isClosed = traffic.store.shelf.isClosed := by
  have step : (traffic.step calls number).store.shelf = traffic.store.shelf ∨
      ∃ write : StoreWrite,
        (traffic.step calls number).store.shelf = write.target traffic.store.shelf :=
    (traffic.stages number).shelf_next (calls number).1 number (calls number).2 traffic.shared
  rcases step with same | ⟨write, target⟩
  · rw [same]
    exact ⟨keyed, rfl⟩
  · rw [target]
    exact ⟨StoreWrite.isKeyed_target keyed write, StoreWrite.isClosed_target _ write⟩

/-- Whatever calls do, every dataset stays under its own id, and the store is closed only if it was.
-/
theorem isKeyed_run (keyed : traffic.store.shelf.IsKeyed) (calls : Nat → Surroundings × Change)
    (schedule : List Nat) :
    (traffic.run calls schedule).store.shelf.IsKeyed ∧
      (traffic.run calls schedule).store.shelf.isClosed = traffic.store.shelf.isClosed := by
  induction schedule generalizing traffic with
  | nil => exact ⟨keyed, rfl⟩
  | cons number rest ih =>
    obtain ⟨keyedNext, openNext⟩ := isKeyed_step keyed calls number
    obtain ⟨stillKeyed, stillOpen⟩ := ih keyedNext
    exact ⟨stillKeyed, stillOpen.trans openNext⟩

/-- A store has every dataset under its own id when it is opened. A query whose two readings then
come at any two moments of any order of the stages of any calls tells what a query tells that is
answered at one of these moments. It blames the store only if that was closed from the start, so a
dataset that goes between the readings is no failure of the store. -/
theorem told_of_query {service : Service} (keyed : service.store.shelf.IsKeyed)
    (calls : Nat → Surroundings × Change) (before between : List Nat) (document : Json) :
    let listing := (start service).run calls before
    let reading := listing.run calls between
    ∃ result, ((QueryStage.called document).next listing.shared.service).next
        reading.shared.service = .done result ∧
      (Service.told result = Service.told (listing.shared.service.query document) ∨
        Service.told result = Service.told (reading.shared.service.query document)) ∧
      ∀ error, result = .error error → error.code = .storage →
        service.store.shelf.isClosed = true := by
  intro listing reading
  obtain ⟨listingKeyed, listingOpen⟩ := @isKeyed_run (start service) keyed calls before
  obtain ⟨readingKeyed, readingOpen⟩ := isKeyed_run listingKeyed calls between
  obtain ⟨result, isDone, same, blame⟩ :=
    QueryStage.next_next listing.shared.service readingKeyed document
  refine ⟨result, isDone, same, fun error failed storage => ?_⟩
  rcases blame error failed storage with isClosed | isClosed
  · exact listingOpen.symm.trans isClosed
  · exact (readingOpen.trans listingOpen).symm.trans isClosed

/-- The names of rooms. -/
def namesOfRooms : Json :=
  .object [("WHERE", .object []),
    ("OPTIONS", .object [("COLUMNS", .array [.text "rooms_name"])])]

/-- The removal of some rooms. -/
def removalOfRooms (_ : Nat) : Surroundings × Change :=
  (⟨Device.sound, fun _ => .error ""⟩, .remove "rooms")

/-- A query that has listed the rooms and reads them when they have been removed tells what one
tells that comes after the removal. -/
theorem told_of_query_removalOfRooms :
    let service := Service.onStore (.inMemory [.ofRecords "rooms" .rooms [∅]]) 5000
    let reading := (start service).run removalOfRooms (List.replicate 6 0)
    (service.query namesOfRooms).isOk = true ∧
      ((QueryStage.called namesOfRooms).next service).next reading.shared.service =
        .done (.error (.datasetGone "rooms")) ∧
      Service.told (reading.shared.service.query namesOfRooms) =
        .error (.validation, "Dataset not found: rooms") := by
  intro service reading
  have answered : (service.query namesOfRooms).isOk = true := by decide +kernel
  have gone : ((QueryStage.called namesOfRooms).next service).next reading.shared.service =
      .done (.error (.datasetGone "rooms")) := by rfl
  obtain ⟨result, isDone, same, -⟩ := @told_of_query service (Shelf.isKeyed_ofDatasets _)
    removalOfRooms [] (List.replicate 6 0) namesOfRooms
  cases gone.symm.trans isDone
  refine ⟨answered, gone, ?_⟩
  rcases same with first | second
  · cases rows : service.query namesOfRooms with
    | ok rows =>
      have impossible := first.trans (congrArg Service.told rows)
      cases impossible
    | error error => simp [rows, Except.isOk, Except.toBool] at answered
  · exact second.symm

end Traffic
end Campus
