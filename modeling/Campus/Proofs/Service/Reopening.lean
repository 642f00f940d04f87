import Campus.Proofs.Query.Answers
import Campus.Proofs.Query.Documents
import Campus.Proofs.Service.Shape
import Campus.Proofs.Store.Mirroring
import Mathlib.Data.List.Infix
/-!
# Closing and opening a service

A session is a sequence of calls in which the service may be closed at any point and another one
opened on its folder. On a device that fails no step the answers are those of one service that stays
open: the datasets that are read back differ from the stored ones by signs of zeros, and no answer
shows these.
-/

namespace Campus

/-- What happens to a service in a session. -/
inductive SessionStep
  /-- A call, with where addresses are looked up meanwhile. -/
  | call (gazetteer : Gazetteer) (call : ServiceCall)
  /-- The service is closed and another one opened on its folder. -/
  | reopen

/-- The calls of a session, on some device. -/
def SessionStep.calls (device : Device) (steps : List SessionStep) :
    List (Surroundings × ServiceCall) :=
  steps.filterMap fun
    | .call gazetteer asked => some (⟨device, gazetteer⟩, asked)
    | .reopen => none

namespace Service

/-- Open a service on a folder. -/
def openOn (device : Device) (folder : Folder) (rowLimit : Nat) : Except StoreError Service :=
  (Store.onFolder device folder).2.map fun store => onStore store rowLimit

/-- A service can be opened on the empty folder, and it has no datasets. -/
theorem openOn_empty (device : Device) (rowLimit : Nat) :
    openOn device ∅ rowLimit = .ok (onStore ⟨.empty, some ∅⟩ rowLimit) := rfl

/-- Close a service and open another one on its folder. -/
def reopen (device : Device) (service : Service) : Except StoreError Service :=
  openOn device (service.close.store.folder.getD ∅) service.rowLimit

/-- The answers of a session, unless a service cannot be opened. -/
def runSession (device : Device) (service : Service) :
    List SessionStep → Except StoreError (List ServiceAnswer)
  | [] => .ok []
  | .call gazetteer call :: rest =>
    let (service, answer) := service.answerCall ⟨device, gazetteer⟩ call
    (runSession device service rest).map (answer :: ·)
  | .reopen :: rest =>
    match service.reopen device with
    | .ok service => runSession device service rest
    | .error error => .error error

/-- The answers of a session that starts with an empty folder. -/
def session (device : Device) (rowLimit : Nat) (steps : List SessionStep) :
    Except StoreError (List ServiceAnswer) :=
  match openOn device ∅ rowLimit with
  | .ok service => runSession device service steps
  | .error error => .error error

/-- Two services with one limit whose stores mirror each other. -/
structure Mirrors (service other : Service) : Prop where
  store : service.store.Mirrors other.store
  rowLimit : other.rowLimit = service.rowLimit

variable {service other : Service} {gazetteer : Gazetteer}

/-- Ingesting leaves the limit alone. -/
theorem rowLimit_ingest (surroundings : Surroundings) (service : Service) (id : String)
    (kind : DatasetKind) (upload : Upload) :
    (service.ingest surroundings id kind upload).1.rowLimit = service.rowLimit := by
  unfold ingest
  split <;> rfl

/-- Services that mirror each other list the same. -/
theorem list_of_mirrors (mirrors : service.Mirrors other) : other.list = service.list := by
  rw [list, list, Store.list_of_mirrors mirrors.store]

/-- Services that mirror each other go on doing so when a dataset is committed to both, and answer
alike. -/
theorem commit_of_mirrors (mirrors : service.Mirrors other) (dataset : Dataset) :
    (other.commit ⟨Device.sound, gazetteer⟩ dataset).2 =
      (service.commit ⟨Device.sound, gazetteer⟩ dataset).2 ∧
    (service.commit ⟨Device.sound, gazetteer⟩ dataset).1.Mirrors
      (other.commit ⟨Device.sound, gazetteer⟩ dataset).1 := by
  obtain ⟨outcome, after⟩ := Store.put_of_mirrors mirrors.store dataset
  unfold commit
  dsimp only
  generalize service.store.put Device.sound dataset = put at outcome after
  generalize other.store.put Device.sound dataset = otherPut at outcome after
  obtain ⟨store, result⟩ := put
  obtain ⟨otherStore, otherResult⟩ := otherPut
  obtain rfl : otherResult = result := outcome
  have kept : Mirrors { service with store } { other with store := otherStore } :=
    ⟨after, mirrors.rowLimit⟩
  cases otherResult with
  | error error => exact ⟨rfl, kept⟩
  | ok found => exact ⟨congrArg (Except.map _) (list_of_mirrors kept), kept⟩

/-- Services that mirror each other answer an addition alike. -/
theorem add_of_mirrors (mirrors : service.Mirrors other) (id : String) (kind : DatasetKind)
    (upload : Upload) :
    (other.add ⟨Device.sound, gazetteer⟩ id kind upload).2 =
      (service.add ⟨Device.sound, gazetteer⟩ id kind upload).2 ∧
    (service.add ⟨Device.sound, gazetteer⟩ id kind upload).1.Mirrors
      (other.add ⟨Device.sound, gazetteer⟩ id kind upload).1 := by
  have new : other.checkNew id = service.checkNew id := by
    rw [checkNew, checkNew, Store.contains_of_mirrors mirrors.store]
  unfold add
  rw [new]
  cases checkId id with
  | error error => exact ⟨rfl, mirrors⟩
  | ok =>
    cases service.checkNew id with
    | error error => exact ⟨rfl, mirrors⟩
    | ok =>
      have outcome := ingest_eq ⟨Device.sound, gazetteer⟩ service other id kind upload
      have store := store_ingest ⟨Device.sound, gazetteer⟩ service id kind upload
      have otherStore := store_ingest ⟨Device.sound, gazetteer⟩ other id kind upload
      have limit := rowLimit_ingest ⟨Device.sound, gazetteer⟩ service id kind upload
      have otherLimit := rowLimit_ingest ⟨Device.sound, gazetteer⟩ other id kind upload
      generalize service.ingest ⟨Device.sound, gazetteer⟩ id kind upload = ingested at *
      generalize other.ingest ⟨Device.sound, gazetteer⟩ id kind upload = otherIngested at *
      obtain ⟨after, result⟩ := ingested
      obtain ⟨otherAfter, otherResult⟩ := otherIngested
      obtain rfl : otherResult = result := outcome
      have kept : after.Mirrors otherAfter := by
        constructor
        · rw [store, otherStore]
          exact mirrors.store
        · rw [limit, otherLimit]
          exact mirrors.rowLimit
      cases otherResult with
      | error error => exact ⟨rfl, kept⟩
      | ok dataset => exact commit_of_mirrors kept dataset

/-- Services that mirror each other answer a removal alike. -/
theorem remove_of_mirrors (mirrors : service.Mirrors other) (id : String) :
    (other.remove ⟨Device.sound, gazetteer⟩ id).2 =
      (service.remove ⟨Device.sound, gazetteer⟩ id).2 ∧
    (service.remove ⟨Device.sound, gazetteer⟩ id).1.Mirrors
      (other.remove ⟨Device.sound, gazetteer⟩ id).1 := by
  unfold remove
  cases checkId id with
  | error error => exact ⟨rfl, mirrors⟩
  | ok =>
    obtain ⟨outcome, after⟩ := Store.delete_of_mirrors mirrors.store id
    dsimp only
    generalize service.store.delete Device.sound id = deleted at outcome after
    generalize other.store.delete Device.sound id = otherDeleted at outcome after
    obtain ⟨store, result⟩ := deleted
    obtain ⟨otherStore, otherResult⟩ := otherDeleted
    obtain rfl : otherResult = result := outcome
    have kept : Mirrors { service with store } { other with store := otherStore } :=
      ⟨after, mirrors.rowLimit⟩
    cases otherResult with
    | error error => exact ⟨rfl, kept⟩
    | ok found => cases found <;> exact ⟨rfl, kept⟩

/-- A query is read for the datasets that are listed. -/
theorem readQuery_eq_ok_iff {listed : List DatasetSummary} {document : Json} {query : Query} :
    readQuery listed document = .ok query ↔
      Query.read (listed.map DatasetSummary.id).contains document = .ok query := by
  unfold readQuery
  cases Query.read (listed.map DatasetSummary.id).contains document <;> simp [Except.mapError]

/-- The rows of datasets that differ by signs of zeros are written alike. -/
theorem answer_of_normalize_eq {inCatalog : String → Bool} {document : Json} {query : Query}
    {found other : Dataset} (read : Query.read inCatalog document = .ok query)
    (wellFormed : found.IsWellFormed) (same : other.normalize = found.normalize) (rowLimit : Nat) :
    (answer rowLimit query (some other)).map (List.map Record.toJson) =
      (answer rowLimit query (some found)).map (List.map Record.toJson) := by
  have named : ∀ t, query.transformations = some t → ∀ rule ∈ t.apply, '_' ∉ rule.name.toList :=
    fun t grouped rule stands => (Grammar.isSound_of_mem_apply read grouped stands).noUnderscore
  have classes : ∀ record ∈ found.data,
      record.HasClasses (Record.classOfKey found.id found.kind) := fun record member =>
    Record.hasClasses_of_hasShape (wellFormed.records record member)
  have rows := Query.execute_toJson named classes (congrArg Dataset.data same) rowLimit
  have written (outcome : Except QueryError (List Record)) :
      (outcome.mapError ServiceError.query).map (List.map Record.toJson) =
        (outcome.map (List.map Record.toJson)).mapError ServiceError.query := by
    cases outcome <;> rfl
  rw [answer, answer, written, written, rows]

/-- Services that mirror each other answer a query alike. -/
theorem query_of_mirrors (mirrors : service.Mirrors other)
    (wellFormed : service.store.shelf.IsWellFormed) (document : Json) :
    (other.query document).map (List.map Record.toJson) =
      (service.query document).map (List.map Record.toJson) := by
  simp only [query, list_of_mirrors mirrors, mirrors.rowLimit, bind, Except.bind]
  cases service.list with
  | error error => rfl
  | ok listed =>
    cases read : readQuery listed document with
    | error error => simp only [read]
    | ok query =>
      obtain ⟨found, otherFound, looked, otherLooked, same⟩ :=
        Store.get?_of_mirrors mirrors.store query.dataset
      simp only [read, looked, otherLooked, Except.mapError]
      cases found with
      | none =>
        rw [Option.map_none, Option.map_eq_none_iff] at same
        rw [same]
      | some dataset =>
        rw [Option.map_some, Option.map_eq_some_iff] at same
        obtain ⟨other, rfl, equal⟩ := same
        have held := (Shelf.get?_eq_ok_iff.1 looked).2
        have isRead := readQuery_eq_ok_iff.1 read
        exact answer_of_normalize_eq isRead (wellFormed.stored _ dataset held).2 equal _

/-- Services that mirror each other answer a call alike, and go on mirroring each other. -/
theorem answerCall_of_mirrors (mirrors : service.Mirrors other)
    (wellFormed : service.store.shelf.IsWellFormed) (gazetteer : Gazetteer) (call : ServiceCall) :
    (other.answerCall ⟨Device.sound, gazetteer⟩ call).2 =
      (service.answerCall ⟨Device.sound, gazetteer⟩ call).2 ∧
    (service.answerCall ⟨Device.sound, gazetteer⟩ call).1.Mirrors
      (other.answerCall ⟨Device.sound, gazetteer⟩ call).1 := by
  cases call with
  | add id kind upload =>
    obtain ⟨outcome, after⟩ := add_of_mirrors mirrors id kind upload
    exact ⟨congrArg (Except.map _) outcome, after⟩
  | remove id =>
    obtain ⟨outcome, after⟩ := remove_of_mirrors mirrors id
    exact ⟨congrArg (Except.map _) outcome, after⟩
  | list => exact ⟨congrArg (Except.map _) (list_of_mirrors mirrors), mirrors⟩
  | query document =>
    have rows := query_of_mirrors mirrors wellFormed document
    have written (outcome : Except ServiceError (List Record)) :
        outcome.map (fun rows => Json.array (rows.map Record.toJson)) =
          (outcome.map (List.map Record.toJson)).map Json.array := by
      cases outcome <;> rfl
    refine ⟨?_, mirrors⟩
    simp only [answerCall, written, rows]

/-- What is opened after a service is closed mirrors whatever that one mirrors. -/
theorem reopen_of_mirrors (mirrors : service.Mirrors other)
    (wellFormed : service.store.shelf.IsWellFormed)
    (storable : ∀ id d, service.store.get? id = .ok (some d) → d.IsStorable ∧ d.IsReadNearest)
    (device : Device) :
    ∃ reopened, other.reopen device = .ok reopened ∧ service.Mirrors reopened := by
  have stored : ∀ id d, service.store.shelf.datasets.get? id = some d →
      d.id = id ∧ id ≠ "" ∧ d.IsStorable ∧ d.IsReadNearest := by
    intro id d found
    obtain ⟨own, named⟩ := Shelf.id_of_isWellFormed wellFormed found
    exact ⟨own, named, storable id d (Shelf.get?_eq_ok_iff.2 ⟨wellFormed.isOpen, found⟩)⟩
  obtain ⟨folder, store, hasFolder, opened, after⟩ :=
    Store.onFolder_of_mirrors mirrors.store stored device
  refine ⟨onStore store other.rowLimit, ?_, after, mirrors.rowLimit⟩
  rw [reopen, close, Store.close, hasFolder, Option.getD_some, openOn, opened]
  rfl

/-- A session with a service that mirrors another one has the answers of the run of that one, as
long as what the run holds can be written and is read with correct rounding. -/
theorem runSession_of_mirrors (mirrors : service.Mirrors other)
    (wellFormed : service.store.shelf.IsWellFormed) (steps : List SessionStep)
    (storable : ∀ calls, calls <+: SessionStep.calls Device.sound steps →
      ∀ id d, (service.run calls).1.store.get? id = .ok (some d) →
        d.IsStorable ∧ d.IsReadNearest) :
    other.runSession Device.sound steps =
      .ok (service.run (SessionStep.calls Device.sound steps)).2 := by
  induction steps generalizing service other with
  | nil => rfl
  | cons step rest ih =>
    cases step with
    | call gazetteer asked =>
      obtain ⟨same, after⟩ := answerCall_of_mirrors mirrors wellFormed gazetteer asked
      have answers := ih after (isWellFormed_answerCall wellFormed asked) fun calls front =>
        storable ((⟨Device.sound, gazetteer⟩, asked) :: calls)
          (List.cons_prefix_cons.2 ⟨rfl, front⟩)
      have first : other.runSession Device.sound (.call gazetteer asked :: rest) =
          ((other.answerCall ⟨Device.sound, gazetteer⟩ asked).1.runSession Device.sound rest).map
            ((other.answerCall ⟨Device.sound, gazetteer⟩ asked).2 :: ·) := rfl
      rw [first, answers, same]
      rfl
    | reopen =>
      obtain ⟨reopened, opened, after⟩ := reopen_of_mirrors mirrors wellFormed
        (storable [] (List.nil_prefix)) Device.sound
      rw [runSession, opened]
      exact ih after wellFormed storable

/-- On a device that fails no step, a session that starts with an empty folder is answered as if
the service were never closed, as long as every number that gets stored is finite and is read from
its printed form with correct rounding. That the size of a dataset is a machine word is no
restriction for data that fits in memory. -/
theorem session_eq_run (rowLimit : Nat) (steps : List SessionStep)
    (storable : ∀ calls, calls <+: SessionStep.calls Device.sound steps → ∀ id d,
      ((onStore ⟨.empty, some ∅⟩ rowLimit).run calls).1.store.get? id = .ok (some d) →
        d.IsStorable ∧ d.IsReadNearest) :
    session Device.sound rowLimit steps =
      .ok ((onStore ⟨.empty, some ∅⟩ rowLimit).run (SessionStep.calls Device.sound steps)).2 := by
  have mirrors : Mirrors (onStore ⟨.empty, some ∅⟩ rowLimit)
      (onStore ⟨.empty, some ∅⟩ rowLimit) := ⟨Store.mirrors_empty, rfl⟩
  rw [session, openOn_empty]
  exact runSession_of_mirrors mirrors Shelf.isWellFormed_empty steps storable

/-- An upload with one section, whose attributes are given by position. Its average is a negative
zero, and nine quadrillion students passed. -/
def oneSection : Upload :=
  .bytes (Zip.render [⟨"courses/", []⟩, ⟨"courses/a", Bytes.ofText
    "\x7b\"result\":[[1,\"310\",\"\",\"\",\"cpsc\",2014,-0.0,9e15,0,0]]\x7d"⟩])

/-- A session in which the upload is added, and is listed and queried by other services. -/
def sessionOfOneSection : List SessionStep :=
  let noPlaces : Gazetteer := fun _ => .error ""
  [.call noPlaces (.add "courses" .sections oneSection), .reopen, .call noPlaces .list, .reopen,
    .call noPlaces (.query (.object [
      ("WHERE", .object []),
      ("OPTIONS", .object [("COLUMNS", .array [.text "courses_avg", .text "courses_pass"])])]))]

/-- The session finds the dataset of its upload, which is storable and read with correct rounding,
and is answered as without closing. -/
theorem session_sessionOfOneSection :
    let service := onStore ⟨.empty, some ∅⟩ 5000
    let calls := SessionStep.calls Device.sound sessionOfOneSection
    (service.run calls).1.store.contains "courses" = .ok true ∧
      session Device.sound 5000 sessionOfOneSection = .ok (service.run calls).2 := by
  intro service calls
  have storable : ∀ front ∈ calls.inits,
      ∀ d ∈ (service.run front).1.store.shelf.datasets.values,
        d.IsStorable ∧ d.IsReadNearest := by
    decide +kernel
  refine ⟨by decide +kernel, session_eq_run 5000 sessionOfOneSection ?_⟩
  intro front starts id d found
  exact storable front ((List.mem_inits front calls).2 starts) d
    (Keyed.mem_values_iff.2 ⟨id, (Shelf.get?_eq_ok_iff.1 found).2⟩)

end Service
end Campus
