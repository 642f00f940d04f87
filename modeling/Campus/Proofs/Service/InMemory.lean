import Campus.Proofs.Service.Reopening
import Campus.Proofs.Service.Standing
import Campus.Proofs.Store.Filing
import Campus.Proofs.Store.Keys
/-!
# Changes to a service in memory

A service whose store is in memory either does what it is asked for or says why not, and then
nothing has changed. It adds a dataset exactly if it is open, the id can be used and is new, and the
upload is an archive that has records; it removes one exactly if it is open and has it.
-/

namespace Campus

/-- An archive of some kind has these records for a dataset, possibly none. -/
def Archive.Yields (archive : Archive) (gazetteer : Gazetteer) (dataset : String)
    (records : List Record) : DatasetKind → Prop
  | .sections => archive.courseRecords dataset = .ok records
  | .rooms => (archive.roomRecords gazetteer dataset).records = .ok records

/-- An upload is an archive with records, at least one. -/
def Upload.Gives (upload : Upload) (gazetteer : Gazetteer) (id : String) (kind : DatasetKind)
    (records : List Record) : Prop :=
  ∃ archive, upload.archive = .ok archive ∧ archive.Yields gazetteer id records kind ∧ records ≠ []

namespace Archive

variable {archive : Archive} {gazetteer : Gazetteer} {id : String} {kind : DatasetKind}
  {records : List Record}

/-- An archive is ingested exactly if it has records. -/
theorem ingest_eq_ok_iff : (archive.ingest gazetteer kind id).records = .ok records ↔
    archive.Yields gazetteer id records kind ∧ records ≠ [] := by
  have required (found : Except IngestError (List Record)) :
      found.bind requireRecords = .ok records ↔ found = .ok records ∧ records ≠ [] := by
    cases found with
    | error error => simp [Except.bind]
    | ok found =>
      simp only [Except.bind, requireRecords, List.isEmpty_iff, Except.ok.injEq]
      split
      · next isEmpty => simp [isEmpty, eq_comm]
      · next nonEmpty =>
        simp only [Except.ok.injEq, iff_self_and]
        rintro rfl
        exact nonEmpty
  cases kind with
  | sections => exact required _
  | rooms => exact required _

end Archive

namespace Store

variable {store : Store}

/-- In memory a dataset is put on the shelf at once. -/
theorem put_inMemory (noFolder : store.folder = none) (device : Device) (d : Dataset) :
    store.put device d =
      if store.shelf.isClosed then (store, .error .closed)
      else ({ store with shelf := { store.shelf with
        datasets := Shelf.add store.shelf.datasets d } }, .ok true) := by
  have first : StoreWrite.stage device store (.put d) = (store, .ok (.inl (.shelve d))) := by
    rw [StoreWrite.stage, noFolder]
  rw [put, StoreWrite.perform, StoreWrite.stagesLeft, StoreWrite.advance_of_inl first]
  obtain ⟨⟨datasets, isClosed⟩, folder⟩ := store
  cases isClosed <;> rfl

/-- In memory a dataset is taken off the shelf at once. -/
theorem delete_inMemory (noFolder : store.folder = none) (device : Device) (id : String) :
    store.delete device id =
      if store.shelf.isClosed then (store, .error .closed)
      else ({ store with shelf := { store.shelf with
        datasets := store.shelf.datasets.erase id } }, .ok (store.shelf.datasets.contains id)) := by
  have first : StoreWrite.stage device store (.delete id) = (store, .ok (.inl (.unshelve id))) := by
    rw [StoreWrite.stage, noFolder]
  rw [delete, StoreWrite.perform, StoreWrite.stagesLeft, StoreWrite.advance_of_inl first]
  obtain ⟨⟨datasets, isClosed⟩, folder⟩ := store
  cases isClosed <;> rfl

end Store

namespace Service

variable {surroundings : Surroundings} {service : Service} {id : String} {kind : DatasetKind}
  {upload : Upload}

/-- A service whose store is in memory, open or closed, and has every dataset under its own id. -/
structure IsInMemory (service : Service) : Prop where
  noFolder : service.store.folder = none
  keyed : service.store.shelf.IsKeyed

/-- A service in memory stays one if other datasets are put on its shelf, each under its own id. -/
theorem IsInMemory.of_datasets {after : Service} {datasets : Keyed Dataset}
    (inMemory : service.IsInMemory)
    (store : after.store =
      { service.store with shelf := { service.store.shelf with datasets := datasets } })
    (keyed : ({ service.store.shelf with datasets := datasets } : Shelf).IsKeyed) :
    after.IsInMemory := by
  constructor
  · rw [store]
    exact inMemory.noFolder
  · rw [store]
    exact keyed

/-- An upload is ingested exactly if it has records, and they are those of the dataset. -/
theorem ingest_eq_ok_iff {d : Dataset} :
    (service.ingest surroundings id kind upload).2 = .ok d ↔
      ∃ records, upload.Gives surroundings.gazetteer id kind records ∧
        d = .ofRecords id kind records := by
  unfold ingest Upload.Gives
  cases upload.archive with
  | error error => simp
  | ok archive =>
    simp only [Except.ok.injEq, exists_eq_left', ← Archive.ingest_eq_ok_iff]
    cases (archive.ingest surroundings.gazetteer kind id).records with
    | error error => simp [Except.mapError, Except.map]
    | ok records => simp [Except.mapError, Except.map, eq_comm]

/-- An upload that is not ingested is at fault. -/
theorem code_of_ingest {error : ServiceError}
    (failed : (service.ingest surroundings id kind upload).2 = .error error) :
    error.code = .validation := by
  unfold ingest at failed
  split at failed
  · cases failed
    rfl
  next archive _ =>
  dsimp only at failed
  cases records : (archive.ingest surroundings.gazetteer kind id).records with
  | error reason =>
    rw [records] at failed
    cases failed
    rfl
  | ok found =>
    rw [records] at failed
    cases failed

/-- What an addition needs: an open service that has no dataset of the id, an id that can be used,
and an upload with records. -/
structure Accepts (service : Service) (surroundings : Surroundings) (id : String)
    (kind : DatasetKind) (upload : Upload) (records : List Record) : Prop where
  isOpen : service.store.shelf.isClosed = false
  valid : isValidDatasetId id = true
  new : service.store.shelf.datasets.get? id = none
  gives : upload.Gives surroundings.gazetteer id kind records

/-- A valid id can be used. -/
theorem checkId_of_isValid (valid : isValidDatasetId id = true) : checkId id = .ok () := by
  rw [checkId, valid, if_pos rfl]

/-- No other id can be used. -/
theorem checkId_of_not_isValid (invalid : isValidDatasetId id = false) :
    checkId id = .error (.invalidId id) := by
  rw [checkId, invalid, if_neg Bool.false_ne_true]

/-- A closed service cannot look whether an id is new. -/
theorem checkNew_of_isClosed (isClosed : service.store.shelf.isClosed = true) (id : String) :
    service.checkNew id = .error (.store .closed) := by
  rw [checkNew, Store.contains, Shelf.contains, Shelf.check, isClosed]
  rfl

/-- An addition that has what it needs puts the dataset on the shelf and lists the keys. -/
theorem add_of_accepts (inMemory : service.IsInMemory) {records : List Record}
    (accepts : service.Accepts surroundings id kind upload records) :
    let added := service.add surroundings id kind upload
    added.1.store = { service.store with shelf := { service.store.shelf with
        datasets := service.store.shelf.datasets.insert id (.ofRecords id kind records) } } ∧
      added.2 = .ok added.1.store.shelf.datasets.keys := by
  have valid := checkId_of_isValid accepts.valid
  have new : service.checkNew id = .ok () := by
    rw [checkNew_eq_ok_iff accepts.isOpen, Keyed.contains, accepts.new]
    rfl
  have given : (service.ingest surroundings id kind upload).2 = .ok (.ofRecords id kind records) :=
    ingest_eq_ok_iff.2 ⟨records, accepts.gives, rfl⟩
  have same := store_ingest surroundings service id kind upload
  cases ingested : service.ingest surroundings id kind upload with
  | mk ingesting outcome =>
    rw [ingested] at given
    replace same : ingesting.store = service.store := by rwa [ingested] at same
    obtain rfl : outcome = .ok (.ofRecords id kind records) := given
    have put := Store.put_inMemory inMemory.noFolder surroundings.device
      (.ofRecords id kind records)
    rw [accepts.isOpen, if_neg Bool.false_ne_true] at put
    simp only [add, valid, new, ingested, commit, same, put]
    refine ⟨rfl, ?_⟩
    have keyed := Shelf.isKeyed_add inMemory.keyed (.ofRecords id kind records)
    rw [← Shelf.map_id_values keyed]
    exact ids_of_isOpen accepts.isOpen

/-- An addition that lacks something is refused, and nothing has changed. -/
theorem add_of_not_accepts
    (refused : ∀ records, ¬service.Accepts surroundings id kind upload records) :
    let added := service.add surroundings id kind upload
    added.1.store = service.store ∧ ∃ error, added.2 = .error error ∧ error.code ≠ .notFound ∧
      (error.code = .storage → service.store.shelf.isClosed = true) := by
  intro added
  cases valid : isValidDatasetId id with
  | false =>
    simp only [added, add, checkId_of_not_isValid valid]
    exact ⟨trivial, _, rfl, nofun, nofun⟩
  | true =>
    have usable := checkId_of_isValid valid
    cases isClosed : service.store.shelf.isClosed with
    | true =>
      simp only [added, add, usable, checkNew_of_isClosed isClosed]
      exact ⟨trivial, _, rfl, nofun, fun _ => trivial⟩
    | false =>
      cases new : service.store.shelf.datasets.contains id with
      | true =>
        have duplicate := (checkNew_of_isOpen isClosed id).trans (if_pos new)
        simp only [added, add, usable, duplicate]
        exact ⟨trivial, _, rfl, nofun, nofun⟩
      | false =>
        have absent := (checkNew_eq_ok_iff isClosed).2 new
        have same := store_ingest surroundings service id kind upload
        cases ingested : service.ingest surroundings id kind upload with
        | mk ingesting outcome =>
          rw [ingested] at same
          cases outcome with
          | error error =>
            have code : error.code = .validation := code_of_ingest (congrArg Prod.snd ingested)
            simp only [added, add, usable, absent, ingested]
            refine ⟨same, error, rfl, ?_, ?_⟩ <;> simp [code]
          | ok d =>
            obtain ⟨records, gives, -⟩ := ingest_eq_ok_iff.1 (congrArg Prod.snd ingested)
            have unheld : service.store.shelf.datasets.get? id = none := by
              simpa [Keyed.contains] using new
            exact absurd ⟨isClosed, valid, unheld, gives⟩ (refused records)

/-- A removal takes the dataset off the shelf if the service is open and has it, and else it is
refused and nothing has changed. -/
theorem remove_inMemory (inMemory : service.IsInMemory) (surroundings : Surroundings)
    (id : String) :
    let removed := service.remove surroundings id
    let isOpen := service.store.shelf.isClosed = false
    let isValid := isValidDatasetId id = true
    let held := service.store.shelf.datasets.get? id
    (isOpen ∧ isValid ∧ held.isSome = true ∧ removed.2 = .ok id ∧
        removed.1.store = { service.store with shelf := { service.store.shelf with
          datasets := service.store.shelf.datasets.erase id } }) ∨
      (removed.1.store = service.store ∧ ∃ error, removed.2 = .error error ∧
        ¬(isOpen ∧ isValid ∧ held.isSome = true) ∧
        (error.code = .notFound ↔ isOpen ∧ isValid ∧ held = none) ∧
        (error.code = .storage → service.store.shelf.isClosed = true)) := by
  intro removed isOpen isValid held
  have deleted := Store.delete_inMemory inMemory.noFolder surroundings.device id
  cases valid : isValidDatasetId id with
  | false =>
    simp only [removed, remove, checkId_of_not_isValid valid]
    exact .inr ⟨trivial, _, rfl, by simp [isValid, valid],
      by simp [isValid, valid, ServiceError.code], by simp [ServiceError.code]⟩
  | true =>
    have usable := checkId_of_isValid valid
    cases isClosed : service.store.shelf.isClosed with
    | true =>
      rw [isClosed, if_pos rfl] at deleted
      simp only [removed, remove, usable, deleted]
      exact .inr ⟨trivial, _, rfl, by simp [isOpen, isClosed],
        by simp [isOpen, isClosed, ServiceError.code], fun _ => trivial⟩
    | false =>
      rw [isClosed, if_neg Bool.false_ne_true] at deleted
      cases present : service.store.shelf.datasets.contains id with
      | true =>
        rw [present] at deleted
        simp only [removed, remove, usable, deleted]
        exact .inl ⟨isClosed, valid, present, trivial, trivial⟩
      | false =>
        have absent : held = none := by simpa [Keyed.contains] using present
        rw [present, Keyed.erase_of_contains_eq_false present] at deleted
        simp only [removed, remove, usable, deleted]
        refine .inr ⟨trivial, _, rfl, by simp [absent], ?_, by simp [ServiceError.code]⟩
        exact iff_of_true rfl ⟨isClosed, valid, absent⟩

/-- What an addition needs, taken apart. -/
theorem exists_accepts_iff : (∃ records, service.Accepts surroundings id kind upload records) ↔
    service.store.shelf.isClosed = false ∧ isValidDatasetId id = true ∧
      service.store.shelf.datasets.get? id = none ∧
        ∃ records, upload.Gives surroundings.gazetteer id kind records := by
  constructor
  · rintro ⟨records, isOpen, valid, new, gives⟩
    exact ⟨isOpen, valid, new, records, gives⟩
  · rintro ⟨isOpen, valid, new, records, gives⟩
    exact ⟨records, isOpen, valid, new, gives⟩

section Calls

variable {α : Type} {outcome : Except ServiceError α} {after : Service} {mayAnswer : Prop}
  {answers : α → Prop} {reasons : ServiceError → Prop}

/-- A call that is answered, and keeps the store in memory, is not refused. -/
theorem call_of_answer {answer : α} (answered : outcome = .ok answer) (may : mayAnswer)
    (holds : answers answer) (kept : after.IsInMemory) :
    ((∃ answer, outcome = .ok answer) ↔ mayAnswer) ∧
      (∀ answer, outcome = .ok answer → answers answer) ∧
      (∀ error, outcome = .error error → after.store = service.store ∧ reasons error) ∧
      after.IsInMemory := by
  subst answered
  refine ⟨iff_of_true ⟨answer, rfl⟩ may, ?_, nofun, kept⟩
  rintro _ ⟨⟩
  exact holds

/-- A call that is refused, and leaves the store as it was, is not answered. -/
theorem call_of_refusal {error : ServiceError} (refused : outcome = .error error)
    (lacks : ¬mayAnswer) (because : reasons error) (same : after.store = service.store)
    (inMemory : service.IsInMemory) :
    ((∃ answer, outcome = .ok answer) ↔ mayAnswer) ∧
      (∀ answer, outcome = .ok answer → answers answer) ∧
      (∀ error, outcome = .error error → after.store = service.store ∧ reasons error) ∧
      after.IsInMemory := by
  subst refused
  refine ⟨iff_of_false (by simp) lacks, nofun, ?_, same ▸ inMemory.noFolder, same ▸ inMemory.keyed⟩
  rintro _ ⟨⟩
  exact ⟨same, because⟩

end Calls

/-- On a service in memory, open or closed, an addition succeeds exactly if the service is open, the
id can be used and is new, and the upload is an archive with records. Then these records are the
dataset of the id, all else is as it was, and the answer is the ids of all datasets in ascending
order. A removal succeeds exactly if the service is open, the id can be used and has a dataset. Then
this dataset is gone, all else is as it was, and the answer is the id. Whatever else is asked for is
refused and changes nothing; only the removal of a usable id that has no dataset is told as one that
finds nothing, and only a closed service fails as a store. -/
theorem changes_inMemory (inMemory : service.IsInMemory) (surroundings : Surroundings) :
    let isOpen := service.store.shelf.isClosed = false
    let held := service.store.shelf.datasets.get?
    (∀ id kind upload,
      let added := service.add surroundings id kind upload
      let after := added.1.store.shelf.datasets.get?
      ((∃ ids, added.2 = .ok ids) ↔ isOpen ∧ isValidDatasetId id = true ∧ held id = none ∧
        ∃ records, upload.Gives surroundings.gazetteer id kind records) ∧
      (∀ ids, added.2 = .ok ids →
        (∃ records, upload.Gives surroundings.gazetteer id kind records ∧ ∀ other, after other =
          if other = id then some (.ofRecords id kind records) else held other) ∧
        ids.Pairwise (· < ·) ∧ ∀ other, other ∈ ids ↔ (after other).isSome = true) ∧
      (∀ error, added.2 = .error error → added.1.store = service.store ∧
        error.code ≠ .notFound ∧ (error.code = .storage → ¬isOpen)) ∧
      added.1.IsInMemory) ∧
    ∀ id,
      let removed := service.remove surroundings id
      let after := removed.1.store.shelf.datasets.get?
      ((∃ answer, removed.2 = .ok answer) ↔
        isOpen ∧ isValidDatasetId id = true ∧ (held id).isSome = true) ∧
      (∀ answer, removed.2 = .ok answer → answer = id ∧ ∀ other, after other =
        if other = id then none else held other) ∧
      (∀ error, removed.2 = .error error → removed.1.store = service.store ∧
        (error.code = .notFound ↔ isOpen ∧ isValidDatasetId id = true ∧ held id = none) ∧
        (error.code = .storage → ¬isOpen)) ∧
      removed.1.IsInMemory := by
  intro isOpen held
  constructor
  · intro id kind upload added after
    by_cases accepted : ∃ records, service.Accepts surroundings id kind upload records
    · obtain ⟨records, accepts⟩ := accepted
      obtain ⟨store, answer⟩ := add_of_accepts inMemory accepts
      have kept : added.1.IsInMemory :=
        inMemory.of_datasets store (Shelf.isKeyed_add inMemory.keyed (.ofRecords id kind records))
      have inserted (other : String) : after other =
          if other = id then some (.ofRecords id kind records) else held other := by
        simp only [after]
        rw [store]
        exact Keyed.get?_insert ..
      exact call_of_answer answer (exists_accepts_iff.1 ⟨records, accepts⟩)
        ⟨⟨records, accepts.gives, inserted⟩, Keyed.keys_ascending _, fun _ => Keyed.mem_keys_iff⟩
        kept
    · obtain ⟨same, error, refused, code, storage⟩ :=
        add_of_not_accepts fun records accepts => accepted ⟨records, accepts⟩
      exact call_of_refusal refused (mt exists_accepts_iff.2 accepted)
        ⟨code, fun isStorage => by simp [isOpen, storage isStorage]⟩ same inMemory
  · intro id removed after
    rcases remove_inMemory inMemory surroundings id with
      ⟨isOpen', valid, present, answer, store⟩ | ⟨same, error, refused, lacks, absent, storage⟩
    · have kept : removed.1.IsInMemory :=
        inMemory.of_datasets store (Shelf.isKeyed_erase inMemory.keyed id)
      have erased (other : String) : after other = if other = id then none else held other := by
        simp only [after]
        rw [store]
        exact Keyed.get?_erase ..
      exact call_of_answer answer ⟨isOpen', valid, present⟩ ⟨rfl, erased⟩ kept
    · exact call_of_refusal refused lacks
        ⟨absent, fun isStorage => by simp [isOpen, storage isStorage]⟩ same inMemory

/-- A service on datasets in memory. -/
theorem isInMemory_onStore (datasets : List Dataset) (rowLimit : Nat) :
    (onStore (.inMemory datasets) rowLimit).IsInMemory :=
  ⟨rfl, Shelf.isKeyed_ofDatasets datasets⟩

/-- A service in memory with one dataset adds another one and removes it again. -/
theorem changes_inMemory_oneSection :
    let surroundings : Surroundings := ⟨Device.sound, fun _ => .error ""⟩
    let service := onStore (.inMemory [.ofRecords "rooms" .rooms []]) 5000
    let added := service.add surroundings "courses" .sections oneSection
    let removed := added.1.remove surroundings "courses"
    added.2 = .ok ["courses", "rooms"] ∧ removed.2 = .ok "courses" ∧
      removed.1.store.shelf.datasets.get? "courses" = none := by
  intro surroundings service added removed
  have answer : added.2 = .ok ["courses", "rooms"] := by decide +kernel
  have inMemory : service.IsInMemory := isInMemory_onStore _ _
  obtain ⟨additions, -⟩ := changes_inMemory inMemory surroundings
  obtain ⟨-, listed, -, afterInMemory⟩ := additions "courses" .sections oneSection
  obtain ⟨-, -, lists⟩ := listed _ answer
  have held := (lists "courses").1 (by decide)
  obtain ⟨-, removals⟩ := changes_inMemory afterInMemory surroundings
  obtain ⟨succeeds, gone, -⟩ := removals "courses"
  obtain ⟨other, done⟩ := succeeds.2 ⟨by decide +kernel, by decide, held⟩
  obtain ⟨rfl, nothing⟩ := gone other done
  refine ⟨answer, done, ?_⟩
  have after := nothing "courses"
  rw [if_pos rfl] at after
  simp only [removed, added]
  exact after

end Service
end Campus
