import Campus.Proofs.Ingest.Shape
import Campus.Proofs.Service.Calls
import Campus.Proofs.Store.Shelving
/-!
# Well-formed services

A shelf is well formed when it is open and holds well-formed datasets under their own ids. The empty
shelf is, and every call leaves it so, whatever it is called with and whatever the device and the
gazetteer do; so every service that a run leads to holds well-formed datasets only.
-/

namespace Campus

/-- An open shelf of well-formed datasets, each under its own id. -/
structure Shelf.IsWellFormed (shelf : Shelf) : Prop where
  isOpen : shelf.isClosed = false
  stored : ∀ id dataset, shelf.datasets.get? id = some dataset →
    dataset.id = id ∧ dataset.IsWellFormed

namespace Shelf

variable {shelf : Shelf}

/-- The empty shelf is well formed. -/
theorem isWellFormed_empty : empty.IsWellFormed := by
  refine ⟨rfl, fun id dataset found => ?_⟩
  cases found

/-- A well-formed dataset may be put on the shelf. -/
theorem isWellFormed_add {dataset : Dataset} (wellFormed : shelf.IsWellFormed)
    (added : dataset.IsWellFormed) :
    IsWellFormed { shelf with datasets := add shelf.datasets dataset } := by
  refine ⟨wellFormed.isOpen, fun id stored found => ?_⟩
  rw [add, Keyed.get?_insert] at found
  split at found
  · next same =>
    cases found
    exact ⟨same.symm, added⟩
  · exact wellFormed.stored id stored found

/-- Any dataset may be taken off the shelf. -/
theorem isWellFormed_erase (wellFormed : shelf.IsWellFormed) (id : String) :
    IsWellFormed { shelf with datasets := shelf.datasets.erase id } := by
  refine ⟨wellFormed.isOpen, fun other stored found => ?_⟩
  rw [Keyed.get?_erase] at found
  split at found
  · cases found
  · exact wellFormed.stored other stored found

/-- What a shelf holds has an id of its own that is not empty. -/
theorem id_of_isWellFormed (wellFormed : shelf.IsWellFormed) {id : String} {dataset : Dataset}
    (found : shelf.datasets.get? id = some dataset) : dataset.id = id ∧ id ≠ "" := by
  obtain ⟨own, sound⟩ := wellFormed.stored id dataset found
  refine ⟨own, ?_⟩
  rintro rfl
  obtain ⟨c, member, -⟩ := sound.notBlank
  rw [own] at member
  cases member

/-- The listing of a shelf ascends strictly by id. -/
theorem list_ascending (wellFormed : shelf.IsWellFormed) :
    ∃ listed, shelf.list = .ok listed ∧ listed.Pairwise fun left right => left.id < right.id := by
  refine ⟨_, list_eq_ok_iff.2 ⟨wellFormed.isOpen, rfl⟩, ?_⟩
  rw [List.pairwise_map, Keyed.values, List.pairwise_map]
  refine shelf.datasets.ascending.imp_of_mem fun {left right} leftHeld rightHeld less => ?_
  have leftId := (wellFormed.stored _ _ (Keyed.mem_entries_iff.1 leftHeld)).1
  have rightId := (wellFormed.stored _ _ (Keyed.mem_entries_iff.1 rightHeld)).1
  simpa only [Dataset.summary, leftId, rightId] using less

end Shelf

namespace Service

variable {surroundings : Surroundings} {service : Service}

/-- An open service lists its datasets. -/
theorem list_of_isOpen (isOpen : service.store.shelf.isClosed = false) :
    service.list = .ok (service.store.shelf.datasets.values.map Dataset.summary) := by
  rw [list, Store.list, Shelf.list_eq_ok_iff.2 ⟨isOpen, rfl⟩]
  rfl

/-- An open service lists the ids of its datasets. -/
theorem ids_of_isOpen (isOpen : service.store.shelf.isClosed = false) :
    service.ids = .ok (service.store.shelf.datasets.values.map Dataset.id) := by
  rw [ids, list_of_isOpen isOpen, Except.map, List.map_map]
  rfl

/-- Only a usable id passes the check. -/
theorem isValidDatasetId_of_checkId {id : String} (valid : checkId id = .ok ()) :
    isValidDatasetId id = true := by
  unfold checkId at valid
  split at valid
  · assumption
  · cases valid

/-- What an upload gives under a usable id is a well-formed dataset. -/
theorem isWellFormed_of_ingest {id : String} {kind : DatasetKind} {upload : Upload}
    {after : Service} {dataset : Dataset} (valid : isValidDatasetId id = true)
    (ingested : service.ingest surroundings id kind upload = (after, .ok dataset)) :
    dataset.IsWellFormed := by
  unfold ingest at ingested
  split at ingested
  · cases ingested
  next archive _ =>
  simp only [Prod.mk.injEq] at ingested
  have outcome := ingested.2
  cases records : (archive.ingest surroundings.gazetteer kind id).records with
  | error error => simp [records, Except.mapError, Except.map] at outcome
  | ok data =>
    simp only [records, Except.mapError, Except.map, Except.ok.injEq] at outcome
    subst outcome
    obtain ⟨nonEmpty, shaped⟩ := Archive.hasShape_of_ingest records
    obtain ⟨notBlank, noUnderscore⟩ := isValidDatasetId_iff.1 valid
    exact ⟨notBlank, noUnderscore, rfl, List.length_pos_iff.2 nonEmpty, shaped⟩

/-- What an upload gives has the id that it is added under. -/
theorem id_of_ingest {id : String} {kind : DatasetKind} {upload : Upload} {dataset : Dataset}
    (ingested : (service.ingest surroundings id kind upload).2 = .ok dataset) :
    dataset.id = id := by
  unfold ingest at ingested
  split at ingested
  · cases ingested
  next archive _ =>
  dsimp only at ingested
  cases records : (archive.ingest surroundings.gazetteer kind id).records with
  | error error =>
    rw [records] at ingested
    cases ingested
  | ok data =>
    rw [records] at ingested
    cases ingested
    rfl

/-- What an upload gives does not depend on the service. -/
theorem ingest_eq (surroundings : Surroundings) (service other : Service) (id : String)
    (kind : DatasetKind) (upload : Upload) :
    (other.ingest surroundings id kind upload).2 =
      (service.ingest surroundings id kind upload).2 := by
  unfold ingest
  split <;> rfl

/-- Ingesting leaves the store alone. -/
theorem store_ingest (surroundings : Surroundings) (service : Service) (id : String)
    (kind : DatasetKind) (upload : Upload) :
    (service.ingest surroundings id kind upload).1.store = service.store := by
  unfold ingest
  split <;> rfl

/-- An addition leaves a well-formed shelf. -/
theorem isWellFormed_add (wellFormed : service.store.shelf.IsWellFormed) (id : String)
    (kind : DatasetKind) (upload : Upload) :
    (service.add surroundings id kind upload).1.store.shelf.IsWellFormed := by
  unfold add
  split
  · exact wellFormed
  · exact wellFormed
  next valid _ =>
  have same := store_ingest surroundings service id kind upload
  split
  · next ingested =>
    rw [ingested] at same
    rwa [same]
  next ingesting dataset ingested =>
  rw [ingested] at same
  have added := isWellFormed_of_ingest (isValidDatasetId_of_checkId valid) ingested
  have changed := StoreWrite.shelf_perform surroundings.device ingesting.store (.put dataset)
  have kept : (ingesting.commit surroundings dataset).1.store =
      (ingesting.store.put surroundings.device dataset).1 := by
    unfold commit
    split <;> next put => rw [put]
  rw [kept]
  rw [same] at changed
  rcases changed with unchanged | put
  · rw [same, Store.put, unchanged]
    exact wellFormed
  · rw [same, Store.put, put]
    exact Shelf.isWellFormed_add wellFormed added

/-- A removal leaves a well-formed shelf. -/
theorem isWellFormed_remove (wellFormed : service.store.shelf.IsWellFormed) (id : String) :
    (service.remove surroundings id).1.store.shelf.IsWellFormed := by
  unfold remove
  split
  · exact wellFormed
  have changed := StoreWrite.shelf_perform surroundings.device service.store (.delete id)
  have kept : (service.store.delete surroundings.device id).1.shelf.IsWellFormed := by
    rcases changed with unchanged | deleted
    · rw [Store.delete, unchanged]
      exact wellFormed
    · rw [Store.delete, deleted]
      exact Shelf.isWellFormed_erase wellFormed id
  split <;> next deleted => rw [deleted] at kept; exact kept

/-- A call leaves a well-formed shelf. -/
theorem isWellFormed_answerCall (wellFormed : service.store.shelf.IsWellFormed)
    (call : ServiceCall) : (service.answerCall surroundings call).1.store.shelf.IsWellFormed := by
  cases call with
  | add id kind upload => exact isWellFormed_add wellFormed id kind upload
  | remove id => exact isWellFormed_remove wellFormed id
  | list | query => exact wellFormed

/-- A run leaves a well-formed shelf. -/
theorem isWellFormed_run (wellFormed : service.store.shelf.IsWellFormed)
    (calls : List (Surroundings × ServiceCall)) :
    (service.run calls).1.store.shelf.IsWellFormed := by
  induction calls generalizing service with
  | nil => exact wellFormed
  | cons call rest ih =>
    obtain ⟨surroundings, call⟩ := call
    exact ih (isWellFormed_answerCall wellFormed call)

/-- Whatever an empty service is called with, it goes on answering, every dataset it holds is well
formed and held under its own id, and listings ascend strictly by id. -/
theorem stored_isWellFormed_of_run (folder : Option Folder) (rowLimit : Nat)
    (calls : List (Surroundings × ServiceCall)) :
    let service := ((onStore ⟨.empty, folder⟩ rowLimit).run calls).1
    (∀ id, ∃ found, service.store.get? id = .ok found ∧
      ∀ dataset, found = some dataset → dataset.id = id ∧ dataset.IsWellFormed) ∧
    ∃ listed, service.list = .ok listed ∧
      listed.Pairwise fun left right => left.id < right.id := by
  intro service
  have wellFormed : service.store.shelf.IsWellFormed :=
    isWellFormed_run Shelf.isWellFormed_empty calls
  constructor
  · intro id
    refine ⟨service.store.shelf.datasets.get? id, ?_, wellFormed.stored id⟩
    simp [Store.get?, Shelf.get?, Shelf.check, wellFormed.isOpen, bind, Except.bind, pure,
      Except.pure]
  · obtain ⟨listed, isListed, ascending⟩ := Shelf.list_ascending wellFormed
    exact ⟨listed, by rw [list, Store.list, isListed]; rfl, ascending⟩

end Service
end Campus
