import Campus.Proofs.Service.Shape
import Campus.Proofs.Store.JsonFiles
/-!
# What calls do to the JSON files

A call to an open service with a folder puts one blob there, or removes one, or leaves the JSON
files as they are; a call that fails leaves them. What it puts there is the blob of a well-formed
dataset, since only an ingested one is ever written.
-/

namespace Campus

/-- What one call may make of the JSON files of a folder. -/
inductive JsonChange (json : Keyed FolderItem) : Keyed FolderItem → Prop
  | kept : JsonChange json json
  /-- The blob of a dataset is put there. -/
  | written (d : Dataset) (wellFormed : d.IsWellFormed) :
    JsonChange json (json.insert (Blob.name d.id) (.file (Blob.content d)))
  /-- The blob of a dataset is removed. -/
  | removed (id : String) : JsonChange json (json.erase (Blob.name id))

namespace Service

/-- A service that answers, over a folder with some JSON files. -/
structure HasFiles (service : Service) (json : Keyed FolderItem) : Prop where
  isOpen : service.store.shelf.isClosed = false
  files : service.store.jsonFiles? = some json

/-- What a call comes to: its JSON files, which are the ones from before if it fails. -/
def FilesAfter {α : Type} (json : Keyed FolderItem) (ended : Service × Except ServiceError α) :
    Prop :=
  ∃ after, ended.1.HasFiles after ∧ JsonChange json after ∧
    ∀ error, ended.2 = .error error → after = json

variable {service : Service} {json : Keyed FolderItem}

/-- Where nothing is changed the JSON files are those from before. -/
theorem HasFiles.filesAfter {α : Type} (has : service.HasFiles json)
    (outcome : Except ServiceError α) : FilesAfter json (service, outcome) :=
  ⟨json, has, .kept, fun _ _ => rfl⟩

/-- A service that is opened answers, over the JSON files of its folder. -/
theorem hasFiles_of_onFolder {device : Device} {folder cleared : Folder} {store : Store}
    (opened : Store.onFolder device folder = (cleared, .ok store)) (rowLimit : Nat) :
    (onStore store rowLimit).HasFiles folder.jsonFiles := by
  have opening := Store.isOpening_of_onFolder opened
  obtain ⟨listed, isListed, -⟩ := opening.lists
  have kept := Store.jsonFiles_onFolder device folder
  rw [opened] at kept
  refine ⟨(Shelf.list_eq_ok_iff.1 isListed).1, ?_⟩
  rw [← kept]
  exact congrArg (Option.map Folder.jsonFiles) opening.hasFolder

/-- A commit puts a blob there, or it fails. -/
theorem filesAfter_commit (surroundings : Surroundings) (has : service.HasFiles json) {d : Dataset}
    (wellFormed : d.IsWellFormed) : FilesAfter json (service.commit surroundings d) := by
  have filed : (StoreWrite.put d).IsFiled service.store json := ⟨has.files, by simp, by simp⟩
  obtain ⟨stillOpen, ended⟩ := filed.perform has.isOpen surroundings.device
  unfold commit Store.put
  split
  · next store _ done =>
    rw [done] at stillOpen ended
    rcases ended with ⟨-, files⟩ | ⟨fault, impossible, -⟩
    · refine ⟨_, ⟨stillOpen, files⟩, .written d wellFormed, fun error failed => ?_⟩
      have listed : ids { service with store } = .ok _ := ids_of_isOpen stillOpen
      rw [listed] at failed
      cases failed
    · cases impossible
  · next failed =>
    rw [failed] at stillOpen ended
    rcases ended with ⟨impossible, -⟩ | ⟨fault, -, files⟩
    · cases impossible
    · exact ⟨json, ⟨stillOpen, files⟩, .kept, fun _ _ => rfl⟩

/-- An addition puts the blob of an ingested dataset there, or it fails. -/
theorem filesAfter_add (surroundings : Surroundings) (has : service.HasFiles json) (id : String)
    (kind : DatasetKind) (upload : Upload) :
    FilesAfter json (service.add surroundings id kind upload) := by
  have same := store_ingest surroundings service id kind upload
  have kept : (service.ingest surroundings id kind upload).1.HasFiles json :=
    ⟨by rw [same, has.isOpen], by rw [same, has.files]⟩
  unfold add
  split
  · exact has.filesAfter _
  · exact has.filesAfter _
  next valid _ =>
  split
  · next ingested =>
    rw [ingested] at kept
    exact kept.filesAfter _
  · next ingested =>
    rw [ingested] at kept
    exact filesAfter_commit surroundings kept
      (isWellFormed_of_ingest (isValidDatasetId_of_checkId valid) ingested)

/-- A removal removes a blob, or it fails. -/
theorem filesAfter_remove (surroundings : Surroundings) (has : service.HasFiles json)
    (id : String) : FilesAfter json (service.remove surroundings id) := by
  have filed : (StoreWrite.delete id).IsFiled service.store json := ⟨has.files, by simp, by simp⟩
  obtain ⟨stillOpen, ended⟩ := filed.perform has.isOpen surroundings.device
  unfold remove Store.delete
  split
  · exact has.filesAfter _
  split
  · next deleted =>
    rw [deleted] at stillOpen ended
    rcases ended with ⟨found, files⟩ | ⟨fault, impossible, -⟩
    · rw [← Except.ok.inj found, if_pos rfl] at files
      exact ⟨_, ⟨stillOpen, files⟩, .removed id, nofun⟩
    · cases impossible
  · next deleted =>
    rw [deleted] at stillOpen ended
    rcases ended with ⟨found, files⟩ | ⟨fault, impossible, -⟩
    · rw [← Except.ok.inj found, if_neg Bool.false_ne_true] at files
      exact ⟨json, ⟨stillOpen, files⟩, .kept, fun _ _ => rfl⟩
    · cases impossible
  · next deleted =>
    rw [deleted] at stillOpen ended
    rcases ended with ⟨impossible, -⟩ | ⟨fault, -, files⟩
    · cases impossible
    · exact ⟨json, ⟨stillOpen, files⟩, .kept, fun _ _ => rfl⟩

/-- The form of an answer does not matter. -/
theorem FilesAfter.map {α β : Type} {ended : Service × Except ServiceError α}
    (files : FilesAfter json ended) (form : α → β) :
    FilesAfter json (ended.1, ended.2.map form) := by
  obtain ⟨after, has, change, failed⟩ := files
  refine ⟨after, has, change, fun error failure => ?_⟩
  cases outcome : ended.2 with
  | ok _ => simp [outcome, Except.map] at failure
  | error previous => exact failed previous outcome

/-- What any call does to the JSON files. -/
theorem filesAfter_answerCall (surroundings : Surroundings) (has : service.HasFiles json)
    (call : ServiceCall) :
    FilesAfter json (service.answerCall surroundings call) := by
  cases call with
  | add id kind upload => exact (filesAfter_add surroundings has id kind upload).map _
  | remove id => exact (filesAfter_remove surroundings has id).map _
  | list | query => exact has.filesAfter _

end Service
end Campus
