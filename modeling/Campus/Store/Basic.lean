import Campus.Store.Blob
import Campus.Store.Shelf
/-!
# Stores

A store keeps datasets on a shelf, and a store with a folder keeps the blob of each dataset there as
well. It answers from the shelf alone. A write goes through stages. It first looks whether the store
is open, then changes the folder, and the shelf last; a blob is written under another name and
renamed, so that the folder always has the old blob or the new one. A failing stage ends the write.
-/

namespace Campus

/-- Datasets, kept in memory and possibly in a folder. -/
structure Store where
  shelf : Shelf
  /-- The folder with the blobs, if the store has one. -/
  folder : Option Folder

/-- What is left to do of a write. -/
inductive StoreWrite
  /-- Put a dataset: look whether the store is open. -/
  | put (dataset : Dataset)
  /-- Write the blob under its incomplete name. -/
  | writeBlob (dataset : Dataset)
  /-- Give the blob its name. -/
  | nameBlob (dataset : Dataset)
  /-- Put the dataset on the shelf. -/
  | shelve (dataset : Dataset)
  /-- Delete a dataset: look whether it is there. -/
  | delete (id : String)
  /-- Remove the blob. -/
  | removeBlob (id : String)
  /-- Take the dataset off the shelf. -/
  | unshelve (id : String)
deriving DecidableEq

namespace Store

/-- The open store in memory that holds some datasets. -/
def inMemory (datasets : List Dataset) : Store := ⟨.ofDatasets datasets, none⟩

/-- Open a store on a folder: the folder afterwards, and the store or the reason why it cannot be
opened. -/
def onFolder (device : Device) (folder : Folder) : Folder × Except StoreError Store :=
  match Blob.collect device folder [] folder.entries with
  | (folder, .ok datasets) => (folder, .ok ⟨.ofDatasets datasets, some folder⟩)
  | (folder, .error error) => (folder, .error error)

/-- The dataset under an id. -/
def get? (store : Store) (id : String) : Except StoreError (Option Dataset) := store.shelf.get? id

/-- Whether there is a dataset under an id. -/
def contains (store : Store) (id : String) : Except StoreError Bool := store.shelf.contains id

/-- What a listing shows of the datasets, in the order of their ids. -/
def list (store : Store) : Except StoreError (List DatasetSummary) := store.shelf.list

/-- Close the store. -/
def close (store : Store) : Store := { store with shelf := store.shelf.close }

end Store

namespace StoreWrite

/-- How a stage ends: another one follows, or the write is over and says whether a dataset was put
or found. -/
abbrev StageEnd := Except StoreError (StoreWrite ⊕ Bool)

/-- Perform a step in the folder of a store, if it has one. -/
def inFolder (device : Device) (store : Store) (step : FileStep) : Store × Except FileFault Unit :=
  match store.folder with
  | none => (store, .ok ())
  | some folder =>
    let (folder, outcome) := folder.perform device step
    ({ store with folder := some folder }, outcome)

/-- Perform the next stage of a write. -/
def stage (device : Device) (store : Store) : StoreWrite → Store × StageEnd
  | put dataset =>
    match store.folder with
    | none => (store, .ok (.inl (shelve dataset)))
    | some _ => (store, store.shelf.check.map fun _ => .inl (writeBlob dataset))
  | writeBlob dataset =>
    match inFolder device store
      (.write (Blob.incompleteName dataset.id) (Blob.content dataset)) with
    | (store, .ok ()) => (store, .ok (.inl (nameBlob dataset)))
    | (store, .error fault) => (store, .error (.io fault))
  | nameBlob dataset =>
    let incomplete := Blob.incompleteName dataset.id
    match inFolder device store (.rename incomplete (Blob.name dataset.id)) with
    | (store, .ok ()) => (store, .ok (.inl (shelve dataset)))
    | (store, .error fault) => ((inFolder device store (.remove incomplete)).1, .error (.io fault))
  | shelve dataset =>
    match store.shelf.put dataset with
    | .ok shelf => ({ store with shelf }, .ok (.inr true))
    | .error error => (store, .error error)
  | delete id =>
    match store.folder, store.shelf.contains id with
    | none, _ => (store, .ok (.inl (unshelve id)))
    | some _, .ok true => (store, .ok (.inl (removeBlob id)))
    | some _, .ok false => (store, .ok (.inr false))
    | some _, .error error => (store, .error error)
  | removeBlob id =>
    match inFolder device store (.remove (Blob.name id)) with
    | (store, .ok ()) | (store, .error .notFound) => (store, .ok (.inl (unshelve id)))
    | (store, .error fault) => (store, .error (.io fault))
  | unshelve id =>
    match store.shelf.delete id with
    | .ok (shelf, found) => ({ store with shelf }, .ok (.inr found))
    | .error error => (store, .error error)

/-- How many stages a write has at most from here on. -/
def stagesLeft : StoreWrite → Nat
  | put _ => 4
  | writeBlob _ | delete _ => 3
  | nameBlob _ | removeBlob _ => 2
  | shelve _ | unshelve _ => 1

/-- Every stage leaves fewer. -/
theorem stagesLeft_lt_of_stage {device : Device} {before after : Store} {write next : StoreWrite}
    (step : stage device before write = (after, .ok (.inl next))) :
    next.stagesLeft < write.stagesLeft := by
  cases write <;> simp only [stage] at step
  case put dataset =>
    split at step
    · cases step; simp [stagesLeft]
    · cases checked : before.shelf.check with
      | error error => simp [checked, Except.map] at step
      | ok _ => simp [checked, Except.map] at step; rw [← step.2]; simp [stagesLeft]
  case writeBlob => split at step <;> cases step; simp [stagesLeft]
  case nameBlob => split at step <;> cases step; simp [stagesLeft]
  case shelve => split at step <;> cases step
  case delete => split at step <;> cases step <;> simp [stagesLeft]
  case removeBlob => split at step <;> cases step <;> simp [stagesLeft]
  case unshelve => split at step <;> cases step

/-- Perform some stages of a write without interruption. -/
def advance (device : Device) : (stages : Nat) → Store → StoreWrite → Store × StageEnd
  | 0, store, write => (store, .ok (.inl write))
  | stages + 1, store, write =>
    match stage device store write with
    | (store, .ok (.inl write)) => advance device stages store write
    | finished => finished

/-- With enough stages nothing is left to do. -/
theorem advance_ne_inl (device : Device) (store : Store) (write : StoreWrite) {stages : Nat}
    (enough : write.stagesLeft ≤ stages) (after : Store) (next : StoreWrite) :
    advance device stages store write ≠ (after, .ok (.inl next)) := by
  induction stages generalizing store write with
  | zero => cases write <;> simp [stagesLeft] at enough
  | succ stages ih =>
    unfold advance
    split
    · next middle write' step =>
      exact ih _ _ (by have := stagesLeft_lt_of_stage step; omega)
    · next unfinished => exact fun impossible => unfinished _ _ impossible

/-- Perform a write without interruption. -/
def perform (device : Device) (store : Store) (write : StoreWrite) :
    Store × Except StoreError Bool :=
  match advance device write.stagesLeft store write with
  | (store, .ok (.inr found)) => (store, .ok found)
  | (store, .ok (.inl _)) => (store, .ok false)
  | (store, .error error) => (store, .error error)

/-- What a write comes to is what its last stage says. -/
theorem advance_eq_perform (device : Device) (store : Store) (write : StoreWrite) :
    advance device write.stagesLeft store write =
      ((perform device store write).1, (perform device store write).2.map Sum.inr) := by
  have finished := advance_ne_inl device store write (Nat.le_refl _)
  unfold perform
  split
  · next finish => rw [finish]; rfl
  · next finish => exact absurd finish (finished _ _)
  · next finish => rw [finish]; rfl

end StoreWrite

namespace Store

/-- Put a dataset, over any earlier one of its id. -/
def put (device : Device) (store : Store) (dataset : Dataset) : Store × Except StoreError Bool :=
  StoreWrite.perform device store (.put dataset)

/-- Delete a dataset, and say whether it was there. -/
def delete (device : Device) (store : Store) (id : String) : Store × Except StoreError Bool :=
  StoreWrite.perform device store (.delete id)

end Store
end Campus
