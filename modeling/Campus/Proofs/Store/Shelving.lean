import Campus.Proofs.Data.Keyed
import Campus.Store.Basic
/-!
# What writes do to the shelf

Only the last stage of a write touches the shelf, and only if all stages before it went well. So
whatever the device does, a write leaves the shelf as it was or changes it as it was meant to.
-/

namespace Campus

namespace Shelf

variable {shelf after : Shelf}

/-- An open shelf takes a dataset, a closed one does not. -/
theorem put_eq_ok_iff {dataset : Dataset} :
    shelf.put dataset = .ok after ↔
      shelf.isClosed = false ∧ after = { shelf with datasets := add shelf.datasets dataset } := by
  unfold put check
  cases shelf.isClosed <;> simp [bind, Except.bind, pure, Except.pure, eq_comm]

/-- An open shelf gives a dataset up and says whether it was there. -/
theorem delete_eq_ok_iff {id : String} {found : Bool} :
    shelf.delete id = .ok (after, found) ↔
      shelf.isClosed = false ∧ after = { shelf with datasets := shelf.datasets.erase id } ∧
        found = shelf.datasets.contains id := by
  unfold delete check
  cases shelf.isClosed <;> simp [bind, Except.bind, pure, Except.pure, eq_comm]

/-- An open shelf lists its datasets. -/
theorem list_eq_ok_iff {listed : List DatasetSummary} :
    shelf.list = .ok listed ↔
      shelf.isClosed = false ∧ listed = shelf.datasets.values.map Dataset.summary := by
  unfold list check
  cases shelf.isClosed <;> simp [bind, Except.bind, pure, Except.pure, eq_comm]

/-- An open shelf says whether it holds an id. -/
theorem contains_eq_ok_iff {id : String} {found : Bool} :
    shelf.contains id = .ok found ↔ shelf.isClosed = false ∧ shelf.datasets.contains id = found := by
  unfold contains check
  cases shelf.isClosed <;> simp [bind, Except.bind, pure, Except.pure]

/-- An open shelf gives what it holds under an id. -/
theorem get?_eq_ok_iff {id : String} {found : Option Dataset} :
    shelf.get? id = .ok found ↔ shelf.isClosed = false ∧ shelf.datasets.get? id = found := by
  unfold get? check
  cases shelf.isClosed <;> simp [bind, Except.bind, pure, Except.pure]

end Shelf

namespace StoreWrite

/-- The shelf that a write is to lead to. -/
def target (shelf : Shelf) : StoreWrite → Shelf
  | put dataset | writeBlob dataset | nameBlob dataset | shelve dataset =>
    { shelf with datasets := Shelf.add shelf.datasets dataset }
  | delete id | removeBlob id | unshelve id => { shelf with datasets := shelf.datasets.erase id }

variable {device : Device} {store after : Store}

/-- A step in the folder of a store leaves its shelf alone. -/
@[simp]
theorem shelf_inFolder (device : Device) (store : Store) (step : FileStep) :
    (inFolder device store step).1.shelf = store.shelf := by
  unfold inFolder
  split <;> rfl

/-- A stage that is followed by another leaves the shelf alone, and the other has the same aim. -/
theorem shelf_of_stage_inl {write next : StoreWrite}
    (step : stage device store write = (after, .ok (.inl next))) :
    after.shelf = store.shelf ∧ ∀ shelf, next.target shelf = write.target shelf := by
  have kept (fileStep : FileStep) := shelf_inFolder device store fileStep
  cases write <;> simp only [stage] at step
  case put dataset =>
    split at step
    · cases step
      exact ⟨rfl, fun _ => rfl⟩
    · cases checked : store.shelf.check with
      | error error => simp [checked, Except.map] at step
      | ok _ =>
        simp only [checked, Except.map, Prod.mk.injEq, Except.ok.injEq, Sum.inl.injEq] at step
        obtain ⟨rfl, rfl⟩ := step
        exact ⟨rfl, fun _ => rfl⟩
  case writeBlob dataset =>
    split at step
    · next written =>
      cases step
      have same := kept (.write (Blob.incompleteName dataset.id) (Blob.content dataset))
      rw [written] at same
      exact ⟨same, fun _ => rfl⟩
    · cases step
  case nameBlob dataset =>
    split at step
    · next named =>
      cases step
      have same := kept (.rename (Blob.incompleteName dataset.id) (Blob.name dataset.id))
      rw [named] at same
      exact ⟨same, fun _ => rfl⟩
    · cases step
  case shelve => split at step <;> cases step
  case delete => split at step <;> cases step <;> exact ⟨rfl, fun _ => rfl⟩
  case removeBlob id =>
    have same := kept (.remove (Blob.name id))
    split at step
    · next removed => cases step; rw [removed] at same; exact ⟨same, fun _ => rfl⟩
    · next absent => cases step; rw [absent] at same; exact ⟨same, fun _ => rfl⟩
    · cases step
  case unshelve => split at step <;> cases step

/-- A stage leaves the shelf as it was or as the write is to leave it. -/
theorem shelf_of_stage {write : StoreWrite} :
    (stage device store write).1.shelf = store.shelf ∨
      (stage device store write).1.shelf = write.target store.shelf := by
  cases write <;> simp only [stage]
  case put => split <;> exact Or.inl rfl
  case writeBlob dataset =>
    have same := shelf_inFolder device store
      (.write (Blob.incompleteName dataset.id) (Blob.content dataset))
    split <;> next written => rw [written] at same; exact Or.inl same
  case nameBlob dataset =>
    have same := shelf_inFolder device store
      (.rename (Blob.incompleteName dataset.id) (Blob.name dataset.id))
    split
    · next named => rw [named] at same; exact Or.inl same
    · next failed => rw [failed] at same; exact Or.inl ((shelf_inFolder _ _ _).trans same)
  case shelve dataset =>
    split
    · next put => exact Or.inr (Shelf.put_eq_ok_iff.1 put).2
    · exact Or.inl rfl
  case delete => split <;> exact Or.inl rfl
  case removeBlob id =>
    have same := shelf_inFolder device store (.remove (Blob.name id))
    split
    · next removed => rw [removed] at same; exact Or.inl same
    · next absent => rw [absent] at same; exact Or.inl same
    · next failed => rw [failed] at same; exact Or.inl same
  case unshelve id =>
    split
    · next deleted => exact Or.inr (Shelf.delete_eq_ok_iff.1 deleted).2.1
    · exact Or.inl rfl

/-- Any number of stages leave the shelf as it was or as the write is to leave it. -/
theorem shelf_advance (device : Device) (stages : Nat) (store : Store) (write : StoreWrite) :
    (advance device stages store write).1.shelf = store.shelf ∨
      (advance device stages store write).1.shelf = write.target store.shelf := by
  induction stages generalizing store write with
  | zero => exact Or.inl rfl
  | succ stages ih =>
    unfold advance
    split
    · next middle next step =>
      obtain ⟨same, aim⟩ := shelf_of_stage_inl step
      rw [← same, ← aim]
      exact ih middle next
    · exact shelf_of_stage

/-- A write leaves the shelf as it was or as it is to leave it. -/
theorem shelf_perform (device : Device) (store : Store) (write : StoreWrite) :
    (perform device store write).1.shelf = store.shelf ∨
      (perform device store write).1.shelf = write.target store.shelf := by
  have outcome := shelf_advance device write.stagesLeft store write
  unfold perform
  split <;> next finished => rw [finished] at outcome; exact outcome

end StoreWrite
end Campus
