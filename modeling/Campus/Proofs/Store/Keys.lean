import Campus.Proofs.Store.Shelving
/-!
# Datasets under their own ids

A shelf finds every dataset under the id that the dataset has itself. So the ids that a listing
shows are the keys of the shelf, in ascending order. Whatever a stage of a write does, it leaves a
shelf so.
-/

namespace Campus

/-- A shelf that has every dataset under the dataset's own id. -/
def Shelf.IsKeyed (shelf : Shelf) : Prop :=
  ∀ id d, shelf.datasets.get? id = some d → d.id = id

namespace Shelf

variable {shelf : Shelf}

/-- What is put on a shelf stands under its own id. -/
theorem isKeyed_add (keyed : shelf.IsKeyed) (d : Dataset) :
    IsKeyed { shelf with datasets := add shelf.datasets d } := by
  intro id found isFound
  rw [add, Keyed.get?_insert] at isFound
  split at isFound
  · next same =>
    cases isFound
    exact same.symm
  · exact keyed id found isFound

/-- What is left on a shelf stands where it stood. -/
theorem isKeyed_erase (keyed : shelf.IsKeyed) (id : String) :
    IsKeyed { shelf with datasets := shelf.datasets.erase id } := by
  intro other found isFound
  rw [Keyed.get?_erase] at isFound
  split at isFound
  · cases isFound
  · exact keyed other found isFound

/-- A shelf of some datasets has them under their own ids. -/
theorem isKeyed_ofDatasets (datasets : List Dataset) : (ofDatasets datasets).IsKeyed := by
  suffices h : ∀ held : Keyed Dataset, IsKeyed ⟨held, false⟩ →
      IsKeyed ⟨datasets.foldl add held, false⟩ from
    h ∅ fun _ _ impossible => by cases impossible
  induction datasets with
  | nil => exact fun _ keyed => keyed
  | cons d rest ih => exact fun held keyed => ih _ (isKeyed_add keyed d)

/-- The ids of the datasets are the keys. -/
theorem map_id_values (keyed : shelf.IsKeyed) :
    shelf.datasets.values.map Dataset.id = shelf.datasets.keys := by
  rw [Keyed.values, Keyed.keys, List.map_map]
  exact List.map_congr_left fun entry member =>
    keyed entry.1 entry.2 (Keyed.mem_entries_iff.1 member)

/-- The ids that a listing shows are the keys. -/
theorem ids_of_list (keyed : shelf.IsKeyed) {listed : List DatasetSummary}
    (isListed : shelf.list = .ok listed) :
    listed.map DatasetSummary.id = shelf.datasets.keys := by
  rw [(list_eq_ok_iff.1 isListed).2, List.map_map, ← map_id_values keyed]
  rfl

end Shelf

/-- A store that is opened on a folder has every dataset under its own id. -/
theorem Store.isKeyed_of_onFolder {device : Device} {folder left : Folder} {store : Store}
    (opened : onFolder device folder = (left, .ok store)) : store.shelf.IsKeyed := by
  unfold onFolder at opened
  split at opened
  · cases opened
    exact Shelf.isKeyed_ofDatasets _
  · cases opened

namespace StoreWrite

variable {shelf : Shelf}

/-- What a write is to lead to has every dataset under its own id. -/
theorem isKeyed_target (keyed : shelf.IsKeyed) (write : StoreWrite) :
    (write.target shelf).IsKeyed := by
  cases write with
  | put d | writeBlob d | nameBlob d | shelve d => exact Shelf.isKeyed_add keyed d
  | delete id | removeBlob id | unshelve id => exact Shelf.isKeyed_erase keyed id

end StoreWrite
end Campus
