import Campus.Proofs.Store.Filing
/-!
# Stores that mirror each other

Two stores mirror each other when each has the blobs of its datasets in its folder and their
datasets differ by signs of zeros only. On a sound device they answer alike, and whatever is put and
deleted in both they go on mirroring each other. A store that is opened on the folder of one of them
mirrors the other one too.
-/

namespace Campus

namespace Store

/-- An open store with the blobs of its datasets in its folder. -/
def IsFiled (store : Store) : Prop :=
  ∃ datasets folder, store = filed datasets folder ∧ folder.IsFiling datasets

/-- Two such stores whose datasets differ by signs of zeros only. -/
structure Mirrors (store other : Store) : Prop where
  filed : store.IsFiled
  otherFiled : other.IsFiled
  same : other.shelf.datasets.map Dataset.normalize = store.shelf.datasets.map Dataset.normalize

variable {store other : Store}

/-- The store on an empty folder mirrors itself. -/
theorem mirrors_empty : Mirrors (.filed ∅ ∅) (.filed ∅ ∅) :=
  ⟨⟨∅, ∅, rfl, Folder.isFiling_empty⟩, ⟨∅, ∅, rfl, Folder.isFiling_empty⟩, rfl⟩

/-- Stores that mirror each other hold the same ids. -/
theorem contains_of_mirrors (mirrors : store.Mirrors other) (id : String) :
    other.contains id = store.contains id := by
  obtain ⟨⟨datasets, folder, rfl, -⟩, ⟨otherDatasets, otherFolder, rfl, -⟩, same⟩ := mirrors
  exact congrArg Except.ok (Keyed.contains_eq_of_map_eq same id)

/-- Stores that mirror each other list the same. -/
theorem list_of_mirrors (mirrors : store.Mirrors other) : other.list = store.list := by
  obtain ⟨⟨datasets, folder, rfl, -⟩, ⟨otherDatasets, otherFolder, rfl, -⟩, same⟩ := mirrors
  exact congrArg Except.ok
    (Keyed.values_map_eq_of_map_eq same fun d => (Dataset.summary_normalize d).symm)

/-- What stores that mirror each other hold under an id differs by signs of zeros. -/
theorem get?_of_mirrors (mirrors : store.Mirrors other) (id : String) :
    ∃ found otherFound, store.get? id = .ok found ∧ other.get? id = .ok otherFound ∧
      otherFound.map Dataset.normalize = found.map Dataset.normalize := by
  obtain ⟨⟨datasets, folder, rfl, -⟩, ⟨otherDatasets, otherFolder, rfl, -⟩, same⟩ := mirrors
  refine ⟨datasets.get? id, otherDatasets.get? id, rfl, rfl, ?_⟩
  rw [← Keyed.get?_map, ← Keyed.get?_map]
  exact congrArg (fun m => m.get? id) same

/-- On a sound device a dataset is put alike in stores that mirror each other. -/
theorem put_of_mirrors (mirrors : store.Mirrors other) (d : Dataset) :
    (other.put Device.sound d).2 = (store.put Device.sound d).2 ∧
      (store.put Device.sound d).1.Mirrors (other.put Device.sound d).1 := by
  have kept := mirrors
  obtain ⟨⟨datasets, folder, rfl, filing⟩, ⟨otherDatasets, otherFolder, rfl, otherFiling⟩, same⟩ :=
    mirrors
  rw [put_filed filing, put_filed otherFiling]
  cases Folder.isTooLong (Blob.incompleteName d.id) with
  | true => exact ⟨rfl, kept⟩
  | false =>
    refine ⟨rfl, ⟨_, _, rfl, Folder.isFiling_insert filing d⟩,
      ⟨_, _, rfl, Folder.isFiling_insert otherFiling d⟩, ?_⟩
    have added : (Shelf.add otherDatasets d).map Dataset.normalize =
        (Shelf.add datasets d).map Dataset.normalize := by
      rw [Shelf.add, Shelf.add, Keyed.map_insert, Keyed.map_insert]
      exact congrArg (fun m => m.insert d.id d.normalize) same
    exact added

/-- On a sound device a dataset is deleted alike in stores that mirror each other. -/
theorem delete_of_mirrors (mirrors : store.Mirrors other) (id : String) :
    (other.delete Device.sound id).2 = (store.delete Device.sound id).2 ∧
      (store.delete Device.sound id).1.Mirrors (other.delete Device.sound id).1 := by
  have kept := mirrors
  obtain ⟨⟨datasets, folder, rfl, filing⟩, ⟨otherDatasets, otherFolder, rfl, otherFiling⟩, same⟩ :=
    mirrors
  have held : otherDatasets.contains id = datasets.contains id :=
    Keyed.contains_eq_of_map_eq same id
  rw [delete_filed filing, delete_filed otherFiling, held]
  cases datasets.contains id with
  | false => exact ⟨rfl, kept⟩
  | true =>
    cases Folder.isTooLong (Blob.name id) with
    | true => exact ⟨rfl, kept⟩
    | false =>
      refine ⟨rfl, ⟨_, _, rfl, Folder.isFiling_erase filing id⟩,
        ⟨_, _, rfl, Folder.isFiling_erase otherFiling id⟩, ?_⟩
      have erased : (otherDatasets.erase id).map Dataset.normalize =
          (datasets.erase id).map Dataset.normalize := by
        rw [Keyed.map_erase, Keyed.map_erase]
        exact congrArg (fun m => m.erase id) same
      exact erased

/-- A store that is opened on the folder of a store mirrors whatever that one mirrors, as long as
what is held can be written and is read with correct rounding. -/
theorem onFolder_of_mirrors (mirrors : store.Mirrors other)
    (stored : ∀ id d, store.shelf.datasets.get? id = some d →
      d.id = id ∧ id ≠ "" ∧ d.IsStorable ∧ d.IsReadNearest) (device : Device) :
    ∃ folder reopened, other.folder = some folder ∧
      onFolder device folder = (folder, .ok reopened) ∧ store.Mirrors reopened := by
  obtain ⟨⟨datasets, folder, rfl, filing⟩, ⟨otherDatasets, otherFolder, rfl, otherFiling⟩, same⟩ :=
    mirrors
  have otherStored : ∀ id d, otherDatasets.get? id = some d →
      d.id = id ∧ id ≠ "" ∧ d.IsStorable ∧ d.IsReadNearest := by
    intro id d found
    have normal := congrArg (fun m => m.get? id) same
    simp only [Keyed.get?_map] at normal
    have looked : (filed otherDatasets otherFolder).shelf.datasets.get? id = some d := found
    rw [looked, Option.map_some] at normal
    obtain ⟨original, held, equal⟩ := Option.map_eq_some_iff.1 normal.symm
    obtain ⟨own, named, storable, nearest⟩ := stored id original held
    refine ⟨?_, named, ?_, ?_⟩
    · rw [← own]
      exact (congrArg Dataset.id equal).symm
    · rw [← Dataset.isStorable_normalize_iff, ← equal, Dataset.isStorable_normalize_iff]
      exact storable
    · rw [← Dataset.isReadNearest_normalize_iff, ← equal, Dataset.isReadNearest_normalize_iff]
      exact nearest
  have reread : otherDatasets.map Dataset.reread = otherDatasets.map Dataset.normalize := by
    ext1 id
    rw [Keyed.get?_map, Keyed.get?_map]
    refine Option.map_congr fun d found => ?_
    obtain ⟨-, -, storable, nearest⟩ := otherStored id d found
    exact Dataset.reread_eq_normalize storable nearest
  have opened := onFolder_eq otherFiling (fun id d found =>
    ⟨(otherStored id d found).1, (otherStored id d found).2.1,
      (otherStored id d found).2.2.1⟩) device
  rw [reread] at opened
  refine ⟨otherFolder, _, rfl, opened, ⟨datasets, folder, rfl, filing⟩,
    ⟨_, _, rfl, Folder.isFiling_normalize otherFiling⟩, ?_⟩
  have twice : (otherDatasets.map Dataset.normalize).map Dataset.normalize =
      otherDatasets.map Dataset.normalize := by
    ext1 id
    simp only [Keyed.get?_map, Option.map_map, Function.comp_def, Dataset.normalize_normalize]
  exact twice.trans same

end Store
end Campus
