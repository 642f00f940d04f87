import Campus.Proofs.Store.Blobs
import Campus.Store.Basic
/-!
# What a folder holds

On a sound device the folder of a store holds the blobs of the datasets on the shelf and nothing
else, whatever is put and deleted. So a store that is opened on the folder holds the same datasets,
up to the signs of zeros.
-/

namespace Campus

/-- A folder that holds the blobs of some datasets and nothing else. -/
structure Folder.IsFiling (folder : Folder) (datasets : Keyed Dataset) : Prop where
  blobs : ∀ id, folder.get? (Blob.name id) =
    (datasets.get? id).map fun d => .file (Blob.content d)
  nothingElse : ∀ name, (∀ id, Blob.name id ≠ name) → folder.get? name = none

namespace Folder

variable {folder : Folder} {datasets : Keyed Dataset}

/-- The empty folder holds no blobs. -/
theorem isFiling_empty : IsFiling ∅ ∅ := ⟨fun _ => rfl, fun _ _ => rfl⟩

/-- A folder to which the blob of a dataset is added. -/
theorem isFiling_insert (filing : folder.IsFiling datasets) (d : Dataset) :
    IsFiling (folder.insert (Blob.name d.id) (.file (Blob.content d)))
      (Shelf.add datasets d) := by
  constructor
  · intro id
    rw [Keyed.get?_insert, Shelf.add, Keyed.get?_insert]
    by_cases same : id = d.id
    · rw [same, if_pos rfl, if_pos rfl, Option.map_some]
    · rw [if_neg same, if_neg fun names => same (Blob.name_injective names)]
      exact filing.blobs id
  · intro name other
    rw [Keyed.get?_insert, if_neg fun same => other d.id same.symm]
    exact filing.nothingElse name other

/-- A folder from which the blob of a dataset is removed. -/
theorem isFiling_erase (filing : folder.IsFiling datasets) (id : String) :
    IsFiling (folder.erase (Blob.name id)) (datasets.erase id) := by
  constructor
  · intro other
    rw [Keyed.get?_erase, Keyed.get?_erase]
    by_cases same : other = id
    · rw [same, if_pos rfl, if_pos rfl, Option.map_none]
    · rw [if_neg same, if_neg fun names => same (Blob.name_injective names)]
      exact filing.blobs other
  · intro name other
    rw [Keyed.get?_erase, if_neg fun same => other id same.symm]
    exact filing.nothingElse name other

/-- A folder of blobs is one of the datasets without signs of zeros, too. -/
theorem isFiling_normalize (filing : folder.IsFiling datasets) :
    folder.IsFiling (datasets.map Dataset.normalize) := by
  refine ⟨fun id => ?_, filing.nothingElse⟩
  rw [filing.blobs, Keyed.get?_map, Option.map_map]
  simp only [Function.comp_def, Blob.content_normalize]

/-- The files of a folder of blobs come from the datasets. -/
theorem exists_map_file_eq_entries (filing : folder.IsFiling datasets)
    (ownIds : ∀ id d, datasets.get? id = some d → d.id = id) :
    ∃ stored : List Dataset, folder.entries = stored.map Blob.file ∧
      ∀ d ∈ stored, datasets.get? d.id = some d := by
  have each : ∀ entry ∈ folder.entries, ∃ d, Blob.file d = entry ∧
      datasets.get? d.id = some d := by
    rintro ⟨name, item⟩ member
    have found := Keyed.mem_entries_iff.1 member
    by_cases named : ∃ id, Blob.name id = name
    · obtain ⟨id, rfl⟩ := named
      rw [filing.blobs, Option.map_eq_some_iff] at found
      obtain ⟨d, held, rfl⟩ := found
      have own := ownIds id d held
      exact ⟨d, by rw [Blob.file, own], by rw [own]; exact held⟩
    · rw [filing.nothingElse name fun id same => named ⟨id, same⟩] at found
      cases found
  generalize folder.entries = entries at each
  induction entries with
  | nil => exact ⟨[], rfl, by simp⟩
  | cons entry rest ih =>
    obtain ⟨d, file, held⟩ := each entry List.mem_cons_self
    obtain ⟨stored, files, allHeld⟩ :=
      ih fun other member => each other (List.mem_cons_of_mem _ member)
    exact ⟨d :: stored, by rw [List.map_cons, file, files], List.forall_mem_cons.2 ⟨held, allHeld⟩⟩

/-- A blob is written under its incomplete name unless that is too long. -/
theorem write_incompleteName (filing : folder.IsFiling datasets) (id : String)
    (content : List UInt8) :
    folder.write (Blob.incompleteName id) content =
      if isTooLong (Blob.incompleteName id) then .error .nameTooLong
      else .ok (folder.insert (Blob.incompleteName id) (.file content)) := by
  have absent := filing.nothingElse (Blob.incompleteName id) fun other =>
    Blob.name_ne_incompleteName other id
  rw [write, absent, if_neg (by simp : ¬(none : Option FolderItem) = some .folder)]

/-- A written blob gets its name, and nothing else is left of it. -/
theorem rename_incompleteName (filing : folder.IsFiling datasets) {id : String}
    (short : isTooLong (Blob.incompleteName id) = false) (content : List UInt8) :
    rename (folder.insert (Blob.incompleteName id) (.file content)) (Blob.incompleteName id)
      (Blob.name id) = .ok (folder.insert (Blob.name id) (.file content)) := by
  have absent := filing.nothingElse (Blob.incompleteName id) fun other =>
    Blob.name_ne_incompleteName other id
  have erased : (folder.insert (Blob.incompleteName id) (.file content)).erase
      (Blob.incompleteName id) = folder := by
    ext1 name
    rw [Keyed.get?_erase, Keyed.get?_insert]
    by_cases same : name = Blob.incompleteName id
    · rw [same, if_pos rfl, absent]
    · rw [if_neg same, if_neg same]
  have noFolder : folder.get? (Blob.name id) ≠ some .folder := by
    rw [filing.blobs]
    cases datasets.get? id <;> simp
  rw [rename, read, short, Keyed.get?_insert, if_pos rfl, erased]
  simp only [Bool.false_eq_true, if_false, bind, Except.bind, write, Blob.isTooLong_name short,
    noFolder]

/-- The blob of a held dataset is removed unless its name is too long. -/
theorem remove_name (filing : folder.IsFiling datasets) {id : String}
    (held : datasets.contains id = true) :
    folder.remove (Blob.name id) =
      if isTooLong (Blob.name id) then .error .nameTooLong
      else .ok (folder.erase (Blob.name id)) := by
  obtain ⟨d, found⟩ := Option.isSome_iff_exists.1 held
  rw [remove, read, filing.blobs, found]
  split <;> rfl

end Folder

namespace Shelf

/-- A shelf of some datasets collects them under their ids. -/
theorem datasets_ofDatasets (datasets : List Dataset) :
    (ofDatasets datasets).datasets = Keyed.ofList (datasets.map fun d => (d.id, d)) := by
  have entries (held : Keyed Dataset) : (datasets.foldl add held).entries =
      (datasets.map fun d => (d.id, d)).foldl
        (fun held entry => Entries.insert entry.1 entry.2 held) held.entries := by
    induction datasets generalizing held with
    | nil => rfl
    | cons d rest ih =>
      rw [List.foldl_cons, ih, List.map_cons, List.foldl_cons]
      rfl
  ext1 id
  exact congrArg (Entries.get? id) (entries ∅)

/-- What stands on a shelf of datasets with different ids. -/
theorem get?_ofDatasets {datasets : List Dataset} (distinct : (datasets.map Dataset.id).Nodup)
    {id : String} {d : Dataset} :
    (ofDatasets datasets).datasets.get? id = some d ↔ d ∈ datasets ∧ d.id = id := by
  have keys : (datasets.map fun d => (d.id, d)).map Prod.fst = datasets.map Dataset.id := by
    rw [List.map_map]
    rfl
  have keysDistinct := keys ▸ distinct
  rw [datasets_ofDatasets, Keyed.get?_ofList_of_nodup keysDistinct,
    Entries.get?_eq_some_iff_of_nodup keysDistinct, List.mem_map]
  constructor
  · rintro ⟨other, member, same⟩
    cases same
    exact ⟨member, rfl⟩
  · rintro ⟨member, rfl⟩
    exact ⟨d, member, rfl⟩

end Shelf

namespace StoreWrite

variable {device : Device} {before after : Store} {write : StoreWrite}

/-- A write goes on with the stage that follows. -/
theorem advance_of_inl {next : StoreWrite}
    (step : stage device before write = (after, .ok (.inl next))) (stages : Nat) :
    advance device (stages + 1) before write = advance device stages after next := by
  rw [advance, step]

/-- A write is over when a stage says so. -/
theorem advance_of_inr {found : Bool}
    (step : stage device before write = (after, .ok (.inr found))) (stages : Nat) :
    advance device (stages + 1) before write = (after, .ok (.inr found)) := by
  rw [advance, step]

/-- A write is over when a stage fails. -/
theorem advance_of_error {error : StoreError}
    (step : stage device before write = (after, .error error)) (stages : Nat) :
    advance device (stages + 1) before write = (after, .error error) := by
  rw [advance, step]

end StoreWrite

namespace Store

/-- The open store with some datasets on its shelf and a folder. -/
def filed (datasets : Keyed Dataset) (folder : Folder) : Store := ⟨⟨datasets, false⟩, some folder⟩

variable {folder : Folder} {datasets : Keyed Dataset}

open StoreWrite

/-- On a sound device a step that can be done changes the folder of a store. -/
theorem inFolder_filed_ok {changed : Folder} (step : FileStep)
    (done : folder.after step = .ok changed) :
    inFolder Device.sound (filed datasets folder) step = (filed datasets changed, .ok ()) := by
  simp only [inFolder, filed, Folder.perform, Device.sound, done]

/-- On a sound device a step that cannot be done leaves a store as it was. -/
theorem inFolder_filed_error {fault : FileFault} (step : FileStep)
    (failed : folder.after step = .error fault) :
    inFolder Device.sound (filed datasets folder) step =
      (filed datasets folder, .error fault) := by
  simp only [inFolder, filed, Folder.perform, Device.sound, failed]

/-- On a sound device a dataset is put unless its blob needs too long a name, whatever datasets are on
the shelf. -/
theorem put_filed {shown : Keyed Dataset} (filing : folder.IsFiling datasets) (d : Dataset) :
    (filed shown folder).put Device.sound d =
      if Folder.isTooLong (Blob.incompleteName d.id) then
        (filed shown folder, .error (.io .nameTooLong))
      else
        (filed (Shelf.add shown d)
          (folder.insert (Blob.name d.id) (.file (Blob.content d))), .ok true) := by
  have written := Folder.write_incompleteName filing d.id (Blob.content d)
  have opened : stage Device.sound (filed shown folder) (.put d) =
      (filed shown folder, .ok (.inl (.writeBlob d))) := rfl
  unfold put perform
  cases long : Folder.isTooLong (Blob.incompleteName d.id) with
  | true =>
    rw [if_pos long] at written
    have refused : stage Device.sound (filed shown folder) (.writeBlob d) =
        (filed shown folder, .error (.io .nameTooLong)) := by
      rw [stage, inFolder_filed_error (.write _ _) written]
    rw [stagesLeft, advance_of_inl opened, advance_of_error refused]
    rfl
  | false =>
    rw [if_neg (by rw [long]; exact Bool.false_ne_true)] at written
    have named := Folder.rename_incompleteName filing long (Blob.content d)
    have wrote : stage Device.sound (filed shown folder) (.writeBlob d) =
        (filed shown (folder.insert (Blob.incompleteName d.id) (.file (Blob.content d))),
          .ok (.inl (.nameBlob d))) := by
      rw [stage, inFolder_filed_ok (.write _ _) written]
    have renamed : stage Device.sound
        (filed shown (folder.insert (Blob.incompleteName d.id) (.file (Blob.content d))))
          (.nameBlob d) =
        (filed shown (folder.insert (Blob.name d.id) (.file (Blob.content d))),
          .ok (.inl (.shelve d))) := by
      rw [stage]
      simp only [inFolder_filed_ok (.rename _ _) named]
    have shelved : stage Device.sound
        (filed shown (folder.insert (Blob.name d.id) (.file (Blob.content d)))) (.shelve d) =
        (filed (Shelf.add shown d) (folder.insert (Blob.name d.id) (.file (Blob.content d))),
          .ok (.inr true)) := rfl
    rw [stagesLeft, advance_of_inl opened, advance_of_inl wrote, advance_of_inl renamed,
      advance_of_inr shelved]
    rfl

/-- On a sound device a dataset is deleted unless its blob has too long a name. -/
theorem delete_filed (filing : folder.IsFiling datasets) (id : String) :
    (filed datasets folder).delete Device.sound id =
      if datasets.contains id then
        if Folder.isTooLong (Blob.name id) then
          (filed datasets folder, .error (.io .nameTooLong))
        else (filed (datasets.erase id) (folder.erase (Blob.name id)), .ok true)
      else (filed datasets folder, .ok false) := by
  have looked : (filed datasets folder).shelf.contains id = .ok (datasets.contains id) := rfl
  unfold delete perform
  cases held : datasets.contains id with
  | false =>
    rw [held] at looked
    have absent : stage Device.sound (filed datasets folder) (.delete id) =
        (filed datasets folder, .ok (.inr false)) := by
      rw [stage, looked]
      rfl
    rw [stagesLeft, advance_of_inr absent]
    rfl
  | true =>
    rw [held] at looked
    have removed := Folder.remove_name filing held
    have present : stage Device.sound (filed datasets folder) (.delete id) =
        (filed datasets folder, .ok (.inl (.removeBlob id))) := by
      rw [stage, looked]
      rfl
    cases long : Folder.isTooLong (Blob.name id) with
    | true =>
      rw [if_pos long] at removed
      have refused : stage Device.sound (filed datasets folder) (.removeBlob id) =
          (filed datasets folder, .error (.io .nameTooLong)) := by
        rw [stage, inFolder_filed_error (.remove _) removed]
      rw [stagesLeft, advance_of_inl present, advance_of_error refused]
      rfl
    | false =>
      rw [if_neg (by rw [long]; exact Bool.false_ne_true)] at removed
      have gone : stage Device.sound (filed datasets folder) (.removeBlob id) =
          (filed datasets (folder.erase (Blob.name id)), .ok (.inl (.unshelve id))) := by
        rw [stage, inFolder_filed_ok (.remove _) removed]
      have unshelved : stage Device.sound (filed datasets (folder.erase (Blob.name id)))
          (.unshelve id) =
          (filed (datasets.erase id) (folder.erase (Blob.name id)), .ok (.inr true)) := by
        rw [← held]
        rfl
      rw [stagesLeft, advance_of_inl present, advance_of_inl gone, advance_of_inr unshelved]
      rfl

/-- A store that is opened on a folder of blobs holds what their datasets are read as. -/
theorem onFolder_eq (filing : folder.IsFiling datasets)
    (stored : ∀ id d, datasets.get? id = some d → d.id = id ∧ id ≠ "" ∧ d.IsStorable)
    (device : Device) :
    onFolder device folder = (folder, .ok (filed (datasets.map Dataset.reread) folder)) := by
  obtain ⟨files, entries, held⟩ := Folder.exists_map_file_eq_entries filing fun id d found =>
    (stored id d found).1
  have collected : Blob.collect device folder [] folder.entries =
      (folder, .ok (files.map Dataset.reread)) := by
    rw [entries]
    exact Blob.collect_files device folder [] files fun d member =>
      (stored d.id d (held d member)).2
  have distinct : ((files.map Dataset.reread).map Dataset.id).Nodup := by
    have names := folder.keys_nodup
    have named : files.map (Prod.fst ∘ Blob.file) =
        ((files.map Dataset.reread).map Dataset.id).map Blob.name := by
      simp only [List.map_map]
      rfl
    rw [Keyed.keys, entries, List.map_map, named] at names
    exact names.of_map _
  have datasetsEq : (Shelf.ofDatasets (files.map Dataset.reread)).datasets =
      datasets.map Dataset.reread := by
    ext id d
    rw [Shelf.get?_ofDatasets distinct, Keyed.get?_map, Option.map_eq_some_iff]
    constructor
    · rintro ⟨member, own⟩
      obtain ⟨original, kept, rfl⟩ := List.mem_map.1 member
      exact ⟨original, by rw [← own]; exact held original kept, rfl⟩
    · rintro ⟨original, found, rfl⟩
      have own := (stored id original found).1
      have filedItem : folder.get? (Blob.name id) = some (.file (Blob.content original)) := by
        rw [filing.blobs, found, Option.map_some]
      have entry := Keyed.mem_entries_iff.2 filedItem
      rw [entries] at entry
      obtain ⟨file, member, same⟩ := List.mem_map.1 entry
      have sameId : file.id = id := Blob.name_injective (congrArg Prod.fst same)
      have isOriginal := held file member
      rw [sameId, found] at isOriginal
      obtain rfl := Option.some.inj isOriginal
      exact ⟨List.mem_map_of_mem member, own⟩
  rw [onFolder, collected]
  simp only [filed, ← datasetsEq]
  rfl

end Store
end Campus
