import Campus.Proofs.Store.Clearing
import Campus.Proofs.Store.Keys
import Campus.Proofs.Store.Stages
/-!
# Deletions and what is opened afterwards

A store that is opened on a folder takes the id of a dataset from the content of a blob, whatever
the blob's name is, but a deletion removes the file that is named after the id. So a store that is
opened after a deletion lists what the blobs of other names spell. The deleted id is among it
exactly if one of these blobs spells it too; where every blob has the name of its dataset, the id is
gone.
-/

namespace Campus

namespace Folder

variable {device : Device} {folder left : Folder} {name : String}

/-- A removal that fails leaves the folder as it is; it does not find a file that is not there. -/
theorem eq_of_not_removed {fault : FileFault}
    (failed : folder.perform device (.remove name) = (left, .error fault)) :
    left = folder ∧ (fault = .notFound → folder.get? name = none) := by
  unfold perform at failed
  split at failed
  · cases failed
    exact ⟨rfl, fun impossible => by cases impossible⟩
  · simp only [Folder.after, remove] at failed
    cases found : folder.read name with
    | ok content =>
      rw [found] at failed
      cases failed
    | error reason =>
      rw [found] at failed
      cases failed
      refine ⟨rfl, fun absent => ?_⟩
      rw [absent, read] at found
      split at found
      · cases found
      · split at found
        · cases found
        · cases found
        · next nothing => exact nothing

end Folder

namespace Blob

/-- An item of a folder is a blob that spells a dataset. -/
structure Spells (entry : String × FolderItem) (d : Dataset) : Prop where
  isBlob : isBlob entry.1 = true
  content : ∃ bytes, entry.2 = .file bytes ∧ Dataset.parse? bytes = some d

/-- What is incomplete spells nothing. -/
theorem Spells.isIncomplete {entry : String × FolderItem} {d : Dataset} (spells : Spells entry d) :
    isIncomplete entry.1 = false :=
  isIncomplete_eq_false_of_isBlob spells.isBlob

variable {device : Device} {folder left after : Folder} {before taken datasets : List Dataset}
  {entry : String × FolderItem} {items : List (String × FolderItem)} {d : Dataset}

namespace Takes

/-- An item adds the dataset that it spells. -/
theorem mem_iff (takes : Takes device folder before entry left taken) :
    d ∈ taken ↔ d ∈ before ∨ Spells entry d := by
  cases takes with
  | incomplete incomplete removed =>
    refine (or_iff_left fun spells : Spells _ d => ?_).symm
    have complete := spells.isIncomplete
    rw [incomplete] at complete
    cases complete
  | @blob name bytes spelled blob parsed =>
    have own : Spells (name, .file bytes) d ↔ d = spelled := by
      constructor
      · rintro ⟨-, _, ⟨⟩, found⟩
        exact Option.some.inj (found.symm.trans parsed)
      · rintro rfl
        exact ⟨blob, bytes, rfl, parsed⟩
    rw [own, List.mem_append, List.mem_singleton]
  | other complete notBlob =>
    refine (or_iff_left fun spells : Spells _ d => ?_).symm
    have blob := spells.isBlob
    rw [notBlob] at blob
    cases blob

/-- A blob that is taken in spells a dataset. -/
theorem exists_spells (takes : Takes device folder before entry left taken)
    (blob : isBlob entry.1 = true) : ∃ d, Spells entry d := by
  cases takes with
  | incomplete incomplete removed =>
    rw [isIncomplete_eq_false_of_isBlob blob] at incomplete
    cases incomplete
  | blob _ parsed => exact ⟨_, blob, _, rfl, parsed⟩
  | other complete notBlob =>
    rw [blob] at notBlob
    cases notBlob

end Takes

/-- The datasets that are taken in are those that the blobs spell. -/
theorem mem_of_collect_iff
    (collected : collect device folder before items = (after, .ok datasets)) :
    d ∈ datasets ↔ d ∈ before ∨ ∃ entry ∈ items, Spells entry d := by
  induction items generalizing folder before with
  | nil =>
    cases collected
    simp
  | cons entry rest ih =>
    obtain ⟨left, taken, takes, others⟩ := collect_cons_eq_ok_iff.1 collected
    rw [ih others, takes.mem_iff, List.exists_mem_cons_iff, or_assoc]

/-- Where all items of a folder are taken in, every blob among them spells a dataset. -/
theorem exists_spells_of_collect
    (collected : collect device folder before items = (after, .ok datasets))
    (member : entry ∈ items) (blob : isBlob entry.1 = true) : ∃ d, Spells entry d := by
  induction items generalizing folder before with
  | nil => cases member
  | cons first rest ih =>
    obtain ⟨left, taken, takes, others⟩ := collect_cons_eq_ok_iff.1 collected
    rcases List.mem_cons.1 member with rfl | later
    · exact takes.exists_spells blob
    · exact ih others later

/-- Where nothing is incomplete and every blob spells a dataset, all items are taken in on any
device, and the folder stays as it is. -/
theorem exists_collect_of_spells
    (complete : ∀ entry ∈ items, isIncomplete entry.1 = false)
    (legible : ∀ entry ∈ items, isBlob entry.1 = true → ∃ d, Spells entry d)
    (device : Device) (folder : Folder) (before : List Dataset) :
    ∃ datasets, collect device folder before items = (folder, .ok datasets) := by
  induction items generalizing before with
  | nil => exact ⟨before, rfl⟩
  | cons entry rest ih =>
    obtain ⟨name, item⟩ := entry
    obtain ⟨completeFirst, completeRest⟩ := List.forall_mem_cons.1 complete
    obtain ⟨legibleFirst, legibleRest⟩ := List.forall_mem_cons.1 legible
    obtain ⟨taken, takes⟩ : ∃ taken, Takes device folder before (name, item) folder taken := by
      cases blob : isBlob name with
      | false => exact ⟨before, .other completeFirst blob⟩
      | true =>
        obtain ⟨d, -, bytes, rfl, parsed⟩ := legibleFirst blob
        exact ⟨before ++ [d], .blob blob parsed⟩
    obtain ⟨datasets, others⟩ := ih completeRest legibleRest taken
    exact ⟨datasets, collect_cons_eq_ok_iff.2 ⟨folder, taken, takes, others⟩⟩

end Blob

namespace Folder

/-- A folder has a blob of some name that spells a dataset. -/
def Spells (folder : Folder) (name : String) (d : Dataset) : Prop :=
  ∃ item, folder.get? name = some item ∧ Blob.Spells (name, item) d

/-- A folder without incomplete files in which every blob spells a dataset. -/
structure IsLegible (folder : Folder) : Prop where
  complete : ∀ name item, folder.get? name = some item → Blob.isIncomplete name = false
  legible : ∀ name item, folder.get? name = some item → Blob.isBlob name = true →
    ∃ d, Blob.Spells (name, item) d

variable {folder : Folder}

/-- Without one of its files a folder is as legible. -/
theorem IsLegible.erase (legible : folder.IsLegible) (name : String) :
    IsLegible (folder.erase name) := by
  have kept {other : String} {item : FolderItem}
      (found : Keyed.get? (folder.erase name) other = some item) :
      folder.get? other = some item := by
    rw [Keyed.get?_erase] at found
    split at found
    · cases found
    · exact found
  exact ⟨fun other item found => legible.complete other item (kept found),
    fun other item found => legible.legible other item (kept found)⟩

/-- Without one of its files a folder spells what the others spell. -/
theorem spells_erase_iff {name other : String} {d : Dataset} :
    Spells (folder.erase name) other d ↔ other ≠ name ∧ folder.Spells other d := by
  unfold Spells
  rw [Keyed.get?_erase]
  by_cases same : other = name
  · simp [same]
  · simp [same]

/-- Without its incomplete files a folder spells the same datasets. -/
theorem spells_complete_iff {name : String} {d : Dataset} :
    folder.complete.Spells name d ↔ folder.Spells name d := by
  constructor
  · rintro ⟨item, found, spells⟩
    exact ⟨item, (Keyed.get?_filterKeys_eq_some_iff.1 found).1, spells⟩
  · rintro ⟨item, found, spells⟩
    exact ⟨item, Keyed.get?_filterKeys_eq_some_iff.2 ⟨found, by rw [spells.isIncomplete]; rfl⟩,
      spells⟩

end Folder

namespace StoreWrite

variable {device : Device} {folder : Folder} {store after : Store} {id : String} {found : Bool}

/-- A write that ends well ends with its next stage or goes on from there. -/
theorem advance_eq_ok_iff {stages : Nat} {write : StoreWrite} :
    advance device (stages + 1) store write = (after, .ok (.inr found)) ↔
      stage device store write = (after, .ok (.inr found)) ∨
        ∃ middle next, stage device store write = (middle, .ok (.inl next)) ∧
          advance device stages middle next = (after, .ok (.inr found)) := by
  rw [advance]
  split
  · next middle next step => simp [step]
  · next finished =>
    refine (or_iff_left ?_).symm
    rintro ⟨middle, next, goesOn, -⟩
    exact finished middle next goesOn

/-- A deletion in a folder first looks whether the dataset is there. -/
theorem stage_delete (hasFolder : store.folder = some folder) :
    stage device store (.delete id) = (store, (store.shelf.contains id).map fun found =>
      if found then .inl (.removeBlob id) else .inr false) := by
  rw [stage, hasFolder]
  cases store.shelf.contains id with
  | error error => rfl
  | ok found => cases found <;> rfl

/-- A removal of a blob that does not fail leaves the folder without it, whether it was there or
not. -/
theorem folder_of_removeBlob {outcome : StoreWrite ⊕ Bool} (hasFolder : store.folder = some folder)
    (removed : stage device store (.removeBlob id) = (after, .ok outcome)) :
    after.folder = some (folder.erase (Blob.name id)) ∧ outcome = .inl (.unshelve id) := by
  simp only [stage, inFolder, hasFolder] at removed
  cases performed : folder.perform device (.remove (Blob.name id)) with
  | mk left result =>
    rw [performed] at removed
    cases result with
    | ok done =>
      cases removed
      exact ⟨congrArg some (Folder.eq_erase_of_removed performed), rfl⟩
    | error fault =>
      obtain ⟨same, absent⟩ := Folder.eq_of_not_removed performed
      cases fault with
      | notFound =>
        cases removed
        have isAbsent : folder.contains (Blob.name id) = false := by
          rw [Keyed.contains, absent rfl]
          rfl
        rw [Keyed.erase_of_contains_eq_false isAbsent]
        exact ⟨congrArg some same, rfl⟩
      | _ => cases removed

/-- After a deletion that finds its dataset the file with the name of the dataset is gone, and no
other. -/
theorem folder_of_perform_delete (hasFolder : store.folder = some folder)
    (deleted : perform device store (.delete id) = (after, .ok true)) :
    after.folder = some (folder.erase (Blob.name id)) := by
  have advanced : advance device 3 store (.delete id) = (after, .ok (.inr true)) := by
    have ended := advance_eq_perform device store (.delete id)
    rwa [deleted] at ended
  have advanced : advance device 2 store (.removeBlob id) = (after, .ok (.inr true)) := by
    rw [advance_eq_ok_iff, stage_delete hasFolder] at advanced
    generalize store.shelf.contains id = looked at advanced
    rcases looked with error | _ | _
    · simp [Except.map] at advanced
    · simp [Except.map] at advanced
    · simpa [Except.map] using advanced
  rcases advance_eq_ok_iff.1 advanced with impossible | ⟨middle, unshelving, removed, advanced⟩
  · cases (folder_of_removeBlob hasFolder impossible).2
  obtain ⟨gone, isNext⟩ := folder_of_removeBlob hasFolder removed
  cases isNext
  rcases advance_eq_ok_iff.1 advanced with unshelved | ⟨last, nothing, unshelved, -⟩
  · simp only [stage] at unshelved
    split at unshelved <;> cases unshelved
    exact gone
  · simp only [stage] at unshelved
    split at unshelved <;> cases unshelved

end StoreWrite

namespace Shelf

variable {datasets : List Dataset} {id : String} {d : Dataset}

/-- What stands on a shelf of some datasets is one of them, under its own id. -/
theorem mem_of_get?_ofDatasets (found : (ofDatasets datasets).datasets.get? id = some d) :
    d ∈ datasets ∧ d.id = id := by
  rw [datasets_ofDatasets, Keyed.get?_ofList] at found
  obtain ⟨source, member, same⟩ := List.mem_map.1 (List.mem_reverse.1 (Entries.mem_of_get? found))
  cases same
  exact ⟨member, rfl⟩

/-- On a shelf of some datasets something stands under each of their ids. -/
theorem exists_get?_ofDatasets (member : d ∈ datasets) :
    ∃ found, (ofDatasets datasets).datasets.get? d.id = some found := by
  rw [← Option.isSome_iff_exists, ← Keyed.mem_keys_iff, datasets_ofDatasets,
    Keyed.mem_keys_ofList_iff, List.map_map]
  exact List.mem_map.2 ⟨d, member, rfl⟩

end Shelf

namespace Store

variable {device : Device} {folder cleared : Folder} {store after : Store} {id : String}

/-- Every blob of a folder that a store is opened on spells a dataset; what is on the shelf is
spelled by blobs, and every id that a blob spells is there. -/
theorem get?_of_onFolder (opened : onFolder device folder = (cleared, .ok store)) :
    (∀ name item, folder.get? name = some item → Blob.isBlob name = true →
        ∃ d, folder.Spells name d) ∧
      (∀ id d, store.get? id = .ok (some d) → d.id = id ∧ ∃ name, folder.Spells name d) ∧
      ∀ name d, folder.Spells name d → ∃ found, store.get? d.id = .ok (some found) := by
  unfold onFolder at opened
  split at opened
  rotate_left
  · cases opened
  next datasets collected =>
  cases opened
  have spelled (d : Dataset) : d ∈ datasets ↔ ∃ name, folder.Spells name d := by
    rw [Blob.mem_of_collect_iff collected]
    constructor
    · rintro (impossible | ⟨entry, member, spells⟩)
      · cases impossible
      · exact ⟨entry.1, entry.2, Keyed.mem_entries_iff.1 member, spells⟩
    · rintro ⟨name, item, found, spells⟩
      exact .inr ⟨_, Keyed.mem_entries_iff.2 found, spells⟩
  have looked (id : String) (found : Option Dataset) :
      get? ⟨.ofDatasets datasets, some cleared⟩ id = .ok found ↔
        (Shelf.ofDatasets datasets).datasets.get? id = found := by
    rw [Store.get?, Shelf.get?_eq_ok_iff]
    exact and_iff_right rfl
  simp only [looked]
  refine ⟨fun name item found blob => ?_, ?_, ?_⟩
  · obtain ⟨d, spells⟩ :=
      Blob.exists_spells_of_collect collected (Keyed.mem_entries_iff.2 found) blob
    exact ⟨d, item, found, spells⟩
  · intro id d found
    obtain ⟨member, own⟩ := Shelf.mem_of_get?_ofDatasets found
    exact ⟨own, (spelled d).1 member⟩
  · exact fun name d spells => Shelf.exists_get?_ofDatasets ((spelled d).2 ⟨name, spells⟩)

/-- A store that is opened on a folder: it lists what the blobs spell, and what is left of the
folder is legible. -/
structure IsOpening (folder cleared : Folder) (store : Store) : Prop where
  hasFolder : store.folder = some cleared
  isComplete : cleared = folder.complete
  isLegible : cleared.IsLegible
  lists : ∃ listed, store.list = .ok listed ∧ ∀ id,
    id ∈ listed.map DatasetSummary.id ↔ ∃ name d, folder.Spells name d ∧ d.id = id

/-- What a store is that can be opened. -/
theorem isOpening_of_onFolder (opened : onFolder device folder = (cleared, .ok store)) :
    IsOpening folder cleared store := by
  obtain ⟨spelled, own, covered⟩ := get?_of_onFolder opened
  have keyed := isKeyed_of_onFolder opened
  unfold onFolder at opened
  split at opened
  rotate_left
  · cases opened
  next datasets collected =>
  cases opened
  have isCleared := Folder.eq_complete (Blob.get?_of_collect collected)
  refine ⟨rfl, isCleared, ⟨fun name item found => ?_, fun name item found blob => ?_⟩,
    _, Shelf.list_eq_ok_iff.2 ⟨rfl, rfl⟩, fun id => ?_⟩
  · rw [isCleared] at found
    simpa using (Keyed.get?_filterKeys_eq_some_iff.1 found).2
  · rw [isCleared] at found
    have before := (Keyed.get?_filterKeys_eq_some_iff.1 found).1
    obtain ⟨d, _, same, spells⟩ := spelled name item before blob
    rw [before] at same
    exact ⟨d, Option.some.inj same ▸ spells⟩
  · rw [Shelf.ids_of_list keyed (Shelf.list_eq_ok_iff.2 ⟨rfl, rfl⟩), Keyed.mem_keys_iff,
      Option.isSome_iff_exists]
    constructor
    · rintro ⟨d, held⟩
      obtain ⟨sameId, name, spells⟩ := own id d (Shelf.get?_eq_ok_iff.2 ⟨rfl, held⟩)
      exact ⟨name, d, spells, sameId⟩
    · rintro ⟨name, d, spells, rfl⟩
      obtain ⟨found, isFound⟩ := covered name d spells
      exact ⟨found, (Shelf.get?_eq_ok_iff.1 isFound).2⟩

/-- A legible folder can be opened on any device, and opening leaves it as it is. -/
theorem exists_onFolder_of_isLegible (legible : folder.IsLegible) (device : Device) :
    ∃ store, onFolder device folder = (folder, .ok store) := by
  obtain ⟨datasets, collected⟩ := Blob.exists_collect_of_spells
    (fun entry member => legible.complete entry.1 entry.2 (Keyed.mem_entries_iff.1 member))
    (fun entry member => legible.legible entry.1 entry.2 (Keyed.mem_entries_iff.1 member))
    device folder []
  exact ⟨_, by rw [onFolder, collected]⟩

/-- On whatever device a folder is opened, a dataset deleted and the folder opened again, the second
opening succeeds and lists the ids that blobs spell whose name is not the one of the deleted
dataset. So the deleted id is listed again exactly if a blob under another name spells it. -/
theorem list_after_delete (opened : onFolder device folder = (cleared, .ok store))
    {deleting : Device} (deleted : store.delete deleting id = (after, .ok true))
    (reopening : Device) :
    ∃ left reopened listed, after.folder = some left ∧
      onFolder reopening left = (left, .ok reopened) ∧ reopened.list = .ok listed ∧
      ∀ other, other ∈ listed.map DatasetSummary.id ↔
        ∃ name d, folder.Spells name d ∧ name ≠ Blob.name id ∧ d.id = other := by
  have opening := isOpening_of_onFolder opened
  have hasFolder := StoreWrite.folder_of_perform_delete opening.hasFolder deleted
  obtain ⟨reopened, again⟩ :=
    exists_onFolder_of_isLegible (opening.isLegible.erase (Blob.name id)) reopening
  obtain ⟨listed, isListed, lists⟩ := (isOpening_of_onFolder again).lists
  refine ⟨_, reopened, listed, hasFolder, again, isListed, fun other => ?_⟩
  rw [lists, opening.isComplete]
  simp only [Folder.spells_erase_iff, Folder.spells_complete_iff]
  constructor
  · rintro ⟨name, d, ⟨differs, spells⟩, own⟩
    exact ⟨name, d, spells, differs, own⟩
  · rintro ⟨name, d, spells, differs, own⟩
    exact ⟨name, d, ⟨differs, spells⟩, own⟩

deriving instance DecidableEq for Shelf, Store

/-- The blob of a dataset of rooms that has no records. -/
def emptyBlob (id : String) : FolderItem := .file (Blob.content (.ofRecords id .rooms []))

/-- A folder with the blobs of two datasets, and a copy of one of them under another name. -/
def folderWithCopy : Folder :=
  .ofList [(Blob.name "labs", emptyBlob "labs"), (Blob.name "rooms", emptyBlob "rooms"),
    ("copy.json", emptyBlob "rooms")]

/-- The store that is opened on the folder. -/
def storeWithCopy : Store :=
  ⟨.ofDatasets [.ofRecords "labs" .rooms [], .ofRecords "rooms" .rooms []], some folderWithCopy⟩

/-- The dataset with the copy is deleted and is listed again. -/
theorem list_after_delete_storeWithCopy :
    ∃ left reopened listed, (storeWithCopy.delete Device.sound "rooms").1.folder = some left ∧
      onFolder Device.sound left = (left, .ok reopened) ∧ reopened.list = .ok listed ∧
      "rooms" ∈ listed.map DatasetSummary.id := by
  have opened : onFolder Device.sound folderWithCopy = (folderWithCopy, .ok storeWithCopy) := by
    decide +kernel
  have deleted : (storeWithCopy.delete Device.sound "rooms").2 = .ok true := by decide +kernel
  have copied : folderWithCopy.Spells "copy.json" (.ofRecords "rooms" .rooms []) :=
    ⟨emptyBlob "rooms", by decide +kernel, by decide +kernel, _, rfl, by decide +kernel⟩
  obtain ⟨left, reopened, listed, hasFolder, again, isListed, lists⟩ :=
    list_after_delete opened (Prod.ext rfl deleted) Device.sound
  exact ⟨left, reopened, listed, hasFolder, again, isListed,
    (lists "rooms").2 ⟨"copy.json", _, copied, by decide +kernel, rfl⟩⟩

/-- So an id that was listed and has been deleted may be listed again by the next store. -/
theorem relisted_storeWithCopy :
    onFolder Device.sound folderWithCopy = (folderWithCopy, .ok storeWithCopy) ∧
      storeWithCopy.list = .ok [⟨"labs", .rooms, 0⟩, ⟨"rooms", .rooms, 0⟩] ∧
      (storeWithCopy.delete Device.sound "rooms").2 = .ok true ∧
      let left := (storeWithCopy.delete Device.sound "rooms").1.folder.getD ∅
      (onFolder Device.sound left).2.bind list =
        .ok [⟨"labs", .rooms, 0⟩, ⟨"rooms", .rooms, 0⟩] := by
  decide +kernel

end Store
end Campus
