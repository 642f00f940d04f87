import Campus.Proofs.Store.Deletion
import Campus.Proofs.Store.Progress
/-!
# What a write does to the JSON files

In any folder, whatever else is in it, one stage of a write changes the JSON files: the one that
gives a blob its name, or the one that removes a blob. The stages before it leave them as they were,
and the stages after it leave them as the whole write does, also when they fail because the store
has been closed. What a store that is opened later has on its shelf depends on the JSON files only.
-/

namespace Campus

namespace Folder

variable {folder left : Folder} {device : Device}

/-- A file that is no JSON file may be made. -/
theorem jsonFiles_insert_incompleteName (folder : Folder) (id : String) (item : FolderItem) :
    jsonFiles (folder.insert (Blob.incompleteName id) item) = folder.jsonFiles := by
  rw [jsonFiles, Keyed.filterKeys_insert, Blob.isJson_incompleteName, if_neg Bool.false_ne_true]
  rfl

/-- A file that is no JSON file may be removed. -/
theorem jsonFiles_erase_incompleteName (folder : Folder) (id : String) :
    jsonFiles (folder.erase (Blob.incompleteName id)) = folder.jsonFiles := by
  rw [jsonFiles, Keyed.filterKeys_erase, Blob.isJson_incompleteName, if_neg Bool.false_ne_true]
  rfl

/-- A blob is one of the JSON files. -/
theorem jsonFiles_insert_name (folder : Folder) (id : String) (item : FolderItem) :
    jsonFiles (folder.insert (Blob.name id) item) =
      folder.jsonFiles.insert (Blob.name id) item := by
  rw [jsonFiles, Keyed.filterKeys_insert, Blob.isJson_name, if_pos rfl]
  rfl

/-- Without a blob there is one JSON file less. -/
theorem jsonFiles_erase_name (folder : Folder) (id : String) :
    jsonFiles (folder.erase (Blob.name id)) = folder.jsonFiles.erase (Blob.name id) := by
  rw [jsonFiles, Keyed.filterKeys_erase, Blob.isJson_name, if_pos rfl]
  rfl

/-- What a step leaves that writes a blob under its incomplete name, and what it has written if it
does not fail. -/
theorem jsonFiles_perform_write (device : Device) (folder : Folder) (id : String)
    (content : List UInt8) :
    let ended := folder.perform device (.write (Blob.incompleteName id) content)
    ended.1.jsonFiles = folder.jsonFiles ∧
      (ended.2 = .ok () → ended.1.get? (Blob.incompleteName id) = some (.file content)) := by
  unfold perform
  cases device (.write (Blob.incompleteName id) content) with
  | some mishap =>
    refine ⟨?_, fun impossible => by cases impossible⟩
    rcases leftBy_eq folder mishap (.write (Blob.incompleteName id) content) with
      same | ⟨name, whole, kept, isWrite, made⟩
    · exact congrArg jsonFiles same
    · cases isWrite
      exact (congrArg jsonFiles made).trans (jsonFiles_insert_incompleteName folder id _)
  | none =>
    cases written : folder.after (.write (Blob.incompleteName id) content) with
    | error fault => exact ⟨rfl, fun impossible => by cases impossible⟩
    | ok changed =>
      obtain ⟨-, rfl⟩ := eq_insert_of_write written
      exact ⟨jsonFiles_insert_incompleteName folder id _, fun _ =>
        (Keyed.get?_insert ..).trans (if_pos rfl)⟩

/-- Renaming a written blob makes it one of the JSON files, or changes nothing. -/
theorem perform_rename_cases (device : Device) {id : String} {content : List UInt8}
    (written : folder.get? (Blob.incompleteName id) = some (.file content)) :
    let ended := folder.perform device (.rename (Blob.incompleteName id) (Blob.name id))
    (ended.2 = .ok () ∧
        ended.1.jsonFiles = folder.jsonFiles.insert (Blob.name id) (.file content)) ∨
      ∃ fault, ended = (folder, .error fault) := by
  unfold perform
  cases device (.rename (Blob.incompleteName id) (Blob.name id)) with
  | some mishap => exact .inr ⟨.device, rfl⟩
  | none =>
    simp only [after, rename]
    cases found : folder.read (Blob.incompleteName id) with
    | error fault => exact .inr ⟨fault, rfl⟩
    | ok read =>
      obtain rfl : read = content := by
        unfold Folder.read at found
        rw [written] at found
        split at found
        · cases found
        · exact (Except.ok.inj found).symm
      simp only [bind, Except.bind]
      cases renamed : write (folder.erase (Blob.incompleteName id)) (Blob.name id) read with
      | error fault => exact .inr ⟨fault, rfl⟩
      | ok changed =>
        obtain ⟨-, rfl⟩ := eq_insert_of_write renamed
        refine .inl ⟨rfl, ?_⟩
        rw [jsonFiles_insert_name, jsonFiles_erase_incompleteName]

/-- Clearing away what is left of a blob leaves the JSON files. -/
theorem jsonFiles_perform_discard (device : Device) (folder : Folder) (id : String) :
    (folder.perform device (.remove (Blob.incompleteName id))).1.jsonFiles = folder.jsonFiles := by
  rcases perform_discard device folder id with same | erased
  · rw [same]
  · rw [erased, jsonFiles_erase_incompleteName]

end Folder

/-! ## What is opened later -/

namespace Folder

variable {before folder : Folder}

/-- What file steps in a folder leave: items of it, and files whose names are short enough. -/
def Stems (before left : Folder) : Prop :=
  ∀ name item, left.get? name = some item →
    before.get? name = some item ∨ (isTooLong name = false ∧ ∃ content, item = .file content)

/-- Without any step the items are the same. -/
theorem Stems.refl (folder : Folder) : folder.Stems folder := fun _ _ found => .inl found

/-- One more file step. -/
theorem Stems.perform (stems : before.Stems folder) (device : Device) (step : FileStep) :
    before.Stems (folder.perform device step).1 := by
  refine perform_induction (P := before.Stems) (fun folder name content stems fits => ?_)
    (fun folder name stems => ?_) stems device step
  · intro other item found
    rw [Keyed.get?_insert] at found
    split at found
    · next same =>
      cases found
      exact .inr ⟨same ▸ fits, content, rfl⟩
    · exact stems other item found
  · intro other item found
    rw [Keyed.get?_erase] at found
    split at found
    · cases found
    · exact stems other item found

end Folder

namespace Blob

variable {device : Device} {folder after : Folder} {before datasets : List Dataset}
  {items : List (String × FolderItem)}

/-- A blob is a JSON file by its name. -/
theorem isJson_of_isBlob {name : String} (blob : isBlob name = true) : isJson name = true := by
  rw [isBlob, Bool.and_eq_true, beq_iff_eq] at blob
  have extension := blob.2
  unfold extension? at extension
  dsimp only at extension
  split at extension
  rotate_left
  · cases extension
  next longer =>
  have last := congrArg String.toList (Option.some.inj extension)
  rw [String.toList_ofList] at last
  have parts := List.takeWhile_append_dropWhile (p := (· != '.')) (l := name.toList.reverse)
  cases before : name.toList.reverse.dropWhile (· != '.') with
  | nil =>
    -- the last point would be missing, but there is a character before the extension
    rw [before, List.append_nil] at parts
    rw [parts, List.length_reverse, List.length_reverse] at longer
    omega
  | cons c front =>
    have point : c = '.' := by
      have head := List.head?_dropWhile_not (fun c => c != '.') name.toList.reverse
      rw [before] at head
      simpa using head
    have chars := congrArg List.reverse parts
    rw [List.reverse_append, last, before, List.reverse_reverse, List.reverse_cons, point] at chars
    rw [isJson, List.isSuffixOf_iff_suffix]
    exact ⟨front.reverse, by rw [← chars, List.append_assoc]; rfl⟩

/-- An incomplete file is no JSON file by its name. -/
theorem isJson_of_isIncomplete {name : String} (incomplete : isIncomplete name = true) :
    isJson name = false := by
  rw [isIncomplete, List.isSuffixOf_iff_suffix] at incomplete
  rw [← Bool.not_eq_true, isJson, List.isSuffixOf_iff_suffix]
  intro json
  have both := List.suffix_of_suffix_length_le json incomplete (by decide)
  revert both
  decide

/-- What is removed can be read. -/
theorem exists_read_of_removed {left : Folder} {name : String}
    (removed : folder.perform device (.remove name) = (left, .ok ())) :
    ∃ content, folder.read name = .ok content := by
  unfold Folder.perform at removed
  split at removed
  · cases removed
  · simp only [Folder.after, Folder.remove] at removed
    cases found : folder.read name with
    | error fault =>
      rw [found] at removed
      cases removed
    | ok content => exact ⟨content, rfl⟩

/-- Of the items that are taken in, those that are incomplete can be read. -/
theorem exists_read_of_collect (distinct : (items.map Prod.fst).Nodup)
    (collected : collect device folder before items = (after, .ok datasets)) :
    ∀ entry ∈ items, isIncomplete entry.1 = true →
      ∃ content, folder.read entry.1 = .ok content := by
  induction items generalizing folder before with
  | nil => intro _ impossible; cases impossible
  | cons first rest ih =>
    obtain ⟨fresh, distinctRest⟩ := List.nodup_cons.1 distinct
    obtain ⟨left, taken, takes, others⟩ := collect_cons_eq_ok_iff.1 collected
    intro entry member incomplete
    rcases List.mem_cons.1 member with rfl | later
    · cases takes with
      | incomplete _ removed => exact exists_read_of_removed removed
      | blob blob _ =>
        rw [isIncomplete_eq_false_of_isBlob blob] at incomplete
        cases incomplete
      | other complete _ =>
        rw [complete] at incomplete
        cases incomplete
    · obtain ⟨content, found⟩ := ih distinctRest others entry later incomplete
      have differs : entry.1 ≠ first.1 := fun same => fresh (List.mem_map.2 ⟨entry, later, same⟩)
      have kept : left.get? entry.1 = folder.get? entry.1 := by
        rw [takes.left_eq]
        split
        · rw [Keyed.get?_erase, if_neg differs]
        · rfl
      rw [Folder.read, kept] at found
      exact ⟨content, found⟩

/-- The blobs among the items that are taken in give the same datasets by themselves. -/
theorem collect_blobs_of_collect
    (collected : collect device folder before items = (after, .ok datasets)) (aside : Folder) :
    collect Device.sound aside before (items.filter fun entry => isBlob entry.1) =
      (aside, .ok datasets) := by
  induction items generalizing folder before with
  | nil =>
    cases collected
    rfl
  | cons first rest ih =>
    obtain ⟨left, taken, takes, others⟩ := collect_cons_eq_ok_iff.1 collected
    cases takes with
    | incomplete incomplete =>
      rw [List.filter_cons_of_neg (by simp [isBlob, incomplete])]
      exact ih others
    | blob blob parsed =>
      rw [List.filter_cons_of_pos (by exact blob)]
      exact collect_cons_eq_ok_iff.2 ⟨aside, _, .blob blob parsed, ih others⟩
    | other _ notBlob =>
      rw [List.filter_cons_of_neg (by simp [notBlob])]
      exact ih others

end Blob

namespace Folder

/-- Removing an incomplete file leaves the JSON files, also when it fails. -/
theorem jsonFiles_perform_remove (device : Device) (folder : Folder) {name : String}
    (incomplete : Blob.isIncomplete name = true) :
    (folder.perform device (.remove name)).1.jsonFiles = folder.jsonFiles := by
  cases performed : folder.perform device (.remove name) with
  | mk left outcome =>
    cases outcome with
    | error fault => rw [(eq_of_not_removed performed).1]
    | ok done =>
      rw [eq_erase_of_removed performed, jsonFiles, Keyed.filterKeys_erase,
        Blob.isJson_of_isIncomplete incomplete, if_neg Bool.false_ne_true]
      rfl

end Folder

namespace Store

variable {device : Device} {folder left cleared : Folder} {store : Store}

/-- Opening a store leaves the JSON files of its folder, also when it fails. -/
theorem jsonFiles_onFolder (device : Device) (folder : Folder) :
    (onFolder device folder).1.jsonFiles = folder.jsonFiles := by
  have kept : (Blob.collect device folder [] folder.entries).1.jsonFiles = folder.jsonFiles :=
    Blob.collect_induction (P := fun left : Folder => left.jsonFiles = folder.jsonFiles)
      (fun left _ _ incomplete same => (left.jsonFiles_perform_remove device incomplete).trans same)
      rfl
  unfold onFolder
  split <;> next collected => rwa [collected] at kept

/-- Folders with the same JSON files have the same blobs. -/
theorem blobs_eq_of_jsonFiles_eq (same : left.jsonFiles = folder.jsonFiles) :
    (left.entries.filter fun entry => Blob.isBlob entry.1) =
      folder.entries.filter fun entry => Blob.isBlob entry.1 := by
  have among (folder : Folder) : (folder.entries.filter fun entry => Blob.isBlob entry.1) =
      folder.jsonFiles.entries.filter fun entry => Blob.isBlob entry.1 := by
    rw [Folder.jsonFiles, Keyed.filterKeys, List.filter_filter]
    refine List.filter_congr fun entry _ => ?_
    cases blob : Blob.isBlob entry.1 with
    | false => rfl
    | true => rw [Blob.isJson_of_isBlob blob]; rfl
  rw [among left, same, ← among folder]

/-- Where a store can be opened on a folder, one with the same datasets can be opened on what file
steps leave of it that keep its JSON files. -/
theorem onFolder_of_jsonFiles_eq (opened : onFolder device folder = (cleared, .ok store))
    (stems : folder.Stems left) (same : left.jsonFiles = folder.jsonFiles) :
    ∃ after reopened, onFolder Device.sound left = (after, .ok reopened) ∧
      reopened.shelf = store.shelf := by
  unfold onFolder at opened
  split at opened
  rotate_left
  · cases opened
  next cleared datasets collected =>
  cases opened
  have blobs := Blob.collect_blobs_of_collect collected left
  rw [← blobs_eq_of_jsonFiles_eq same] at blobs
  have readable := Blob.exists_read_of_collect folder.keys_nodup collected
  have removable : ∀ entry ∈ left.entries, Blob.isIncomplete entry.1 = true →
      ∃ content, left.read entry.1 = .ok content := by
    rintro ⟨name, item⟩ member incomplete
    have found := Keyed.mem_entries_iff.1 member
    rcases stems name item found with old | ⟨short, content, rfl⟩
    · obtain ⟨content, read⟩ := readable (name, item) (Keyed.mem_entries_iff.2 old) incomplete
      rw [Folder.read, old, ← found] at read
      exact ⟨content, read⟩
    · refine ⟨content, ?_⟩
      rw [Folder.read, short, if_neg Bool.false_ne_true, found]
  obtain ⟨after, collectedLeft⟩ :=
    Blob.exists_collect_of_blobs left.keys_nodup removable blobs
  exact ⟨after, ⟨.ofDatasets datasets, some after⟩, by rw [onFolder, collectedLeft], rfl⟩

end Store

/-! ## The stages of a write -/

/-- The JSON files in the folder of a store, if it has one. -/
def Store.jsonFiles? (store : Store) : Option (Keyed FolderItem) :=
  store.folder.map Folder.jsonFiles

namespace StoreWrite

variable {device : Device} {store : Store} {json : Keyed FolderItem} {write : StoreWrite}

/-- Whether a write has found the store open. -/
def isPastCheck : StoreWrite → Bool
  | put _ | delete _ => false
  | writeBlob _ | nameBlob _ | shelve _ | removeBlob _ | unshelve _ => true

/-- The JSON files that a write is to lead to. -/
def persisted (json : Keyed FolderItem) : StoreWrite → Keyed FolderItem
  | put d | writeBlob d | nameBlob d | shelve d =>
    json.insert (Blob.name d.id) (.file (Blob.content d))
  | delete id | removeBlob id | unshelve id => json.erase (Blob.name id)

/-- The JSON files before a stage of a write, given those before the write. -/
def reached (json : Keyed FolderItem) (write : StoreWrite) : Keyed FolderItem :=
  match write with
  | shelve _ | unshelve _ => write.persisted json
  | put _ | writeBlob _ | nameBlob _ | delete _ | removeBlob _ => json

/-- A write to a store with a folder of which everything before some stage has been done, whether or
not the store has been closed meanwhile. -/
structure IsFiled (store : Store) (json : Keyed FolderItem) (write : StoreWrite) : Prop where
  files : store.jsonFiles? = some (write.reached json)
  written : ∀ d, write = .nameBlob d → store.incomplete? d.id = some (.file (Blob.content d))
  found : ∀ id, write = .removeBlob id ∨ write = .unshelve id →
    store.shelf.datasets.contains id = true

/-- A write that goes on with what another one has begun in a folder with some JSON files. -/
structure Continues (json : Keyed FolderItem) (first write : StoreWrite) : Prop where
  persisted : write.persisted json = first.persisted json
  finds : ∀ shelf, write.finds shelf = first.finds shelf

/-- A write goes on with itself. -/
theorem Continues.refl (json : Keyed FolderItem) (write : StoreWrite) :
    Continues json write write := ⟨rfl, fun _ => rfl⟩

/-- One write goes on after another. -/
theorem Continues.trans {first next : StoreWrite} (left : Continues json first write)
    (right : Continues json write next) : Continues json first next :=
  ⟨right.persisted.trans left.persisted, fun shelf => (right.finds shelf).trans (left.finds shelf)⟩

/-- What a stage of a write can come to. Only a closed store makes it fail without a fault, and a
write that is past its check has changed the JSON files by then; a fault leaves those from before
the write. -/
def FilesOf (store : Store) (json : Keyed FolderItem) (write : StoreWrite) (after : Store) :
    StageEnd → Prop
  | .ok (.inl next) =>
    after.shelf = store.shelf ∧ (write.isPastCheck = false → store.shelf.isClosed = false) ∧
      next.isPastCheck = true ∧ Continues json write next ∧ next.IsFiled after json
  | .ok (.inr found) =>
    store.shelf.isClosed = false ∧ after.shelf.isClosed = false ∧ found = write.finds store.shelf ∧
      after.jsonFiles? = some (if found then write.persisted json else json)
  | .error error =>
    after.shelf = store.shelf ∧
      ((error = .closed ∧ store.shelf.isClosed = true ∧
          after.jsonFiles? = some (if write.isPastCheck then write.persisted json else json)) ∨
        ((∃ fault, error = .io fault) ∧ after.jsonFiles? = some json))

/-- A closed store ends a write with the JSON files that it has led to so far. -/
theorem filesOf_closed (isClosed : store.shelf.isClosed = true)
    (files : store.jsonFiles? = some (if write.isPastCheck then write.persisted json else json)) :
    write.FilesOf store json store (.error .closed) :=
  ⟨rfl, .inl ⟨rfl, isClosed, files⟩⟩

section

variable {shelf : Shelf} {folder : Folder} {d : Dataset} {id : String}

/-- A blob under its incomplete name is no JSON file. -/
theorem filesOf_writeBlob (device : Device) (shelf : Shelf) (folder : Folder) (d : Dataset) :
    let ended := stage device ⟨shelf, some folder⟩ (writeBlob d)
    (writeBlob d).FilesOf ⟨shelf, some folder⟩ folder.jsonFiles ended.1 ended.2 := by
  obtain ⟨kept, holds⟩ := folder.jsonFiles_perform_write device d.id (Blob.content d)
  simp only [stage, inFolder]
  generalize folder.perform device _ = ended at kept holds
  obtain ⟨left, outcome⟩ := ended
  cases outcome with
  | error fault => exact ⟨rfl, .inr ⟨⟨fault, rfl⟩, congrArg some kept⟩⟩
  | ok _ =>
    refine ⟨rfl, by simp [isPastCheck], rfl, ⟨rfl, fun _ => rfl⟩, congrArg some kept, ?_, by simp⟩
    rintro other ⟨⟩
    exact holds rfl

/-- A written blob becomes a JSON file when it gets its name. -/
theorem filesOf_nameBlob (device : Device) (shelf : Shelf)
    (written : folder.get? (Blob.incompleteName d.id) = some (.file (Blob.content d))) :
    let ended := stage device ⟨shelf, some folder⟩ (nameBlob d)
    (nameBlob d).FilesOf ⟨shelf, some folder⟩ folder.jsonFiles ended.1 ended.2 := by
  have renamed := Folder.perform_rename_cases device written
  simp only [stage, inFolder]
  generalize folder.perform device _ = ended at renamed
  obtain ⟨left, outcome⟩ := ended
  rcases renamed with ⟨rfl, json⟩ | ⟨fault, failed⟩
  · exact ⟨rfl, by simp [isPastCheck], rfl, ⟨rfl, fun _ => rfl⟩, congrArg some json, by simp,
      by simp⟩
  · cases failed
    have kept := folder.jsonFiles_perform_discard device d.id
    exact ⟨rfl, .inr ⟨⟨fault, rfl⟩, congrArg some kept⟩⟩

/-- A failing removal of a blob leaves the folder. -/
theorem stage_removeBlob {after : Store} {outcome : StageEnd}
    (ended : stage device ⟨shelf, some folder⟩ (removeBlob id) = (after, outcome)) :
    after.shelf = shelf ∧ ∀ error, outcome = .error error →
      (∃ fault, error = .io fault) ∧ after.folder = some folder := by
  simp only [stage, inFolder] at ended
  cases performed : folder.perform device (.remove (Blob.name id)) with
  | mk left result =>
    rw [performed] at ended
    cases result with
    | ok done =>
      cases ended
      exact ⟨rfl, fun _ impossible => by cases impossible⟩
    | error fault =>
      obtain ⟨rfl, -⟩ := Folder.eq_of_not_removed performed
      cases fault with
      | notFound =>
        cases ended
        exact ⟨rfl, fun _ impossible => by cases impossible⟩
      | _ =>
        cases ended
        refine ⟨rfl, ?_⟩
        rintro error ⟨⟩
        exact ⟨⟨_, rfl⟩, rfl⟩

/-- The blob of a dataset is a JSON file less when it is removed, or was missing already. -/
theorem filesOf_removeBlob (device : Device) (folder : Folder)
    (found : shelf.datasets.contains id = true) :
    let ended := stage device ⟨shelf, some folder⟩ (removeBlob id)
    (removeBlob id).FilesOf ⟨shelf, some folder⟩ folder.jsonFiles ended.1 ended.2 := by
  cases ended : stage device ⟨shelf, some folder⟩ (removeBlob id) with
  | mk after outcome =>
    obtain ⟨sameShelf, failed⟩ := stage_removeBlob ended
    cases outcome with
    | ok outcome =>
      obtain ⟨gone, rfl⟩ := folder_of_removeBlob rfl ended
      refine ⟨sameShelf, by simp [isPastCheck], rfl, ⟨rfl, fun _ => rfl⟩, ?_, by simp, ?_⟩
      · rw [Store.jsonFiles?, gone, Option.map_some, Folder.jsonFiles_erase_name]
        rfl
      · rintro other (⟨⟨⟩⟩ | ⟨⟨⟩⟩)
        rwa [sameShelf]
    | error error =>
      obtain ⟨isFault, same⟩ := failed error rfl
      exact ⟨sameShelf, .inr ⟨isFault, congrArg (Option.map Folder.jsonFiles) same⟩⟩

/-- A deletion looks for its dataset before it changes anything. -/
theorem filesOf_delete (device : Device) (shelf : Shelf) (folder : Folder) (id : String) :
    let ended := stage device ⟨shelf, some folder⟩ (delete id)
    (delete id).FilesOf ⟨shelf, some folder⟩ folder.jsonFiles ended.1 ended.2 := by
  obtain ⟨datasets, isClosed⟩ := shelf
  cases isClosed with
  | true => exact filesOf_closed rfl rfl
  | false =>
    have looked : (Shelf.mk datasets false).contains id = .ok (datasets.contains id) :=
      Shelf.contains_eq_ok_iff.2 ⟨rfl, rfl⟩
    rw [stage_delete rfl]
    simp only [looked, Except.map]
    cases present : datasets.contains id with
    | false => exact ⟨rfl, rfl, present.symm, rfl⟩
    | true =>
      refine ⟨rfl, fun _ => rfl, rfl, ⟨rfl, fun _ => rfl⟩, rfl, by simp, ?_⟩
      rintro other (⟨⟨⟩⟩ | ⟨⟨⟩⟩)
      exact present

end

/-- What each stage of a write comes to. -/
theorem IsFiled.stage (filed : write.IsFiled store json) (device : Device) :
    write.FilesOf store json (stage device store write).1 (stage device store write).2 := by
  obtain ⟨⟨datasets, isClosed⟩, folder⟩ := store
  obtain ⟨files, written, found⟩ := filed
  obtain ⟨folder, rfl⟩ : ∃ present, folder = some present := by
    cases folder with
    | none => cases files
    | some present => exact ⟨present, rfl⟩
  replace files : folder.jsonFiles = write.reached json := Option.some.inj files
  cases write with
  | put d =>
    obtain rfl := files
    cases isClosed with
    | true => exact filesOf_closed rfl rfl
    | false => exact ⟨rfl, fun _ => rfl, rfl, ⟨rfl, fun _ => rfl⟩, rfl, by simp, by simp⟩
  | writeBlob d =>
    obtain rfl := files
    exact filesOf_writeBlob device _ folder d
  | nameBlob d =>
    obtain rfl := files
    exact filesOf_nameBlob device _ (written d rfl)
  | shelve d =>
    cases isClosed with
    | true => exact filesOf_closed rfl (congrArg some files)
    | false => exact ⟨rfl, rfl, rfl, congrArg some files⟩
  | delete id =>
    obtain rfl := files
    exact filesOf_delete device _ folder id
  | removeBlob id =>
    obtain rfl := files
    exact filesOf_removeBlob device folder (found id (.inl rfl))
  | unshelve id =>
    cases isClosed with
    | true => exact filesOf_closed rfl (congrArg some files)
    | false =>
      have present : datasets.contains id = true := found id (.inr rfl)
      have deleted : (Shelf.mk datasets false).delete id =
          .ok (⟨datasets.erase id, false⟩, datasets.contains id) :=
        Shelf.delete_eq_ok_iff.2 ⟨rfl, rfl, rfl⟩
      simp only [StoreWrite.stage, deleted, present]
      exact ⟨rfl, rfl, present.symm, congrArg some files⟩

variable {middle after : Store} {next : StoreWrite} {outcome : StageEnd}

/-- What the stages after a stage come to is what the write comes to. -/
theorem FilesOf.trans (first : write.FilesOf store json middle (.ok (.inl next)))
    (rest : next.FilesOf middle json after outcome) : write.FilesOf store json after outcome := by
  obtain ⟨shelf, looked, isPast, ⟨persisted, finds⟩, -⟩ := first
  match outcome with
  | .ok (.inl last) =>
    obtain ⟨lastShelf, -, lastPast, continues, filed⟩ := rest
    exact ⟨lastShelf.trans shelf, looked, lastPast, .trans ⟨persisted, finds⟩ continues, filed⟩
  | .ok (.inr found) =>
    obtain ⟨isOpen, stillOpen, isFound, files⟩ := rest
    rw [shelf] at isOpen isFound
    rw [persisted] at files
    exact ⟨isOpen, stillOpen, isFound.trans (finds store.shelf), files⟩
  | .error error =>
    obtain ⟨lastShelf, ⟨rfl, isClosed, files⟩ | failed⟩ := rest
    · rw [shelf] at isClosed
      -- a write that has still to look finds the store open, so this one is past its check
      cases past : write.isPastCheck with
      | false => rw [looked past] at isClosed; cases isClosed
      | true =>
        rw [isPast, if_pos rfl, persisted] at files
        exact ⟨lastShelf.trans shelf, .inl ⟨rfl, isClosed, by rwa [past, if_pos rfl]⟩⟩
    · exact ⟨lastShelf.trans shelf, .inr failed⟩

/-- What the stages of a write come to. -/
theorem IsFiled.advance (filed : write.IsFiled store json) (device : Device) (stages : Nat) :
    write.FilesOf store json (advance device (stages + 1) store write).1
      (advance device (stages + 1) store write).2 := by
  induction stages generalizing store write with
  | zero =>
    have first := filed.stage device
    unfold StoreWrite.advance
    split
    · next step => rwa [step] at first
    · exact first
  | succ stages ih =>
    have first := filed.stage device
    unfold StoreWrite.advance
    split
    · next step =>
      rw [step] at first
      exact first.trans (ih first.2.2.2.2)
    · exact first

/-- What a whole write comes to in an open store: it is done, or a file step fails and the JSON
files are those from before. -/
theorem IsFiled.perform (filed : write.IsFiled store json) (isOpen : store.shelf.isClosed = false)
    (device : Device) :
    let ended := perform device store write
    ended.1.shelf.isClosed = false ∧
      ((ended.2 = .ok (write.finds store.shelf) ∧ ended.1.jsonFiles? =
          some (if write.finds store.shelf then write.persisted json else json)) ∨
        ∃ fault, ended.2 = .error (.io fault) ∧ ended.1.jsonFiles? = some json) := by
  intro ended
  obtain ⟨stages, enough⟩ : ∃ stages, write.stagesLeft = stages + 1 := by
    cases write <;> exact ⟨_, rfl⟩
  have all := filed.advance device stages
  rw [← enough, advance_eq_perform] at all
  change write.FilesOf store json ended.1 (ended.2.map Sum.inr) at all
  cases outcome : ended.2 with
  | ok found =>
    rw [outcome] at all
    obtain ⟨-, stillOpen, rfl, files⟩ := all
    exact ⟨stillOpen, .inl ⟨rfl, files⟩⟩
  | error error =>
    rw [outcome] at all
    obtain ⟨shelf, ⟨-, isClosed, -⟩ | ⟨⟨fault, rfl⟩, files⟩⟩ := all
    · rw [isOpen] at isClosed
      cases isClosed
    · exact ⟨by rw [shelf, isOpen], .inr ⟨fault, rfl, files⟩⟩

end StoreWrite
end Campus
