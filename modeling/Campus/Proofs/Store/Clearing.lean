import Campus.Proofs.Store.Backing
import Campus.Proofs.Store.Filing
/-!
# Opening a folder with incomplete files

A store that is opened on a folder removes what is incomplete in it and takes in the blobs, in one
pass over the items. On a sound device this is the same as taking in the blobs alone. A folder that
backs some datasets therefore gives a store of them, whatever stands beside their blobs, except that
the blob of the dataset without a name is not one by its name.
-/

namespace Campus

namespace Folder

variable {folder : Folder}

/-- The files of a folder that are not incomplete. -/
def complete (folder : Folder) : Folder := folder.filterKeys fun name => !Blob.isIncomplete name

/-- A folder whose names are all short enough for the file system. -/
def IsShort (folder : Folder) : Prop :=
  ∀ name, (folder.get? name).isSome = true → isTooLong name = false

/-- Without incomplete files the names are as short as before. -/
theorem isShort_complete (short : folder.IsShort) : folder.complete.IsShort := by
  intro name found
  obtain ⟨item, isItem⟩ := Option.isSome_iff_exists.1 found
  have before := (Keyed.get?_filterKeys_eq_some_iff.1 isItem).1
  exact short name (by rw [before]; rfl)

/-- The empty folder has no name that is too long. -/
theorem isShort_empty : IsShort ∅ := fun _ impossible => by cases impossible

/-- Without a file the names are as short as before. -/
theorem isShort_erase (short : folder.IsShort) (name : String) :
    IsShort (folder.erase name) := by
  intro other found
  rw [Keyed.get?_erase] at found
  split at found
  · cases found
  · exact short other found

/-- With a file of a short name the names are as short as before. -/
theorem isShort_insert (short : folder.IsShort) {name : String} (fits : isTooLong name = false)
    (content : List UInt8) : IsShort (folder.insert name (.file content)) := by
  intro other found
  rw [Keyed.get?_insert] at found
  split at found
  · next same => rw [same]; exact fits
  · exact short other found

/-- A file that can be written has a short name. -/
theorem eq_insert_of_write {name : String} {content : List UInt8} {changed : Folder}
    (written : folder.write name content = .ok changed) :
    isTooLong name = false ∧ changed = folder.insert name (.file content) := by
  unfold write at written
  split at written
  · cases written
  next allowed =>
  split at written
  · cases written
  · cases written
    exact ⟨by simpa using allowed, rfl⟩

section Steps

variable {P : Folder → Prop}
  (made : ∀ folder name content, P folder → isTooLong name = false →
    P (folder.insert name (.file content)))

include made

/-- What making files with short names keeps holds of what is left by a step that the device
fails. -/
theorem leftBy_induction (holds : P folder) (mishap : Mishap) (step : FileStep) :
    P (folder.leftBy mishap step) := by
  cases step with
  | write name content =>
    cases mishap with
    | refused => exact holds
    | cutOff kept =>
      simp only [leftBy]
      cases written : folder.write name (content.take kept) with
      | error fault => exact holds
      | ok changed =>
        obtain ⟨fits, rfl⟩ := eq_insert_of_write written
        exact made folder name _ holds fits
  | rename | remove => exact holds

/-- What making files with short names and removing files keep, every file step keeps. -/
theorem perform_induction (removed : ∀ (folder : Folder) name, P folder → P (folder.erase name))
    (holds : P folder) (device : Device) (step : FileStep) :
    P (folder.perform device step).1 := by
  unfold perform
  split
  · exact leftBy_induction made holds _ step
  · split
    · next changed done =>
      cases step with
      | write name content =>
        obtain ⟨fits, rfl⟩ := eq_insert_of_write done
        exact made folder name content holds fits
      | rename old new =>
        simp only [after, rename] at done
        cases found : folder.read old with
        | error fault =>
          rw [found] at done
          cases done
        | ok content =>
          rw [found] at done
          obtain ⟨fits, rfl⟩ := eq_insert_of_write done
          exact made _ new content (removed folder old holds) fits
      | remove name =>
        simp only [after, remove] at done
        cases found : folder.read name with
        | error fault =>
          rw [found] at done
          cases done
        | ok content =>
          rw [found] at done
          cases done
          exact removed folder name holds
    · exact holds

end Steps

/-- What is left by a step that the device fails has no name that is too long. -/
theorem isShort_leftBy (short : folder.IsShort) (mishap : Mishap) (step : FileStep) :
    (folder.leftBy mishap step).IsShort :=
  leftBy_induction (P := IsShort)
    (fun _ _ content short fits => isShort_insert short fits content) short mishap step

/-- No file step makes a name that is too long. -/
theorem isShort_perform (short : folder.IsShort) (device : Device) (step : FileStep) :
    (folder.perform device step).1.IsShort :=
  perform_induction (P := IsShort)
    (fun _ _ content short fits => isShort_insert short fits content)
    (fun _ name short => isShort_erase short name) short device step

/-- A file that is removed is gone, and nothing else. -/
theorem eq_erase_of_removed {device : Device} {left : Folder} {name : String}
    (removed : folder.perform device (.remove name) = (left, .ok ())) :
    left = folder.erase name := by
  unfold perform at removed
  split at removed
  · cases removed
  · simp only [Folder.after, remove] at removed
    cases found : folder.read name with
    | error fault =>
      rw [found] at removed
      cases removed
    | ok content =>
      rw [found] at removed
      cases removed
      rfl

end Folder

namespace Blob

variable {device : Device} {folder after : Folder} {before datasets : List Dataset}
  {items : List (String × FolderItem)}

/-- What every removal of an incomplete file keeps holds of the folder after its items are taken
in. -/
theorem collect_induction {P : Folder → Prop}
    (kept : ∀ folder, ∀ entry ∈ items, isIncomplete entry.1 = true → P folder →
      P (folder.perform device (.remove entry.1)).1)
    (holds : P folder) : P (collect device folder before items).1 := by
  induction items generalizing folder before with
  | nil => exact holds
  | cons entry rest ih =>
    obtain ⟨name, item⟩ := entry
    have keptRest : ∀ folder, ∀ entry ∈ rest, isIncomplete entry.1 = true → P folder →
        P (folder.perform device (.remove entry.1)).1 := fun folder entry member =>
      kept folder entry (List.mem_cons_of_mem _ member)
    unfold collect
    split
    · next incomplete =>
      have removed := kept folder (name, item) List.mem_cons_self incomplete holds
      split
      · next performed =>
        rw [performed] at removed
        exact ih keptRest removed
      · next performed =>
        rw [performed] at removed
        exact removed
    · split
      · split
        · exact holds
        · split
          · exact ih keptRest holds
          · exact holds
      · exact ih keptRest holds

/-- What a device removes, a sound one removes. -/
theorem Takes.sound {entry : String × FolderItem} {left : Folder} {taken : List Dataset}
    (takes : Takes device folder before entry left taken) :
    Takes Device.sound folder before entry left taken := by
  cases takes with
  | incomplete incomplete removed =>
    refine .incomplete incomplete ?_
    unfold Folder.perform at removed
    split at removed
    · cases removed
    · exact removed
  | blob blob parsed => exact .blob blob parsed
  | other complete notBlob => exact .other complete notBlob

/-- Items that are taken in on some device are taken in on a sound one. -/
theorem collect_sound_of_ok
    (collected : collect device folder before items = (after, .ok datasets)) :
    collect Device.sound folder before items = (after, .ok datasets) := by
  induction items generalizing folder before with
  | nil => exact collected
  | cons entry rest ih =>
    obtain ⟨left, taken, takes, others⟩ := collect_cons_eq_ok_iff.1 collected
    exact collect_cons_eq_ok_iff.2 ⟨left, taken, takes.sound, ih others⟩

/-- What is incomplete goes, and all else stays. -/
theorem Takes.left_eq {entry : String × FolderItem} {left : Folder} {taken : List Dataset}
    (takes : Takes device folder before entry left taken) :
    left = if isIncomplete entry.1 then folder.erase entry.1 else folder := by
  cases takes with
  | incomplete incomplete removed =>
    rw [if_pos incomplete]
    exact Folder.eq_erase_of_removed removed
  | blob blob parsed => rw [isIncomplete_eq_false_of_isBlob blob, if_neg Bool.false_ne_true]
  | other complete notBlob => rw [complete, if_neg Bool.false_ne_true]

/-- Of the items that are taken in, those that are incomplete go, and all else stays. -/
theorem get?_of_collect
    (collected : collect device folder before items = (after, .ok datasets)) (name : String) :
    after.get? name =
      if isIncomplete name = true ∧ name ∈ items.map Prod.fst then none else folder.get? name := by
  induction items generalizing folder before with
  | nil =>
    cases collected
    simp
  | cons entry rest ih =>
    obtain ⟨left, taken, takes, others⟩ := collect_cons_eq_ok_iff.1 collected
    rw [ih others, takes.left_eq]
    by_cases own : name = entry.1
    · cases incomplete : isIncomplete entry.1 <;> simp [own, incomplete, Keyed.get?_erase]
    · have kept : Keyed.get? (if isIncomplete entry.1 then folder.erase entry.1 else folder) name =
          folder.get? name := by
        split
        · rw [Keyed.get?_erase, if_neg own]
        · rfl
      simp only [kept, List.map_cons, List.mem_cons, own, false_or]

/-- On a sound device, where the blobs among some items are taken in, all items are. -/
theorem exists_collect_of_blobs {aside : Folder} (distinct : (items.map Prod.fst).Nodup)
    (removable : ∀ entry ∈ items, isIncomplete entry.1 = true →
      ∃ content, folder.read entry.1 = .ok content)
    (blobs : collect Device.sound aside before (items.filter fun entry => isBlob entry.1) =
      (aside, .ok datasets)) :
    ∃ after, collect Device.sound folder before items = (after, .ok datasets) := by
  induction items generalizing folder before with
  | nil =>
    rw [List.filter_nil, collect] at blobs
    cases blobs
    exact ⟨folder, rfl⟩
  | cons entry rest ih =>
    obtain ⟨name, item⟩ := entry
    obtain ⟨fresh, distinctRest⟩ := List.nodup_cons.1 distinct
    obtain ⟨removableFirst, removableRest⟩ := List.forall_mem_cons.1 removable
    by_cases incomplete : isIncomplete name = true
    · have notBlob : isBlob name = false := by rw [isBlob, incomplete]; rfl
      obtain ⟨content, found⟩ := removableFirst incomplete
      have removed : folder.perform Device.sound (.remove name) = (folder.erase name, .ok ()) := by
        simp only [Folder.perform, Device.sound, Folder.after, Folder.remove, found]
        rfl
      have stillRemovable : ∀ entry ∈ rest, isIncomplete entry.1 = true →
          ∃ content, Folder.read (folder.erase name) entry.1 = .ok content := by
        intro entry member isIncomplete
        have differs : entry.1 ≠ name := fun same => fresh (List.mem_map.2 ⟨entry, member, same⟩)
        rw [Folder.read, Keyed.get?_erase, if_neg differs]
        exact removableRest entry member isIncomplete
      rw [List.filter_cons_of_neg (by simp [notBlob])] at blobs
      obtain ⟨after, collected⟩ := ih distinctRest stillRemovable blobs
      exact ⟨after, collect_cons_eq_ok_iff.2 ⟨_, _, .incomplete incomplete removed, collected⟩⟩
    · rw [Bool.not_eq_true] at incomplete
      obtain ⟨taken, takes, later⟩ : ∃ taken,
          Takes Device.sound folder before (name, item) folder taken ∧
          collect Device.sound aside taken (rest.filter fun entry => isBlob entry.1) =
            (aside, .ok datasets) := by
        by_cases blob : isBlob name = true
        · rw [List.filter_cons_of_pos (by simpa using blob)] at blobs
          obtain ⟨left, taken, takes, later⟩ := collect_cons_eq_ok_iff.1 blobs
          cases takes with
          | incomplete isIncomplete => simp [incomplete] at isIncomplete
          | blob _ parsed => exact ⟨_, .blob blob parsed, later⟩
          | other _ notBlob => simp [blob] at notBlob
        · rw [List.filter_cons_of_neg (by simpa using blob)] at blobs
          rw [Bool.not_eq_true] at blob
          exact ⟨before, .other incomplete blob, blobs⟩
      obtain ⟨after, collected⟩ := ih distinctRest removableRest later
      exact ⟨after, collect_cons_eq_ok_iff.2 ⟨_, _, takes, collected⟩⟩

end Blob

namespace Folder

variable {folder : Folder} {held : Keyed Dataset}

/-- The blobs of a folder that backs some datasets are the files of those among them that have a
name. -/
theorem Backs.isFiling (backs : folder.Backs held.get?) :
    IsFiling (folder.filterKeys Blob.isBlob) (held.erase "") := by
  constructor
  · intro id
    ext item
    rw [Keyed.get?_filterKeys_eq_some_iff, Keyed.get?_erase, backs.blobs]
    by_cases unnamed : id = ""
    · have noBlob : Blob.isBlob (Blob.name "") = false := by decide
      simp [unnamed, noBlob]
    · simp [unnamed, Blob.isBlob_name unnamed]
  · intro name other
    rw [Option.eq_none_iff_forall_ne_some]
    intro item found
    rw [Keyed.get?_filterKeys_eq_some_iff] at found
    rcases backs.nothingElse name item found.1 with ⟨id, same⟩ | ⟨id, content, same, _⟩
    · exact other id same.symm
    · rw [same, Blob.isBlob, Blob.isIncomplete_incompleteName] at found
      cases found.2

/-- Without its incomplete files a folder backs the same datasets. -/
theorem Backs.complete (backs : folder.Backs held.get?) : folder.complete.Backs held.get? := by
  constructor
  · intro id
    rw [← backs.blobs]
    ext item
    rw [Folder.complete, Keyed.get?_filterKeys_eq_some_iff, Blob.isIncomplete_name]
    simp
  · intro name item found
    exact backs.nothingElse name item (Keyed.get?_filterKeys_eq_some_iff.1 found).1

/-- An incomplete file beside the blobs of datasets can be removed, if its name is short enough. -/
theorem Backs.exists_read_of_isIncomplete (backs : folder.Backs held.get?) (short : folder.IsShort)
    {name : String} {item : FolderItem} (found : folder.get? name = some item)
    (incomplete : Blob.isIncomplete name = true) :
    (∃ id, name = Blob.incompleteName id) ∧ ∃ content, folder.read name = .ok content := by
  rcases backs.nothingElse name item found with ⟨id, rfl⟩ | ⟨id, content, rfl, rfl⟩
  · rw [Blob.isIncomplete_name] at incomplete
    cases incomplete
  · have fits := short (Blob.incompleteName id) (by rw [found]; rfl)
    refine ⟨⟨id, rfl⟩, content, ?_⟩
    rw [read, fits, if_neg Bool.false_ne_true, found]

/-- The files of a folder after its incomplete ones are removed. -/
theorem eq_complete {after : Folder}
    (left : ∀ name, after.get? name =
      if Blob.isIncomplete name = true ∧ name ∈ folder.entries.map Prod.fst then none
      else folder.get? name) : after = folder.complete := by
  ext name item
  rw [left, complete, Keyed.get?_filterKeys_eq_some_iff]
  by_cases incomplete : Blob.isIncomplete name = true
  · have absent (missing : name ∉ folder.entries.map Prod.fst) : folder.get? name = none := by
      rw [← Option.not_isSome_iff_eq_none]
      exact fun found => missing (Keyed.mem_keys_iff.2 found)
    by_cases listed : name ∈ folder.entries.map Prod.fst
    · simp [incomplete, listed]
    · simp [incomplete, listed, absent listed]
  · simp [incomplete]

/-- A folder with short names that backs datasets, which can be written and are held under their
ids. -/
structure Saves (folder : Folder) (held : Keyed Dataset) : Prop where
  backs : folder.Backs held.get?
  short : folder.IsShort
  stored : ∀ id d, held.get? id = some d → d.id = id ∧ d.IsStorable

/-- The empty folder saves no datasets. -/
theorem saves_empty : Saves ∅ ∅ :=
  ⟨Backs.empty, isShort_empty, fun _ _ impossible => by cases impossible⟩

/-- Without its incomplete files a folder saves the same datasets. -/
theorem Saves.complete (saves : folder.Saves held) : folder.complete.Saves held :=
  ⟨saves.backs.complete, isShort_complete saves.short, saves.stored⟩

end Folder

namespace Store

variable {folder : Folder} {held : Keyed Dataset} {device : Device}

/-- A store that is opened on a folder that saves some datasets holds what those that have a name
are read as, and leaves none of the incomplete files. -/
theorem onFolder_of_saves (saves : folder.Saves held) :
    onFolder Device.sound folder =
      (folder.complete,
        .ok (filed ((held.erase "").map Dataset.reread) folder.complete)) := by
  let blobs : Folder := folder.filterKeys Blob.isBlob
  have storedNamed : ∀ id d, (held.erase "").get? id = some d →
      d.id = id ∧ id ≠ "" ∧ d.IsStorable := by
    intro id d found
    rw [Keyed.get?_erase] at found
    split at found
    · cases found
    · next named => exact ⟨(saves.stored id d found).1, named, (saves.stored id d found).2⟩
  have opened := onFolder_eq saves.backs.isFiling storedNamed Device.sound
  obtain ⟨datasets, collected, shelf⟩ : ∃ datasets,
      Blob.collect Device.sound blobs [] blobs.entries = (blobs, .ok datasets) ∧
        Shelf.ofDatasets datasets = ⟨(held.erase "").map Dataset.reread, false⟩ := by
    unfold onFolder at opened
    split at opened
    · next left datasets collected =>
      simp only [filed, Prod.mk.injEq, Except.ok.injEq, Store.mk.injEq] at opened
      obtain ⟨same, shelf, _⟩ := opened
      rw [same] at collected
      exact ⟨datasets, collected, shelf⟩
    · cases opened
  have removable : ∀ entry ∈ folder.entries, Blob.isIncomplete entry.1 = true →
      ∃ content, folder.read entry.1 = .ok content := by
    intro entry member incomplete
    have found : folder.get? entry.1 = some entry.2 := Keyed.mem_entries_iff.1 member
    exact (saves.backs.exists_read_of_isIncomplete saves.short found incomplete).2
  obtain ⟨after, collectedAll⟩ :=
    Blob.exists_collect_of_blobs folder.keys_nodup removable collected
  rw [onFolder, collectedAll]
  simp only [filed, shelf, Folder.eq_complete (Blob.get?_of_collect collectedAll)]

/-- Opening a store takes nothing from a folder but incomplete files, even if it fails. -/
theorem saves_of_onFolder (saves : folder.Saves held) (device : Device) :
    (onFolder device folder).1.Saves held := by
  have kept : (Blob.collect device folder [] folder.entries).1.Saves held := by
    refine Blob.collect_induction (P := fun left => left.Saves held)
      (fun left entry member incomplete leftSaves => ?_) saves
    have found : folder.get? entry.1 = some entry.2 := Keyed.mem_entries_iff.1 member
    obtain ⟨⟨id, isName⟩, _⟩ :=
      saves.backs.exists_read_of_isIncomplete saves.short found incomplete
    refine ⟨?_, Folder.isShort_perform leftSaves.short device _, saves.stored⟩
    rw [isName]
    rcases Folder.perform_discard device left id with same | erased
    · rw [same]
      exact leftSaves.backs
    · rw [erased]
      exact leftSaves.backs.erase_incompleteName id
  unfold onFolder
  split
  · next collected =>
    rw [collected] at kept
    exact kept
  · next collected =>
    rw [collected] at kept
    exact kept

/-- A store that can be opened on some device can be opened on a sound one. -/
theorem onFolder_sound_of_ok {after : Folder} {store : Store}
    (opened : onFolder device folder = (after, .ok store)) :
    onFolder Device.sound folder = (after, .ok store) := by
  unfold onFolder at opened
  split at opened
  · next collected =>
    rw [onFolder, Blob.collect_sound_of_ok collected]
    exact opened
  · cases opened

end Store

end Campus
