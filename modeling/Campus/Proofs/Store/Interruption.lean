import Campus.Proofs.Store.Contents
import Campus.Proofs.Store.History
import Campus.Proofs.Store.Progress
/-!
# Writes that are interrupted

A process that has a store open may stop at any point of a write, and what it leaves is a folder. A
store that is opened on that folder later holds the datasets from before the write or those from
after it, as their written forms are read, and nothing is left of an unfinished blob. This is so for
every folder that can come about by opening stores, asking them and stopping them, on devices that
fail whatever they will. Only the dataset without a name is lost by opening: its blob is not one by
its name.
-/

namespace Campus

namespace StoreWrite

/-- A folder in which a write stops. -/
inductive StopsOn (device : Device) (store : Store) (write : StoreWrite) : Folder → Prop
  /-- Some stages are done and no further one has begun. -/
  | between (stages : Nat) {folder : Folder}
    (left : (advance device stages store write).1.folder = some folder) :
    StopsOn device store write folder
  /-- A blob is being written, and its file has the first bytes only. -/
  | writing (stages : Nat) {reached : Store} {d : Dataset} {folder : Folder}
    (next : advance device stages store write = (reached, .ok (.inl (.writeBlob d))))
    (found : reached.folder = some folder) (kept : Nat) :
    StopsOn device store write
      (folder.leftBy (.cutOff kept) (.write (Blob.incompleteName d.id) (Blob.content d)))

end StoreWrite

/-- A folder that stores are opened on: no process has one open on it, or one has. -/
inductive Site
  | idle (folder : Folder)
  | inUse (store : Store)

/-- What can come of an empty folder. -/
inductive Site.Arises : Site → Prop
  | empty : Arises (.idle ∅)
  | opened {device : Device} {folder after : Folder} {store : Store}
    (before : Arises (.idle folder)) (done : Store.onFolder device folder = (after, .ok store)) :
    Arises (.inUse store)
  | notOpened {device : Device} {folder after : Folder} {error : StoreError}
    (before : Arises (.idle folder))
    (failed : Store.onFolder device folder = (after, .error error)) : Arises (.idle after)
  | asked {store : Store} (before : Arises (.inUse store)) (device : Device) (call : StoreCall)
    (storable : ∀ d, call = .put d → d.IsStorable) : Arises (.inUse (store.reply device call).1)
  | stopped {device : Device} {store : Store} {write : StoreWrite} {folder : Folder}
    (before : Arises (.inUse store)) (begins : write.Begins)
    (stops : write.StopsOn device store folder) : Arises (.idle folder)

namespace Store

/-- What is on a shelf of the datasets that are held in a folder: each of them, or what it is read
as. The one without a name may be missing. -/
def Shows (shown held : Keyed Dataset) : Prop :=
  ∀ id, shown.get? id = held.get? id ∨ shown.get? id = (held.get? id).map Dataset.reread ∨
    id = "" ∧ shown.get? id = none

/-- A store on a folder that saves some datasets, with these datasets on its shelf. -/
structure Keeps (store : Store) (held : Keyed Dataset) : Prop where
  shown : Shows store.shelf.datasets held
  saved : ∃ folder, store.folder = some folder ∧ folder.Saves held

open StoreWrite

variable {store : Store} {held shown : Keyed Dataset} {write : StoreWrite} {device : Device}

/-- What a write is to lead to on the shelf follows what it is to lead to in the folder. -/
theorem Shows.aimed (shows : Shows shown held) (write : StoreWrite) :
    Shows (write.aimed shown) (write.aimed held) := by
  intro id
  by_cases own : id = write.id
  · rw [own]
    exact .inl (get?_aimed_id shown held write)
  · rw [get?_aimed_of_ne shown write own, get?_aimed_of_ne held write own]
    exact shows id

/-- What is on the shelf is held. -/
theorem Shows.contains_eq_true (shows : Shows shown held) {id : String}
    (present : shown.contains id = true) : held.contains id = true := by
  rw [Keyed.contains] at present ⊢
  rcases shows id with same | read | ⟨-, missing⟩
  · rwa [← same]
  · rwa [read, Option.isSome_map] at present
  · rw [missing] at present
    cases present

/-- In an open store a write that is begun reaches the same as if the shelf had what is held, as
long as it finds the same there. -/
theorem Keeps.reaches (keeps : store.Keeps held) (isOpen : store.shelf.isClosed = false)
    (begins : (∃ d, write = .put d) ∨ ∃ id, write = .delete id)
    (alike : write.finds store.shelf = write.finds ⟨held, store.shelf.isClosed⟩) (device : Device)
    (stages : Nat) :
    Reaches held store.shelf.datasets write (advance device stages store write).1
      (advance device stages store write).2 := by
  obtain ⟨folder, hasFolder, saves⟩ := keeps.saved
  have sameFolder : (store.showing held).folder = some folder := hasFolder
  have underWay : write.IsUnderWay (store.showing held) held.get? := by
    refine isUnderWay_of_begins isOpen (fun found same => ?_) begins rfl
    rw [sameFolder] at same
    exact Option.some.inj same ▸ saves.backs
  have full := reaches_of_isUnderWay underWay (by rw [sameFolder]; rfl) rfl device stages
  have same : StoreWrite.advance device stages store write = _ :=
    advance_showing device stages (store.showing held) alike
  rw [same]
  generalize StoreWrite.advance device stages (store.showing held) write = ended at full
  obtain ⟨after, outcome⟩ := ended
  match outcome with
  | .ok (.inl next) => exact ⟨rfl, full.2⟩
  | .ok (.inr found) => exact ⟨rfl, full.2⟩
  | .error error => exact ⟨rfl, full.2⟩

/-- A store that stages of a write leave: its folder saves the datasets from before the write or
those that it is to lead to, and once the write is over the store keeps them. -/
def KeptBy (held : Keyed Dataset) (write : StoreWrite) (after : Store) (outcome : StageEnd) :
    Prop :=
  ∃ kept folder, (kept = held ∨ kept = write.aimed held) ∧ after.folder = some folder ∧
    folder.Saves kept ∧ ((∀ next, outcome ≠ .ok (.inl next)) → after.Keeps kept)

/-- A store that keeps some datasets keeps them or those that a write is to lead to, as far as the
stages of the write reach. -/
theorem Keeps.keptBy_of_reaches (keeps : store.Keeps held) (begins : write.Begins)
    {after : Store} {outcome : StageEnd}
    (reaches : Reaches held store.shelf.datasets write after outcome)
    (short : ∀ folder, after.folder = some folder → folder.IsShort) :
    KeptBy held write after outcome := by
  obtain ⟨_, _, old⟩ := keeps.saved
  have before {folder : Folder} (found : after.folder = some folder)
      (backs : folder.Backs held.get?) : folder.Saves held :=
    ⟨backs, short folder found, old.stored⟩
  have behind {folder : Folder} (found : after.folder = some folder)
      (backs : folder.Backs (write.aimed held).get?) : folder.Saves (write.aimed held) :=
    ⟨backs, short folder found, stored_aimed begins old.stored⟩
  match outcome with
  | .ok (.inl next) =>
    obtain ⟨-, folder, found, backs | backs⟩ := reaches
    · exact ⟨held, folder, .inl rfl, found, before found backs,
        fun finished => absurd rfl (finished next)⟩
    · exact ⟨write.aimed held, folder, .inr rfl, found, behind found backs,
        fun finished => absurd rfl (finished next)⟩
  | .ok (.inr flag) =>
    obtain ⟨shelf, folder, found, backs⟩ := reaches
    refine ⟨write.aimed held, folder, .inr rfl, found, behind found backs, fun _ => ?_⟩
    exact ⟨shelf ▸ keeps.shown.aimed write, ⟨folder, found, behind found backs⟩⟩
  | .error error =>
    obtain ⟨shelf, folder, found, backs⟩ := reaches
    exact ⟨held, folder, .inl rfl, found, before found backs,
      fun _ => ⟨shelf ▸ keeps.shown, ⟨folder, found, before found backs⟩⟩⟩

/-- Whatever a device fails, stages of a write leave a store that is kept. -/
theorem Keeps.keptBy_advance (keeps : store.Keeps held) (begins : write.Begins) (device : Device)
    (stages : Nat) :
    KeptBy held write (StoreWrite.advance device stages store write).1
      (StoreWrite.advance device stages store write).2 := by
  obtain ⟨old, hasFolder, saves⟩ := keeps.saved
  have isSome : store.folder.isSome = true := by rw [hasFolder]; rfl
  have short : ∀ folder, (StoreWrite.advance device stages store write).1.folder = some folder →
      folder.IsShort := by
    refine folder_advance (fun folder step short => Folder.isShort_perform short device step)
      (fun folder found => ?_) stages
    rw [hasFolder] at found
    exact Option.some.inj found ▸ saves.short
  have unchanged {outcome : StageEnd}
      (same : StoreWrite.advance device stages store write = (store, outcome)) :
      KeptBy held write (StoreWrite.advance device stages store write).1
        (StoreWrite.advance device stages store write).2 := by
    rw [same]
    exact ⟨held, old, .inl rfl, hasFolder, saves, fun _ => keeps⟩
  cases isOpen : store.shelf.isClosed with
  | true =>
    rcases advance_of_isClosed isOpen isSome begins device stages with same | same
    · exact unchanged same
    · exact unchanged same
  | false =>
    rcases begins with ⟨d, storable, rfl⟩ | ⟨id, rfl⟩
    · exact keeps.keptBy_of_reaches (.inl ⟨d, storable, rfl⟩)
        (keeps.reaches isOpen (.inl ⟨d, rfl⟩) rfl device stages) short
    · cases present : store.shelf.datasets.contains id with
      | true =>
        have alike : (StoreWrite.delete id).finds store.shelf =
            (StoreWrite.delete id).finds ⟨held, store.shelf.isClosed⟩ :=
          present.trans (keeps.shown.contains_eq_true present).symm
        exact keeps.keptBy_of_reaches (.inr ⟨id, rfl⟩)
          (keeps.reaches isOpen (.inr ⟨id, rfl⟩) alike device stages) short
      | false =>
        have absent : store.shelf.contains id = .ok false :=
          Shelf.contains_eq_ok_iff.2 ⟨isOpen, present⟩
        rcases advance_delete_of_absent isSome absent device stages with same | same
        · exact unchanged same
        · exact unchanged same

/-- A write that is over leaves a store that keeps the datasets from before it or those that it is
to lead to. -/
theorem Keeps.perform (keeps : store.Keeps held) (begins : write.Begins) (device : Device) :
    ∃ kept, (StoreWrite.perform device store write).1.Keeps kept := by
  obtain ⟨kept, _, _, _, _, finished⟩ := keeps.keptBy_advance begins device write.stagesLeft
  rw [advance_eq_perform] at finished
  refine ⟨kept, finished fun next => ?_⟩
  cases (StoreWrite.perform device store write).2 <;> simp [Except.map]

/-- A write that stops leaves a folder that saves the datasets from before it or those that it is to
lead to. -/
theorem Keeps.saves_of_stopsOn (keeps : store.Keeps held) (begins : write.Begins) {folder : Folder}
    (stops : write.StopsOn device store folder) :
    ∃ kept, (kept = held ∨ kept = write.aimed held) ∧ folder.Saves kept := by
  cases stops with
  | between stages left =>
    obtain ⟨kept, same, isKept, found, saves, _⟩ := keeps.keptBy_advance begins device stages
    rw [found] at left
    cases left
    exact ⟨kept, isKept, saves⟩
  | @writing stages reached d before next found bytes =>
    obtain ⟨kept, same, isKept, foundToo, saves, _⟩ := keeps.keptBy_advance begins device stages
    rw [next, found] at foundToo
    cases foundToo
    refine ⟨kept, isKept, ?_, Folder.isShort_leftBy saves.short _ _, saves.stored⟩
    rcases before.leftBy_eq (.cutOff bytes)
        (.write (Blob.incompleteName d.id) (Blob.content d)) with
      same | ⟨name, whole, front, isWrite, same⟩
    · rw [same]
      exact saves.backs
    · cases isWrite
      rw [same]
      exact saves.backs.insert_incompleteName d.id front

/-- A store that is opened on a folder keeps what the folder saves. -/
theorem keeps_of_onFolder {folder after : Folder} (saves : folder.Saves held)
    (opened : onFolder device folder = (after, .ok store)) : store.Keeps held := by
  have soundly := onFolder_sound_of_ok opened
  rw [onFolder_of_saves saves] at soundly
  cases soundly
  refine ⟨fun id => ?_, ⟨_, rfl, saves.complete⟩⟩
  have read : ((held.erase "").map Dataset.reread).get? id =
      ((held.erase "").get? id).map Dataset.reread := Keyed.get?_map ..
  rw [Keyed.get?_erase] at read
  split at read
  · next unnamed => exact .inr (.inr ⟨unnamed, read⟩)
  · exact .inr (.inl read)

/-- Whatever a store is asked for that can be written, it goes on keeping datasets. -/
theorem Keeps.reply (keeps : store.Keeps held) (device : Device) {call : StoreCall}
    (storable : ∀ d, call = .put d → d.IsStorable) :
    ∃ kept, (store.reply device call).1.Keeps kept := by
  cases call with
  | put d => exact keeps.perform (.inl ⟨d, storable d rfl, rfl⟩) device
  | delete id => exact keeps.perform (.inr ⟨id, rfl⟩) device
  | get | contains | list => exact ⟨held, keeps⟩
  | close => exact ⟨held, keeps.shown, keeps.saved⟩

/-- A dataset as it stands on the shelf of a store that is opened later: as before, or as its written
form is read, which equals it exactly if its numbers are read with correct rounding. -/
def Reappears (found d : Dataset) : Prop :=
  found = d ∨ found = d.reread ∧ (found.Equals d ↔ d.IsReadNearest)

/-- An open store in which those of some datasets that have a name reappear, and no others are. -/
structure HoldsNamed (store : Store) (datasets : Keyed Dataset) : Prop where
  isOpen : store.shelf.isClosed = false
  same : ∀ id, Option.Rel Reappears (store.shelf.datasets.get? id) ((datasets.erase "").get? id)

/-- In a store that is opened on a folder reappears what a shelf shows of what the folder saves. -/
theorem Shows.holdsNamed (shows : Shows shown held) {folder : Folder} (saves : folder.Saves held)
    (other : Folder) : HoldsNamed (filed ((held.erase "").map Dataset.reread) other) shown := by
  refine ⟨rfl, fun id => ?_⟩
  show Option.Rel Reappears (((held.erase "").map Dataset.reread).get? id)
    ((shown.erase "").get? id)
  rw [Keyed.get?_map, Keyed.get?_erase, Keyed.get?_erase]
  split
  · exact .none
  · next named =>
    have finite (d : Dataset) (found : held.get? id = some d) :=
      Dataset.reread_equals_iff (saves.stored id d found).2.finite
    rcases shows id with same | read | ⟨unnamed, -⟩
    · rw [same]
      cases found : held.get? id with
      | none => exact .none
      | some d => exact .some (.inr ⟨rfl, finite d found⟩)
    · rw [read]
      cases held.get? id with
      | none => exact .none
      | some d => exact .some (.inl rfl)
    · exact absurd unnamed named

end Store

/-- A folder that saves datasets, or a store that keeps them. -/
def Site.IsKept : Site → Prop
  | .idle folder => ∃ held, folder.Saves held
  | .inUse store => ∃ held, store.Keeps held

/-- Whatever comes of an empty folder, it saves datasets. -/
theorem Site.isKept_of_arises {site : Site} (arises : site.Arises) : site.IsKept := by
  induction arises with
  | empty => exact ⟨∅, Folder.saves_empty⟩
  | opened before done kept =>
    obtain ⟨held, saves⟩ := kept
    exact ⟨_, Store.keeps_of_onFolder saves done⟩
  | @notOpened device folder after error before failed kept =>
    obtain ⟨held, saves⟩ := kept
    have left := Store.saves_of_onFolder saves device
    rw [failed] at left
    exact ⟨held, left⟩
  | asked before device call storable kept =>
    obtain ⟨held, keeps⟩ := kept
    exact keeps.reply device storable
  | stopped before begins stops kept =>
    obtain ⟨held, keeps⟩ := kept
    obtain ⟨left, _, saves⟩ := keeps.saves_of_stopsOn begins stops
    exact ⟨left, saves⟩

namespace Store

variable {store : Store} {write : StoreWrite} {device : Device} {folder : Folder}

/-- However a store came about and wherever a write to it stops, a store can be opened on the folder
that is left; opening removes what is incomplete and nothing else; and in the store the datasets from
before the write reappear or those that the write was to lead to, apart from the one without a
name. -/
theorem onFolder_of_stopsOn (arises : Site.Arises (.inUse store)) (begins : write.Begins)
    (stops : write.StopsOn device store folder) :
    ∃ reopened, onFolder Device.sound folder = (folder.complete, .ok reopened) ∧
      reopened.folder = some folder.complete ∧
      (reopened.HoldsNamed store.shelf.datasets ∨
        reopened.HoldsNamed (write.target store.shelf).datasets) := by
  obtain ⟨held, keeps⟩ := Site.isKept_of_arises arises
  obtain ⟨kept, isKept, saves⟩ := keeps.saves_of_stopsOn begins stops
  refine ⟨_, onFolder_of_saves saves, rfl, ?_⟩
  rcases isKept with rfl | rfl
  · exact .inl (keeps.shown.holdsNamed saves folder.complete)
  · rw [StoreWrite.datasets_target]
    exact .inr ((keeps.shown.aimed write).holdsNamed saves folder.complete)

/-- A store is opened on an empty folder. -/
theorem arises_filed : Site.Arises (.inUse (filed ∅ ∅)) := by
  have opened : onFolder Device.sound ∅ = (∅, .ok (filed ∅ ∅)) := rfl
  exact .opened .empty opened

/-- A dataset without rows can be written. -/
theorem isStorable_ofRecords_nil (id : String) (kind : DatasetKind) :
    (Dataset.ofRecords id kind []).IsStorable :=
  ⟨by simp [Dataset.ofRecords], by simp [Dataset.ofRecords]⟩

/-- The blob of a dataset without rows is cut off after its first bytes: a store can be opened on
what is left. -/
theorem onFolder_of_cutOff :
    ∃ folder reopened, (StoreWrite.put noRows).StopsOn Device.sound (filed ∅ ∅) folder ∧
      (folder.get? (Blob.incompleteName noRows.id)).isSome = true ∧
      onFolder Device.sound folder = (folder.complete, .ok reopened) ∧
      (reopened.HoldsNamed ∅ ∨ reopened.HoldsNamed (Shelf.add ∅ noRows)) := by
  have begins : (StoreWrite.put noRows).Begins := .inl ⟨noRows, isStorable_ofRecords_nil _ _, rfl⟩
  have stops : (StoreWrite.put noRows).StopsOn Device.sound (filed ∅ ∅) _ :=
    .writing 1 rfl rfl 6
  obtain ⟨reopened, opened, _, holds⟩ := onFolder_of_stopsOn arises_filed begins stops
  exact ⟨_, reopened, stops, by decide +kernel, opened, holds⟩

/-- A dataset without a name and without rows. -/
def unnamedRows : Dataset := .ofRecords "" .rooms []

/-- The dataset without a name is on the shelf before another one is put and is to be there after
that, but it is not there when the process stops meanwhile and the store is opened again. -/
theorem unnamed_absent_of_stopsOn :
    let store := ((filed ∅ ∅).reply Device.sound (.put unnamedRows)).1
    let write := StoreWrite.put noRows
    ∃ folder after reopened, Site.Arises (.inUse store) ∧ write.Begins ∧
      write.StopsOn Device.sound store folder ∧
      onFolder Device.sound folder = (after, .ok reopened) ∧
      store.shelf.datasets.get? "" = some unnamedRows ∧
      (write.target store.shelf).datasets.get? "" = some unnamedRows ∧
      reopened.shelf.datasets.get? "" = none := by
  intro store write
  have arises : Site.Arises (.inUse store) := by
    refine .asked arises_filed Device.sound _ fun d same => ?_
    cases same
    exact isStorable_ofRecords_nil _ _
  have begins : write.Begins := .inl ⟨noRows, isStorable_ofRecords_nil _ _, rfl⟩
  have put : store = filed (Shelf.add ∅ unnamedRows)
      (Keyed.insert ∅ (Blob.name "") (.file (Blob.content unnamedRows))) := by
    have short : Folder.isTooLong (Blob.incompleteName unnamedRows.id) = false := by decide +kernel
    show ((filed ∅ ∅).put Device.sound unnamedRows).1 = _
    rw [put_filed Folder.isFiling_empty, short]
    rfl
  obtain ⟨folder, stops⟩ : ∃ folder, write.StopsOn Device.sound store folder := by
    rw [put]
    exact ⟨_, .writing 1 rfl rfl 6⟩
  obtain ⟨held, keeps⟩ := Site.isKept_of_arises arises
  obtain ⟨kept, _, saves⟩ := keeps.saves_of_stopsOn begins stops
  refine ⟨folder, _, _, arises, begins, stops, onFolder_of_saves saves, ?_, ?_, ?_⟩
  · rw [put]
    exact (Keyed.get?_insert ..).trans (if_pos rfl)
  · rw [put]
    rfl
  · show ((kept.erase "").map Dataset.reread).get? "" = none
    rw [Keyed.get?_map, Keyed.get?_erase, if_pos rfl]
    rfl

end Store
end Campus
