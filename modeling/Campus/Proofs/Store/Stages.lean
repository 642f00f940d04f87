import Campus.Proofs.Store.Backing
import Campus.Proofs.Store.Shelving
/-!
# Writes under way

A write that has gone through some of its stages has done in the folder what comes before the next
one, and the shelf is as it was. The lemma about one stage says everything that the stage can do,
for any device and next to any other writes that are about other ids; what a whole write does
follows by induction on its stages.
-/

namespace Campus

/-- What stands under the name that a blob has while it is being written. -/
def Store.incomplete? (store : Store) (id : String) : Option FolderItem :=
  store.folder.bind fun folder => folder.get? (Blob.incompleteName id)

namespace Keyed

/-- Dropping a key that is not held changes nothing. -/
theorem erase_of_contains_eq_false {α : Type} {m : Keyed α} {key : String}
    (absent : m.contains key = false) : m.erase key = m := by
  ext1 query
  rw [get?_erase]
  split
  · next same => rw [same, Option.isSome_eq_false_iff.1 absent |> Option.isNone_iff_eq_none.1]
  · rfl

end Keyed

namespace StoreWrite

/-- The id that a write is about. -/
def id : StoreWrite → String
  | put d | writeBlob d | nameBlob d | shelve d => d.id
  | delete id | removeBlob id | unshelve id => id

/-- The file steps that are left of a write to a store with a folder. -/
def fileSteps : StoreWrite → List FileStep
  | put d | writeBlob d =>
    [.write (Blob.incompleteName d.id) (Blob.content d),
      .rename (Blob.incompleteName d.id) (Blob.name d.id)]
  | nameBlob d => [.rename (Blob.incompleteName d.id) (Blob.name d.id)]
  | delete id | removeBlob id => [.remove (Blob.name id)]
  | shelve _ | unshelve _ => []

/-- Whether a device lets pass what is left to do in the folder of a store, if it has one. -/
def passes (device : Device) (store : Store) (write : StoreWrite) : Bool :=
  store.folder.isNone || write.fileSteps.all (FileStep.passes device)

/-- Whether a write puts a dataset or finds the one that it is to delete. -/
def finds (shelf : Shelf) : StoreWrite → Bool
  | put _ | writeBlob _ | nameBlob _ | shelve _ => true
  | delete id | removeBlob id | unshelve id => shelf.datasets.contains id

/-- The dataset whose blob is in the folder before a stage, given the one on the shelf. -/
def blob? (held : Option Dataset) : StoreWrite → Option Dataset
  | shelve d => some d
  | unshelve _ => none
  | put _ | writeBlob _ | nameBlob _ | delete _ | removeBlob _ => held

/-- A write to an open store of which everything before some stage has been done; the view says which
datasets have a blob. -/
structure IsUnderWay (store : Store) (view : String → Option Dataset) (write : StoreWrite) :
    Prop where
  isOpen : store.shelf.isClosed = false
  backs : ∀ folder, store.folder = some folder → folder.Backs view
  blob : view write.id = write.blob? (store.shelf.datasets.get? write.id)
  written : ∀ d, write = .nameBlob d → store.folder.isSome = true →
    store.incomplete? d.id = some (.file (Blob.content d))
  found : ∀ id, write = .removeBlob id → store.shelf.datasets.contains id = true

/-- A store that a stage leaves: only files of one id may have changed, and the id has the blob of a
given dataset or none. -/
structure Leaves (store : Store) (view : String → Option Dataset) (id : String)
    (blob : Option Dataset) (after : Store) : Prop where
  backs : ∀ folder, after.folder = some folder → folder.Backs (Function.update view id blob)
  hasFolder : after.folder.isSome = store.folder.isSome
  others : ∀ other, other ≠ id → after.incomplete? other = store.incomplete? other

/-- What a stage can come to in an open store: another stage of the same write follows, or the shelf
is as the write is to leave it, or a file step failed and all is as before the write. -/
def ComesTo (device : Device) (store : Store) (view : String → Option Dataset) (write : StoreWrite)
    (after : Store) : StageEnd → Prop
  | .ok (.inl next) =>
    after.shelf = store.shelf ∧ next.id = write.id ∧
      (∀ shelf, next.target shelf = write.target shelf ∧ next.finds shelf = write.finds shelf) ∧
      next.passes device after = write.passes device store ∧
      (∀ d, next = .nameBlob d → after.folder.isSome = true →
        after.incomplete? d.id = some (.file (Blob.content d))) ∧
      (∀ id, next = .removeBlob id → store.shelf.datasets.contains id = true) ∧
      Leaves store view write.id (next.blob? (store.shelf.datasets.get? write.id)) after
  | .ok (.inr found) =>
    after.shelf = write.target store.shelf ∧ found = write.finds store.shelf ∧
      (found = true → write.passes device store = true) ∧
      Leaves store view write.id (after.shelf.datasets.get? write.id) after
  | .error error =>
    after.shelf = store.shelf ∧ (∃ fault, error = .io fault) ∧
      write.finds store.shelf = true ∧ write.passes device store = false ∧
      Leaves store view write.id (store.shelf.datasets.get? write.id) after

variable {device : Device} {shelf other : Shelf} {folder changed : Folder}
  {view : String → Option Dataset} {key : String} {blob : Option Dataset}

/-- A store without a folder has no blobs. -/
theorem Leaves.inMemory : Leaves ⟨shelf, none⟩ view key blob ⟨other, none⟩ :=
  ⟨fun _ impossible => (by cases impossible), rfl, fun _ _ => rfl⟩

/-- A folder in which only files of one id have changed. -/
theorem Leaves.inFolder (backs : changed.Backs (Function.update view key blob))
    (others : ∀ id, id ≠ key →
      changed.get? (Blob.incompleteName id) = folder.get? (Blob.incompleteName id)) :
    Leaves ⟨shelf, some folder⟩ view key blob ⟨other, some changed⟩ :=
  ⟨fun _ same => Option.some.inj same ▸ backs, rfl, others⟩

/-- A folder that has not changed. -/
theorem Leaves.unchanged (backs : folder.Backs view) (same : view key = blob) :
    Leaves ⟨shelf, some folder⟩ view key blob ⟨other, some folder⟩ :=
  .inFolder (by rw [← same, Function.update_eq_self]; exact backs) fun _ _ => rfl

/-- A folder in which a blob is being written. -/
theorem Leaves.writing (backs : folder.Backs view) (same : view key = blob) (content : List UInt8) :
    Leaves ⟨shelf, some folder⟩ view key blob
      ⟨other, some (folder.insert (Blob.incompleteName key) (.file content))⟩ := by
  refine .inFolder ?_ fun id differs => ?_
  · rw [← same, Function.update_eq_self]
    exact backs.insert_incompleteName key content
  · rw [Keyed.get?_insert, if_neg fun names => differs (Blob.incompleteName_injective names)]

/-- A folder from which an unfinished blob is cleared away. -/
theorem Leaves.discarded (backs : folder.Backs view) (same : view key = blob) :
    Leaves ⟨shelf, some folder⟩ view key blob
      ⟨other, some (folder.erase (Blob.incompleteName key))⟩ := by
  refine .inFolder ?_ fun id differs => ?_
  · rw [← same, Function.update_eq_self]
    exact backs.erase_incompleteName key
  · rw [Keyed.get?_erase, if_neg fun names => differs (Blob.incompleteName_injective names)]

/-- A folder in which a written blob has got its name. -/
theorem Leaves.named (backs : folder.Backs view) (d : Dataset) :
    Leaves ⟨shelf, some folder⟩ view d.id (some d)
      ⟨other, some ((folder.erase (Blob.incompleteName d.id)).insert (Blob.name d.id)
        (.file (Blob.content d)))⟩ := by
  refine .inFolder ((backs.erase_incompleteName d.id).insert_name d) fun id differs => ?_
  rw [Keyed.get?_insert, if_neg (Blob.name_ne_incompleteName d.id id).symm, Keyed.get?_erase,
    if_neg fun names => differs (Blob.incompleteName_injective names)]

/-- A folder from which a blob is removed. -/
theorem Leaves.removed (backs : folder.Backs view) (key : String) :
    Leaves ⟨shelf, some folder⟩ view key none ⟨other, some (folder.erase (Blob.name key))⟩ := by
  refine .inFolder (backs.erase_name key) fun id _ => ?_
  rw [Keyed.get?_erase, if_neg (Blob.name_ne_incompleteName key id).symm]

/-- A blob gets written under its incomplete name, or not or in part if the step does not pass. -/
theorem comesTo_writeBlob (backs : folder.Backs view) {d : Dataset}
    (blob : view d.id = shelf.datasets.get? d.id) (device : Device) :
    let ended := stage device ⟨shelf, some folder⟩ (writeBlob d)
    ComesTo device ⟨shelf, some folder⟩ view (writeBlob d) ended.1 ended.2 := by
  rcases backs.perform_write device d.id (Blob.content d) with
    ⟨passes, done⟩ | ⟨stuck, left, fault, failed, what⟩
  · simp only [stage, inFolder, done]
    refine ⟨rfl, rfl, fun _ => ⟨rfl, rfl⟩, ?_, ?_, by simp, .writing backs blob _⟩
    · simp [StoreWrite.passes, fileSteps, passes]
    · rintro other ⟨⟩ -
      exact (Keyed.get?_insert _ _ _ _).trans (if_pos rfl)
  · simp only [stage, inFolder, failed]
    refine ⟨rfl, ⟨fault, rfl⟩, rfl, by simp [StoreWrite.passes, fileSteps, stuck], ?_⟩
    rcases what with rfl | ⟨kept, rfl⟩
    · exact .unchanged backs blob
    · exact .writing backs blob kept

/-- A written blob gets its name, or is cleared away or left there if the step does not pass. -/
theorem comesTo_nameBlob (backs : folder.Backs view) {d : Dataset}
    (blob : view d.id = shelf.datasets.get? d.id)
    (written : folder.get? (Blob.incompleteName d.id) = some (.file (Blob.content d)))
    (device : Device) :
    let ended := stage device ⟨shelf, some folder⟩ (nameBlob d)
    ComesTo device ⟨shelf, some folder⟩ view (nameBlob d) ended.1 ended.2 := by
  rcases backs.perform_rename device d.id written with ⟨passes, done⟩ | ⟨stuck, fault, failed⟩
  · simp only [stage, inFolder, done]
    exact ⟨rfl, rfl, fun _ => ⟨rfl, rfl⟩, by simp [StoreWrite.passes, fileSteps, passes],
      by simp, by simp, .named backs d⟩
  · simp only [stage, inFolder, failed]
    refine ⟨rfl, ⟨fault, rfl⟩, rfl, by simp [StoreWrite.passes, fileSteps, stuck], ?_⟩
    rcases Folder.perform_discard device folder d.id with kept | discarded
    · rw [kept]
      exact .unchanged backs blob
    · rw [discarded]
      exact .discarded backs blob

/-- The blob of a dataset is removed, or not if the step does not pass. -/
theorem comesTo_removeBlob (backs : folder.Backs view) {id : String}
    (blob : view id = shelf.datasets.get? id) (found : shelf.datasets.contains id = true)
    (device : Device) :
    let ended := stage device ⟨shelf, some folder⟩ (removeBlob id)
    ComesTo device ⟨shelf, some folder⟩ view (removeBlob id) ended.1 ended.2 := by
  obtain ⟨d, held⟩ := Option.isSome_iff_exists.1 found
  rcases backs.perform_remove device (blob.trans held) with
    ⟨passes, done⟩ | ⟨stuck, fault, notGone, failed⟩
  · simp only [stage, inFolder, done]
    exact ⟨rfl, rfl, fun _ => ⟨rfl, rfl⟩, by simp [StoreWrite.passes, fileSteps, passes],
      by simp, by simp, .removed backs id⟩
  · simp only [stage, inFolder, failed]
    exact ⟨rfl, ⟨fault, rfl⟩, found, by simp [StoreWrite.passes, fileSteps, stuck],
      .unchanged backs blob⟩

/-- What each stage of a write under way comes to. -/
theorem IsUnderWay.stage {store : Store} {write : StoreWrite} (underWay : write.IsUnderWay store view)
    (device : Device) :
    ComesTo device store view write (stage device store write).1 (stage device store write).2 := by
  obtain ⟨shelf, folder⟩ := store
  obtain ⟨isOpen, backs, blob, written, found⟩ := underWay
  cases write with
  | put d =>
    cases folder with
    | none => exact ⟨rfl, rfl, fun _ => ⟨rfl, rfl⟩, rfl, by simp, by simp, .inMemory⟩
    | some folder =>
      have checked : shelf.check = .ok () := by
        rw [Shelf.check, isOpen]
        rfl
      simp only [StoreWrite.stage, checked, Except.map]
      exact ⟨rfl, rfl, fun _ => ⟨rfl, rfl⟩, rfl, by simp, by simp, .unchanged (backs _ rfl) blob⟩
  | writeBlob d =>
    cases folder with
    | none =>
      refine ⟨rfl, rfl, fun _ => ⟨rfl, rfl⟩, rfl, ?_, by simp, .inMemory⟩
      exact fun _ _ impossible => absurd impossible Bool.false_ne_true
    | some folder => exact comesTo_writeBlob (backs _ rfl) blob device
  | nameBlob d =>
    cases folder with
    | none => exact ⟨rfl, rfl, fun _ => ⟨rfl, rfl⟩, rfl, by simp, by simp, .inMemory⟩
    | some folder => exact comesTo_nameBlob (backs _ rfl) blob (written d rfl rfl) device
  | shelve d =>
    have put : shelf.put d = .ok { shelf with datasets := Shelf.add shelf.datasets d } :=
      Shelf.put_eq_ok_iff.2 ⟨isOpen, rfl⟩
    simp only [StoreWrite.stage, put]
    refine ⟨rfl, rfl, fun _ => by simp [StoreWrite.passes, fileSteps], ?_⟩
    have held : (Shelf.add shelf.datasets d).get? d.id = some d := by
      rw [Shelf.add, Keyed.get?_insert, if_pos rfl]
    cases folder with
    | none => exact .inMemory
    | some folder => exact .unchanged (backs _ rfl) (blob.trans held.symm)
  | delete id =>
    cases folder with
    | none => exact ⟨rfl, rfl, fun _ => ⟨rfl, rfl⟩, rfl, by simp, by simp, .inMemory⟩
    | some folder =>
      have looked : shelf.contains id = .ok (shelf.datasets.contains id) :=
        Shelf.contains_eq_ok_iff.2 ⟨isOpen, rfl⟩
      simp only [StoreWrite.stage, looked]
      cases held : shelf.datasets.contains id with
      | true =>
        refine ⟨rfl, rfl, fun _ => ⟨rfl, rfl⟩, rfl, by simp, ?_, .unchanged (backs _ rfl) blob⟩
        rintro other ⟨⟩
        exact held
      | false =>
        refine ⟨?_, held.symm, by simp, .unchanged (backs _ rfl) blob⟩
        simp only [target, Keyed.erase_of_contains_eq_false held]
  | removeBlob id =>
    cases folder with
    | none => exact ⟨rfl, rfl, fun _ => ⟨rfl, rfl⟩, rfl, by simp, by simp, .inMemory⟩
    | some folder => exact comesTo_removeBlob (backs _ rfl) blob (found id rfl) device
  | unshelve id =>
    have deleted : shelf.delete id = .ok
        ({ shelf with datasets := shelf.datasets.erase id }, shelf.datasets.contains id) :=
      Shelf.delete_eq_ok_iff.2 ⟨isOpen, rfl, rfl⟩
    simp only [StoreWrite.stage, deleted]
    refine ⟨rfl, rfl, fun _ => by simp [StoreWrite.passes, fileSteps], ?_⟩
    have absent : (shelf.datasets.erase id).get? id = none := by
      rw [Keyed.get?_erase, if_pos rfl]
    cases folder with
    | none => exact .inMemory
    | some folder => exact .unchanged (backs _ rfl) (blob.trans absent.symm)

/-- One change of a blob after another. -/
theorem Leaves.trans {store middle after : Store} {first : Option Dataset}
    (left : Leaves store view key first middle)
    (right : Leaves middle (Function.update view key first) key blob after) :
    Leaves store view key blob after where
  backs folder found := by
    have backs := right.backs folder found
    rwa [Function.update_idem] at backs
  hasFolder := right.hasFolder.trans left.hasFolder
  others id differs := (right.others id differs).trans (left.others id differs)

variable {store middle after : Store} {write next : StoreWrite} {outcome : StageEnd}

/-- After a stage the write is under way with the next one. -/
theorem IsUnderWay.following (underWay : write.IsUnderWay store view)
    (step : ComesTo device store view write after (.ok (.inl next))) :
    next.IsUnderWay after
      (Function.update view write.id (next.blob? (store.shelf.datasets.get? write.id))) := by
  obtain ⟨shelf, sameId, -, -, written, found, leaves⟩ := step
  refine ⟨by rw [shelf]; exact underWay.isOpen, leaves.backs, ?_, written, by rwa [shelf]⟩
  rw [shelf, sameId, Function.update_self]

/-- What the stages after a stage come to is what the write comes to. -/
theorem ComesTo.trans (first : ComesTo device store view write middle (.ok (.inl next)))
    (rest : ComesTo device middle
      (Function.update view write.id (next.blob? (store.shelf.datasets.get? write.id))) next after
      outcome) :
    ComesTo device store view write after outcome := by
  obtain ⟨shelf, sameId, aim, passes, -, -, leaves⟩ := first
  have target := (aim store.shelf).1
  have finds := (aim store.shelf).2
  match outcome with
  | .ok (.inl last) =>
    obtain ⟨lastShelf, lastId, lastAim, lastPasses, written, found, lastLeaves⟩ := rest
    rw [sameId, shelf] at lastLeaves
    rw [shelf] at found lastShelf
    exact ⟨lastShelf, lastId.trans sameId,
      fun shelf => ⟨(lastAim shelf).1.trans (aim shelf).1, (lastAim shelf).2.trans (aim shelf).2⟩,
      lastPasses.trans passes, written, found, leaves.trans lastLeaves⟩
  | .ok (.inr found) =>
    obtain ⟨lastShelf, isFound, lastPasses, lastLeaves⟩ := rest
    rw [shelf, target] at lastShelf
    rw [shelf, finds] at isFound
    rw [sameId] at lastLeaves
    exact ⟨lastShelf, isFound, fun found => passes ▸ lastPasses found, leaves.trans lastLeaves⟩
  | .error error =>
    obtain ⟨lastShelf, isFault, lastFinds, lastPasses, lastLeaves⟩ := rest
    rw [shelf] at lastShelf
    rw [shelf, finds] at lastFinds
    rw [sameId, shelf] at lastLeaves
    exact ⟨lastShelf, isFault, lastFinds, passes ▸ lastPasses, leaves.trans lastLeaves⟩

/-- What any number of stages of a write under way come to. -/
theorem IsUnderWay.advance (underWay : write.IsUnderWay store view) (device : Device)
    (stages : Nat) :
    ComesTo device store view write (advance device stages store write).1
      (advance device stages store write).2 := by
  induction stages generalizing store view write with
  | zero =>
    have leaves : Leaves store view write.id
        (write.blob? (store.shelf.datasets.get? write.id)) store := by
      refine ⟨?_, rfl, fun _ _ => rfl⟩
      rw [← underWay.blob, Function.update_eq_self]
      exact underWay.backs
    exact ⟨rfl, rfl, fun _ => ⟨rfl, rfl⟩, rfl, underWay.written, underWay.found, leaves⟩
  | succ stages ih =>
    have first := underWay.stage device
    unfold StoreWrite.advance
    split
    · next middle next step =>
      rw [step] at first
      exact first.trans (ih (underWay.following first))
    · exact first

/-- What a whole write comes to: it is done, or a file step fails and nothing is done. -/
theorem IsUnderWay.perform (underWay : write.IsUnderWay store view) (device : Device) :
    ((perform device store write).2 = .ok (write.finds store.shelf) ∧
        (perform device store write).1.shelf = write.target store.shelf ∧
        (write.finds store.shelf = true → write.passes device store = true)) ∨
      ((∃ fault, (perform device store write).2 = .error (.io fault)) ∧
        (perform device store write).1.shelf = store.shelf ∧
        write.finds store.shelf = true ∧ write.passes device store = false) := by
  have all := underWay.advance device write.stagesLeft
  rw [advance_eq_perform] at all
  cases outcome : (StoreWrite.perform device store write).2 with
  | ok found =>
    rw [outcome] at all
    obtain ⟨shelf, rfl, passes, -⟩ := all
    exact .inl ⟨rfl, shelf, passes⟩
  | error error =>
    rw [outcome] at all
    obtain ⟨shelf, ⟨fault, rfl⟩, finds, passes, -⟩ := all
    exact .inr ⟨⟨fault, rfl⟩, shelf, finds, passes⟩

/-- A whole write leaves its blob as the shelf has the dataset. -/
theorem IsUnderWay.leaves_perform (underWay : write.IsUnderWay store view) (device : Device) :
    Leaves store view write.id
      ((StoreWrite.perform device store write).1.shelf.datasets.get? write.id)
      (StoreWrite.perform device store write).1 := by
  have all := underWay.advance device write.stagesLeft
  rw [advance_eq_perform] at all
  cases outcome : (StoreWrite.perform device store write).2 with
  | ok found =>
    rw [outcome] at all
    exact all.2.2.2
  | error error =>
    rw [outcome] at all
    rw [all.1]
    exact all.2.2.2.2

/-- A write changes what is on the shelf under its own id only. -/
theorem get?_target_of_ne (shelf : Shelf) (write : StoreWrite) {other : String}
    (differs : other ≠ write.id) :
    (write.target shelf).datasets.get? other = shelf.datasets.get? other := by
  cases write with
  | put | writeBlob | nameBlob | shelve => exact (Keyed.get?_insert ..).trans (if_neg differs)
  | delete | removeBlob | unshelve => exact (Keyed.get?_erase ..).trans (if_neg differs)

/-- A write does not close the shelf. -/
@[simp]
theorem isClosed_target (shelf : Shelf) (write : StoreWrite) :
    (write.target shelf).isClosed = shelf.isClosed := by
  cases write <;> rfl

/-- A write that begins is under way in an open store if its id has the blob that the shelf asks
for. -/
theorem isUnderWay_of_begins (isOpen : store.shelf.isClosed = false)
    (backs : ∀ folder, store.folder = some folder → folder.Backs view)
    (begins : (∃ d, write = .put d) ∨ ∃ id, write = .delete id)
    (settled : view write.id = store.shelf.datasets.get? write.id) :
    write.IsUnderWay store view := by
  rcases begins with ⟨d, rfl⟩ | ⟨id, rfl⟩
  · exact ⟨isOpen, backs, settled, by simp, by simp⟩
  · exact ⟨isOpen, backs, settled, by simp, by simp⟩

/-- A write stays under way when files and datasets of another id change. -/
theorem IsUnderWay.frame (underWay : write.IsUnderWay store view)
    (stillOpen : after.shelf.isClosed = store.shelf.isClosed)
    (kept : after.shelf.datasets.get? write.id = store.shelf.datasets.get? write.id)
    (leaves : Leaves store view key blob after) (differs : write.id ≠ key) :
    write.IsUnderWay after (Function.update view key blob) := by
  refine ⟨stillOpen.trans underWay.isOpen, leaves.backs, ?_, fun d is hasFolder => ?_,
    fun id is => ?_⟩
  · rw [Function.update_of_ne differs, kept]
    exact underWay.blob
  · obtain rfl := is
    rw [leaves.hasFolder] at hasFolder
    exact (leaves.others d.id differs).trans (underWay.written d rfl hasFolder)
  · obtain rfl := is
    have held := underWay.found id rfl
    rw [Keyed.contains] at held ⊢
    exact kept ▸ held

/-- Whether a device lets a write pass depends on whether there is a folder only. -/
theorem passes_congr (same : after.folder.isSome = store.folder.isSome) (device : Device)
    (write : StoreWrite) : write.passes device after = write.passes device store := by
  rw [passes, passes, ← Option.not_isSome, ← Option.not_isSome, same]

/-- After a write the folder of a store backs the shelf again. -/
theorem backs_perform
    (underWay : write.IsUnderWay store store.shelf.datasets.get?) (device : Device)
    (folder : Folder) (found : (perform device store write).1.folder = some folder) :
    folder.Backs (perform device store write).1.shelf.datasets.get? := by
  have backs := (underWay.leaves_perform device).backs folder found
  have view : Function.update store.shelf.datasets.get? write.id
      ((perform device store write).1.shelf.datasets.get? write.id) =
        (perform device store write).1.shelf.datasets.get? := by
    funext other
    by_cases same : other = write.id
    · rw [same, Function.update_self]
    · rw [Function.update_of_ne same]
      rcases shelf_perform device store write with kept | aimed
      · rw [kept]
      · rw [aimed, get?_target_of_ne store.shelf write same]
  rwa [view] at backs

/-- A closed store does not begin to put a dataset. -/
theorem perform_put_of_isClosed (isClosed : store.shelf.isClosed = true) (d : Dataset) :
    perform device store (.put d) = (store, .error .closed) := by
  obtain ⟨shelf, folder⟩ := store
  have checked : shelf.check = .error .closed := if_pos isClosed
  have refused : shelf.put d = .error .closed := by
    rw [Shelf.put, checked]
    rfl
  cases folder with
  | none => simp only [perform, stagesLeft, advance, stage, refused]
  | some folder => simp only [perform, stagesLeft, advance, stage, checked, Except.map]

/-- A closed store does not begin to delete a dataset. -/
theorem perform_delete_of_isClosed (isClosed : store.shelf.isClosed = true) (id : String) :
    perform device store (.delete id) = (store, .error .closed) := by
  obtain ⟨shelf, folder⟩ := store
  have checked : shelf.check = .error .closed := if_pos isClosed
  have refused : shelf.delete id = .error .closed := by
    rw [Shelf.delete, checked]
    rfl
  have unknown : shelf.contains id = .error .closed := by
    rw [Shelf.contains, checked]
    rfl
  cases folder with
  | none => simp only [perform, stagesLeft, advance, stage, refused]
  | some folder => simp only [perform, stagesLeft, advance, stage, unknown]

end StoreWrite
end Campus
