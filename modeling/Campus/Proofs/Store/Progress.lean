import Campus.Proofs.Store.Clearing
import Campus.Proofs.Store.Stages
/-!
# How far a write gets

Wherever a write is on its way, the folder backs the datasets from before the write or those that it
is to lead to, and the shelf follows when the write is over. An addition does the same whatever
datasets are on the shelf, and a deletion whatever dataset is there under its id.
-/

namespace Campus

namespace StoreWrite

/-- A write as it begins: a dataset is to be put that can be written, or one is to be deleted. -/
def Begins (write : StoreWrite) : Prop :=
  (∃ d : Dataset, d.IsStorable ∧ write = .put d) ∨ ∃ id, write = .delete id

variable {device : Device} {store : Store} {write : StoreWrite} {held : Keyed Dataset}

/-- The datasets that a write is to lead to. -/
def aimed (held : Keyed Dataset) (write : StoreWrite) : Keyed Dataset :=
  (write.target ⟨held, false⟩).datasets

/-- What a write is to lead to depends on the datasets on the shelf only. -/
theorem datasets_target (shelf : Shelf) (write : StoreWrite) :
    (write.target shelf).datasets = write.aimed shelf.datasets := by
  cases write <;> rfl

/-- What a write is to leave under its id does not depend on what was held. -/
theorem get?_aimed_id (held other : Keyed Dataset) (write : StoreWrite) :
    (write.aimed held).get? write.id = (write.aimed other).get? write.id := by
  cases write with
  | put | writeBlob | nameBlob | shelve =>
    simp only [aimed, target, Shelf.add, id, Keyed.get?_insert, if_true]
  | delete | removeBlob | unshelve =>
    simp only [aimed, target, id, Keyed.get?_erase, if_true]

/-- A write is to change what is held under its own id only. -/
theorem get?_aimed_of_ne (held : Keyed Dataset) (write : StoreWrite) {other : String}
    (differs : other ≠ write.id) : (write.aimed held).get? other = held.get? other :=
  get?_target_of_ne ⟨held, false⟩ write differs

/-- With what a write is to leave under its id, a view is the one that the write is to lead to. -/
theorem update_aimed (held other : Keyed Dataset) (write : StoreWrite) :
    Function.update held.get? write.id ((write.aimed other).get? write.id) =
      (write.aimed held).get? := by
  funext id
  by_cases same : id = write.id
  · rw [same, Function.update_self, get?_aimed_id]
  · rw [Function.update_of_ne same]
    exact (get?_aimed_of_ne held write same).symm

/-- What is held after a write that begins can be written if it could before. -/
theorem stored_aimed (begins : write.Begins)
    (stored : ∀ id d, held.get? id = some d → d.id = id ∧ d.IsStorable) :
    ∀ id d, (write.aimed held).get? id = some d → d.id = id ∧ d.IsStorable := by
  intro id d found
  rcases begins with ⟨added, storable, rfl⟩ | ⟨removed, rfl⟩
  · rw [aimed, target, Shelf.add, Keyed.get?_insert] at found
    split at found
    · next same =>
      cases found
      exact ⟨same.symm, storable⟩
    · exact stored id d found
  · rw [aimed, target, Keyed.get?_erase] at found
    split at found
    · cases found
    · exact stored id d found

/-- What stages of a write leave: a folder that backs the datasets from before the write or those
that it is to lead to, and a shelf that follows when the write is over. -/
def Reaches (held shown : Keyed Dataset) (write : StoreWrite) (after : Store) : StageEnd → Prop
  | .ok (.inl _) => after.shelf.datasets = shown ∧ ∃ folder, after.folder = some folder ∧
      (folder.Backs held.get? ∨ folder.Backs (write.aimed held).get?)
  | .ok (.inr _) => after.shelf.datasets = write.aimed shown ∧
      ∃ folder, after.folder = some folder ∧ folder.Backs (write.aimed held).get?
  | .error _ => after.shelf.datasets = shown ∧
      ∃ folder, after.folder = some folder ∧ folder.Backs held.get?

/-- Before any stage of a write its id has the blob from before the write or the one that the write
is to leave. -/
theorem blob?_eq (found : Option Dataset) (held : Keyed Dataset) (write : StoreWrite) :
    write.blob? found = found ∨ write.blob? found = (write.aimed held).get? write.id := by
  cases write with
  | put | writeBlob | nameBlob | delete | removeBlob => exact .inl rfl
  | shelve d => exact .inr ((Keyed.get?_insert ..).trans (if_pos rfl)).symm
  | unshelve id => exact .inr ((Keyed.get?_erase ..).trans (if_pos rfl)).symm

/-- What stages of a write leave if the folder backs under its id what is on the shelf. -/
theorem reaches_of_isUnderWay (underWay : write.IsUnderWay store held.get?)
    (hasFolder : store.folder.isSome = true)
    (settled : held.get? write.id = store.shelf.datasets.get? write.id) (device : Device)
    (stages : Nat) :
    Reaches held store.shelf.datasets write (advance device stages store write).1
      (advance device stages store write).2 := by
  have all := underWay.advance device stages
  generalize advance device stages store write = ended at all
  obtain ⟨after, outcome⟩ := ended
  have folderOf {blob : Option Dataset} (leaves : Leaves store held.get? write.id blob after) :
      ∃ folder, after.folder = some folder ∧
        folder.Backs (Function.update held.get? write.id blob) := by
    have kept := leaves.hasFolder
    rw [hasFolder, Option.isSome_iff_exists] at kept
    obtain ⟨folder, found⟩ := kept
    exact ⟨folder, found, leaves.backs folder found⟩
  have old : Function.update held.get? write.id (store.shelf.datasets.get? write.id) =
      held.get? := by
    rw [← settled, Function.update_eq_self]
  match outcome with
  | .ok (.inl next) =>
    obtain ⟨shelf, sameId, aim, -, -, -, leaves⟩ := all
    obtain ⟨folder, found, backs⟩ := folderOf leaves
    refine ⟨congrArg Shelf.datasets shelf, folder, found, ?_⟩
    have sameAim : next.aimed held = write.aimed held :=
      congrArg Shelf.datasets (aim ⟨held, false⟩).1
    rcases blob?_eq (store.shelf.datasets.get? write.id) held next with kept | changed
    · rw [kept, old] at backs
      exact .inl backs
    · rw [changed, sameId, sameAim, update_aimed] at backs
      exact .inr backs
  | .ok (.inr found) =>
    obtain ⟨shelf, -, -, leaves⟩ := all
    obtain ⟨folder, found, backs⟩ := folderOf leaves
    rw [shelf, datasets_target, update_aimed] at backs
    exact ⟨by rw [shelf, datasets_target], folder, found, backs⟩
  | .error error =>
    obtain ⟨shelf, -, -, -, leaves⟩ := all
    obtain ⟨folder, found, backs⟩ := folderOf leaves
    rw [old] at backs
    exact ⟨congrArg Shelf.datasets shelf, folder, found, backs⟩

end StoreWrite

/-- A store with other datasets on its shelf. -/
def Store.showing (store : Store) (shown : Keyed Dataset) : Store :=
  { store with shelf := { store.shelf with datasets := shown } }

namespace StoreWrite

variable {device : Device} {store after : Store} {write next : StoreWrite}
  {shown : Keyed Dataset}

/-- The datasets on the shelf after stages of a write have come to something. -/
def shownAfter (shown : Keyed Dataset) (write : StoreWrite) : StageEnd → Keyed Dataset
  | .ok (.inr _) => write.aimed shown
  | .ok (.inl _) | .error _ => shown

/-- File steps have nothing to do with the datasets on the shelf. -/
theorem inFolder_showing (device : Device) (store : Store) (step : FileStep) :
    inFolder device (store.showing shown) step =
      ((inFolder device store step).1.showing shown, (inFolder device store step).2) := by
  obtain ⟨shelf, folder⟩ := store
  cases folder <;> rfl

/-- What a write finds, the stages that follow find. -/
theorem finds_of_stage (step : stage device store write = (after, .ok (.inl next)))
    (shelf : Shelf) : next.finds shelf = write.finds shelf := by
  cases write <;> simp only [stage] at step
  case put =>
    split at step
    · cases step
      rfl
    · cases checked : store.shelf.check with
      | error error =>
        rw [checked] at step
        cases step
      | ok _ =>
        rw [checked] at step
        cases step
        rfl
  case writeBlob | nameBlob =>
    split at step
    · cases step
      rfl
    · cases step
  case delete | removeBlob => split at step <;> cases step <;> rfl
  case shelve | unshelve => split at step <;> cases step

/-- A stage does the same whatever datasets are on the shelf, if the write finds the same there. -/
theorem stage_showing (device : Device) (store : Store)
    (alike : write.finds ⟨shown, store.shelf.isClosed⟩ = write.finds store.shelf) :
    stage device (store.showing shown) write =
      ((stage device store write).1.showing (shownAfter shown write (stage device store write).2),
        (stage device store write).2) := by
  cases write with
  | put d =>
    obtain ⟨⟨datasets, isClosed⟩, folder⟩ := store
    cases folder with
    | none => rfl
    | some folder => cases isClosed <;> rfl
  | writeBlob d =>
    simp only [stage, inFolder_showing]
    cases inFolder device store (.write (Blob.incompleteName d.id) (Blob.content d)) with
    | mk left outcome => cases outcome <;> rfl
  | nameBlob d =>
    simp only [stage, inFolder_showing]
    cases inFolder device store (.rename (Blob.incompleteName d.id) (Blob.name d.id)) with
    | mk left outcome =>
      cases outcome with
      | ok _ => rfl
      | error fault =>
        simp only [inFolder_showing]
        rfl
  | shelve d =>
    obtain ⟨⟨datasets, isClosed⟩, folder⟩ := store
    cases isClosed <;> rfl
  | delete id =>
    obtain ⟨⟨datasets, isClosed⟩, folder⟩ := store
    have present : shown.contains id = datasets.contains id := alike
    cases folder with
    | none => rfl
    | some folder =>
      cases isClosed with
      | true => rfl
      | false =>
        cases held : datasets.contains id with
        | true =>
          have known : Shelf.contains ⟨datasets, false⟩ id = .ok true :=
            Shelf.contains_eq_ok_iff.2 ⟨rfl, held⟩
          have alsoKnown : Shelf.contains ⟨shown, false⟩ id = .ok true :=
            Shelf.contains_eq_ok_iff.2 ⟨rfl, present.trans held⟩
          simp only [stage, Store.showing, known, alsoKnown]
          rfl
        | false =>
          have unknown : Shelf.contains ⟨datasets, false⟩ id = .ok false :=
            Shelf.contains_eq_ok_iff.2 ⟨rfl, held⟩
          have alsoUnknown : Shelf.contains ⟨shown, false⟩ id = .ok false :=
            Shelf.contains_eq_ok_iff.2 ⟨rfl, present.trans held⟩
          have same : (StoreWrite.delete id).aimed shown = shown :=
            Keyed.erase_of_contains_eq_false (present.trans held)
          simp only [stage, Store.showing, unknown, alsoUnknown, shownAfter, same]
  | removeBlob id =>
    simp only [stage, inFolder_showing]
    cases inFolder device store (.remove (Blob.name id)) with
    | mk left outcome =>
      cases outcome with
      | ok _ => rfl
      | error fault => cases fault <;> rfl
  | unshelve id =>
    obtain ⟨⟨datasets, isClosed⟩, folder⟩ := store
    have present : shown.contains id = datasets.contains id := alike
    cases isClosed with
    | true => rfl
    | false =>
      have deleted (datasets : Keyed Dataset) : Shelf.delete ⟨datasets, false⟩ id =
          .ok (⟨datasets.erase id, false⟩, datasets.contains id) := rfl
      simp only [stage, Store.showing, deleted, present]
      rfl

/-- A write does the same whatever datasets are on the shelf, if it finds the same there. -/
theorem advance_showing (device : Device) (stages : Nat) (store : Store)
    (alike : write.finds ⟨shown, store.shelf.isClosed⟩ = write.finds store.shelf) :
    advance device stages (store.showing shown) write =
      ((advance device stages store write).1.showing
          (shownAfter shown write (advance device stages store write).2),
        (advance device stages store write).2) := by
  induction stages generalizing store write with
  | zero => rfl
  | succ stages ih =>
    have first := stage_showing device store alike
    unfold advance
    cases step : stage device store write with
    | mk middle outcome =>
      rw [step] at first
      rw [first]
      cases outcome with
      | error error => rfl
      | ok ended =>
        cases ended with
        | inr found => rfl
        | inl next =>
          obtain ⟨shelf, aim⟩ := shelf_of_stage_inl step
          have finds := finds_of_stage step
          have stillAlike : next.finds ⟨shown, middle.shelf.isClosed⟩ =
              next.finds middle.shelf := by
            rw [finds, finds, shelf, alike]
          have rest := ih middle stillAlike
          have sameAim : next.aimed shown = write.aimed shown :=
            congrArg Shelf.datasets (aim ⟨shown, false⟩)
          have after (outcome : StageEnd) :
              shownAfter shown next outcome = shownAfter shown write outcome := by
            cases outcome with
            | error error => rfl
            | ok ended =>
              cases ended with
              | inl _ => rfl
              | inr _ => exact sameAim
          rw [after] at rest
          exact rest

/-- A store without a dataset does not begin to delete it. -/
theorem advance_delete_of_absent {id : String} (hasFolder : store.folder.isSome = true)
    (absent : store.shelf.contains id = .ok false) (device : Device) (stages : Nat) :
    advance device stages store (.delete id) = (store, .ok (.inl (.delete id))) ∨
      advance device stages store (.delete id) = (store, .ok (.inr false)) := by
  cases stages with
  | zero => exact .inl rfl
  | succ stages =>
    obtain ⟨folder, found⟩ := Option.isSome_iff_exists.1 hasFolder
    refine .inr ?_
    simp only [advance, stage, found, absent]

/-- In a closed store nothing of a write is done. -/
theorem advance_of_isClosed (isClosed : store.shelf.isClosed = true)
    (hasFolder : store.folder.isSome = true) (begins : write.Begins) (device : Device)
    (stages : Nat) :
    advance device stages store write = (store, .ok (.inl write)) ∨
      advance device stages store write = (store, .error .closed) := by
  cases stages with
  | zero => exact .inl rfl
  | succ stages =>
    obtain ⟨folder, found⟩ := Option.isSome_iff_exists.1 hasFolder
    have refused : store.shelf.check = .error .closed := if_pos isClosed
    refine .inr ?_
    rcases begins with ⟨d, _, rfl⟩ | ⟨id, rfl⟩
    · simp only [advance, stage, found, refused, Except.map]
    · have unknown : store.shelf.contains id = .error .closed := by
        rw [Shelf.contains, refused]
        rfl
      simp only [advance, stage, found, unknown]

/-- What every file step keeps, the stages of a write keep. -/
theorem folder_stage {P : Folder → Prop}
    (kept : ∀ folder step, P folder → P (folder.perform device step).1)
    (holds : ∀ folder, store.folder = some folder → P folder) (write : StoreWrite) :
    ∀ folder, (stage device store write).1.folder = some folder → P folder := by
  have step (store : Store) (holds : ∀ folder, store.folder = some folder → P folder)
      (step : FileStep) :
      ∀ folder, (inFolder device store step).1.folder = some folder → P folder := by
    obtain ⟨shelf, folder⟩ := store
    cases folder with
    | none => exact holds
    | some folder =>
      rintro changed ⟨rfl⟩
      exact kept folder step (holds folder rfl)
  cases write <;> simp only [stage]
  case put => split <;> exact holds
  case writeBlob d =>
    have written := step store holds (.write (Blob.incompleteName d.id) (Blob.content d))
    split <;> next performed => rw [performed] at written; exact written
  case nameBlob d =>
    have named := step store holds (.rename (Blob.incompleteName d.id) (Blob.name d.id))
    split <;> next performed => rw [performed] at named; first | exact named | exact step _ named _
  case shelve => split <;> exact holds
  case delete => split <;> exact holds
  case removeBlob id =>
    have removed := step store holds (.remove (Blob.name id))
    split <;> next performed => rw [performed] at removed; exact removed
  case unshelve => split <;> exact holds

/-- What every file step keeps, any number of stages of a write keep. -/
theorem folder_advance {P : Folder → Prop}
    (kept : ∀ folder step, P folder → P (folder.perform device step).1)
    (holds : ∀ folder, store.folder = some folder → P folder) (stages : Nat) :
    ∀ folder, (advance device stages store write).1.folder = some folder → P folder := by
  induction stages generalizing store write with
  | zero => exact holds
  | succ stages ih =>
    have first := folder_stage kept holds write
    unfold advance
    split
    · next middle next step =>
      rw [step] at first
      exact ih first
    · exact first

end StoreWrite
end Campus
