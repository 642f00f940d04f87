import Campus.Proofs.Service.Queries
import Campus.Proofs.Service.Reopening
import Campus.Proofs.Service.Standing
import Campus.Proofs.Store.JsonFiles
/-!
# A call and a close of its service

Closing takes no lock, so it may come between any two stages of a call. A write looks whether the
store is open before it changes the folder; the shelf looks again afterwards, and so does the
listing that ends an addition. A close that comes between the first look and the last one lets the
call fail although the JSON files have changed. Without such a close a call that fails has not
changed them, and what is opened later shows nothing of it.
-/

namespace Campus

/-- What can happen next while a call is under way. -/
inductive Move
  /-- The call performs its next stage. -/
  | stage
  /-- The service is closed. -/
  | close

/-- A call that is over has its result. -/
theorem Stage.result?_eq_some_iff {stage : Stage} {result : ChangeEnd} :
    stage.result? = some result ↔ stage = .done result := by
  cases stage <;> simp [result?]

/-- Whether the write of a call has found the store open and the call will look again. -/
def Stage.isPastCheck : Stage → Bool
  | writing write => write.isPastCheck
  | listing => true
  | called | waiting | checking | ingesting | releasing _ | clearing _ | done _ => false

/-- A service with one call under way. -/
structure LoneCall where
  shared : SharedService
  stage : Stage
  /-- Whether the service has been closed between two looks of the call, the first one being that of
  its write. -/
  midway : Bool

namespace LoneCall

/-- The store of the service. -/
abbrev store (call : LoneCall) : Store := call.shared.service.store

/-- A call that has just been made. -/
def start (shared : SharedService) : LoneCall := ⟨shared, .called, false⟩

/-- The next stage of a call by the writer of some number, or a close. -/
def step (surroundings : Surroundings) (number : Nat) (change : Change) (call : LoneCall) :
    Move → LoneCall
  | .stage =>
    let after := call.stage.next surroundings number change call.shared
    { call with shared := after.1, stage := after.2 }
  | .close =>
    { call with
      shared := { call.shared with service := call.shared.service.close }
      midway := call.midway || call.stage.isPastCheck && !call.store.shelf.isClosed }

/-- Stages of a call and closes in some order. -/
def run (surroundings : Surroundings) (number : Nat) (change : Change) (call : LoneCall)
    (moves : List Move) : LoneCall :=
  moves.foldl (step surroundings number change) call

end LoneCall

variable {surroundings : Surroundings} {change : Change} {json : Keyed FolderItem}
  {store after : Store} {midway : Bool} {write : StoreWrite} {number : Nat}

/-! ## Where the JSON files stand -/

/-- The JSON files of a call that has a result, given those before it and whether it was closed
midway. -/
inductive ChangeEnd.Leaves (surroundings : Surroundings) (change : Change) (json : Keyed FolderItem)
    (store : Store) : Bool → ChangeEnd → Prop
  | succeeded {first : StoreWrite} (ids : List String) (begins : change.Begins surroundings first)
    (files : store.jsonFiles? = some (first.persisted json)) :
    Leaves surroundings change json store false (.ok ids)
  | refused (error : ServiceError) (files : store.jsonFiles? = some json) :
    Leaves surroundings change json store false (.error error)
  /-- The device has failed, so what comes after is not reached. -/
  | failed (midway : Bool) (fault : FileFault) (files : store.jsonFiles? = some json) :
    Leaves surroundings change json store midway (.error (.store (.io fault)))
  /-- The change is in the folder, and the call fails nevertheless. -/
  | cutOff {first : StoreWrite} (begins : change.Begins surroundings first)
    (files : store.jsonFiles? = some (first.persisted json)) :
    Leaves surroundings change json store true (.error (.store .closed))

/-- Where the JSON files stand at each stage of a call, given those before it and whether it was
closed midway. -/
def Stage.Files (surroundings : Surroundings) (change : Change) (json : Keyed FolderItem)
    (store : Store) (midway : Bool) : Stage → Prop
  | called | waiting | checking | ingesting => midway = false ∧ store.jsonFiles? = some json
  | writing write =>
    midway = (write.isPastCheck && store.shelf.isClosed) ∧ write.IsFiled store json ∧
      ∃ first, change.Begins surroundings first ∧ StoreWrite.Continues json first write
  | listing =>
    midway = store.shelf.isClosed ∧ ∃ first, change.Begins surroundings first ∧
      store.jsonFiles? = some (first.persisted json)
  | releasing result | clearing result | done result =>
    ChangeEnd.Leaves surroundings change json store midway result

/-- Where the files are as before, the write that a change begins with has nothing behind it. -/
theorem Change.Begins.isFiled (begins : change.Begins surroundings write)
    (files : store.jsonFiles? = some json) : write.IsFiled store json := by
  cases begins with
  | add ingested => exact ⟨files, by simp, by simp⟩
  | remove id => exact ⟨files, by simp, by simp⟩

/-- A change that begins to write has not been closed midway. -/
theorem Change.Begins.files (begins : change.Begins surroundings write)
    (files : store.jsonFiles? = some json) :
    (Stage.writing write).Files surroundings change json store false := by
  have unlooked : write.isPastCheck = false := by cases begins <;> rfl
  exact ⟨by rw [unlooked]; rfl, begins.isFiled files, write, begins, .refl json write⟩

namespace Stage

/-- Where the JSON files stand after a stage of a write. -/
theorem Files.ofWrite {outcome : StoreWrite.StageEnd} {first : StoreWrite}
    (looked : midway = (write.isPastCheck && store.shelf.isClosed))
    (begins : change.Begins surroundings first)
    (continues : StoreWrite.Continues json first write)
    (filed : write.FilesOf store json after outcome) :
    (ofWrite change outcome).Files surroundings change json after midway := by
  match outcome with
  | .ok (.inl next) =>
    obtain ⟨shelf, checked, isPastCheck, onward, nextFiled⟩ := filed
    refine ⟨?_, nextFiled, first, begins, continues.trans onward⟩
    rw [looked, isPastCheck, shelf, Bool.true_and]
    cases isChecked : write.isPastCheck with
    | false => rw [checked isChecked, Bool.false_and]
    | true => rw [Bool.true_and]
  | .ok (.inr found) =>
    obtain ⟨isOpen, stillOpen, isFound, files⟩ := filed
    rw [isOpen, Bool.and_false] at looked
    rw [continues.finds] at isFound
    rw [continues.persisted] at files
    obtain rfl := looked
    cases begins with
    | add ingested =>
      obtain rfl : found = true := isFound
      exact ⟨stillOpen.symm, _, .add ingested, files⟩
    | remove id =>
      cases found with
      | false => exact .refused _ files
      | true => exact .succeeded _ (.remove id) files
  | .error error =>
    obtain ⟨-, ⟨rfl, isClosed, files⟩ | ⟨⟨fault, rfl⟩, files⟩⟩ := filed
    · rw [isClosed, Bool.and_true] at looked
      rw [← looked, continues.persisted] at files
      cases midway with
      | false => exact .refused _ files
      | true => exact .cutOff begins files
    · exact .failed midway fault files

/-- Only the stages of a write touch the store. -/
theorem store_next_of_ne_writing {stage : Stage} (idle : ∀ write, stage ≠ .writing write)
    (surroundings : Surroundings) (number : Nat) (change : Change) (shared : SharedService) :
    (stage.next surroundings number change shared).1.service.store = shared.service.store := by
  cases stage with
  | writing write => exact absurd rfl (idle write)
  | ingesting =>
    cases change with
    | remove id => rfl
    | add id kind upload =>
      have kept := Service.store_ingest surroundings shared.service id kind upload
      simp only [next]
      split <;> next ingested => rw [ingested] at kept; exact kept
  | called | waiting | checking => simp only [next]; split <;> rfl
  | listing | releasing | clearing | done => rfl

/-- A call that goes on keeps to where the JSON files should stand. -/
theorem Files.next {stage : Stage} {shared : SharedService}
    (filed : stage.Files surroundings change json shared.service.store midway) (number : Nat) :
    let after := stage.next surroundings number change shared
    after.2.Files surroundings change json after.1.service.store midway := by
  cases stage with
  | writing write =>
    obtain ⟨looked, isFiled, first, begins, continues⟩ := filed
    exact .ofWrite looked begins continues (isFiled.stage surroundings.device)
  | called =>
    obtain ⟨rfl, files⟩ := filed
    simp only [Stage.next]
    split
    · exact ⟨rfl, files⟩
    · exact .refused _ files
  | waiting =>
    obtain ⟨rfl, files⟩ := filed
    simp only [Stage.next]
    split
    · cases change with
      | add id kind upload => exact ⟨rfl, files⟩
      | remove id => exact (Change.Begins.remove id).files files
    · exact ⟨rfl, files⟩
  | checking =>
    obtain ⟨rfl, files⟩ := filed
    simp only [Stage.next]
    split
    · exact ⟨rfl, files⟩
    · exact .refused _ files
  | ingesting =>
    obtain ⟨rfl, files⟩ := filed
    cases change with
    | remove id => exact (Change.Begins.remove id).files files
    | add id kind upload =>
      have kept := Service.store_ingest surroundings shared.service id kind upload
      have alike := fun other => Service.ingest_eq surroundings shared.service other id kind upload
      simp only [Stage.next]
      split <;> next ingested =>
        rw [ingested] at kept alike
        rw [← kept] at files
        first
        | exact (Change.Begins.add alike).files files
        | exact .refused _ files
  | listing =>
    obtain ⟨looked, first, begins, files⟩ := filed
    cases isClosed : shared.service.store.shelf.isClosed with
    | false =>
      rw [isClosed] at looked
      obtain rfl := looked
      have listed := Service.ids_of_isOpen isClosed
      simp only [Stage.next, listed]
      exact .succeeded _ begins files
    | true =>
      rw [isClosed] at looked
      obtain rfl := looked
      have unlisted : shared.service.ids = .error (.store .closed) := by
        rw [Service.ids, Service.list_of_isClosed isClosed]
        rfl
      simp only [Stage.next, unlisted]
      exact .cutOff begins files
  | releasing result | clearing result | done result => exact filed

/-- A close keeps to where the JSON files should stand, too; it may come midway. -/
theorem Files.close {stage : Stage}
    (filed : stage.Files surroundings change json store midway) :
    stage.Files surroundings change json store.close
      (midway || stage.isPastCheck && !store.shelf.isClosed) := by
  cases stage with
  | writing write =>
    obtain ⟨rfl, isFiled, begun⟩ := filed
    refine ⟨?_, ⟨isFiled.files, isFiled.written, isFiled.found⟩, begun⟩
    rw [isPastCheck, ← Bool.and_or_distrib_left, Bool.or_not_self]
    rfl
  | listing =>
    obtain ⟨rfl, begun⟩ := filed
    exact ⟨Bool.or_not_self _, begun⟩
  | called | waiting | checking | ingesting =>
    obtain ⟨rfl, files⟩ := filed
    exact ⟨rfl, files⟩
  | releasing result | clearing result | done result =>
    rw [isPastCheck, Bool.false_and, Bool.or_false]
    cases filed with
    | succeeded ids begins files => exact .succeeded ids begins files
    | refused error files => exact .refused error files
    | failed midway fault files => exact .failed midway fault files
    | cutOff begins files => exact .cutOff begins files

end Stage

/-! ## Runs -/

namespace LoneCall

variable {folder : Folder} {call : LoneCall} {shared : SharedService}

/-- The JSON files of a call stand where they should, and its folder is one that file steps leave of
the folder before the call. -/
structure IsFiled (surroundings : Surroundings) (change : Change) (folder : Folder)
    (call : LoneCall) : Prop where
  files : call.stage.Files surroundings change folder.jsonFiles call.store call.midway
  stems : ∀ left, call.store.folder = some left → folder.Stems left

namespace IsFiled

/-- A call that has just been made has left everything as it was. -/
theorem start (hasFolder : shared.service.store.folder = some folder) (surroundings : Surroundings)
    (change : Change) : (start shared).IsFiled surroundings change folder where
  files := ⟨rfl, congrArg (Option.map Folder.jsonFiles) hasFolder⟩
  stems left found := by
    obtain rfl : folder = left := Option.some.inj (hasFolder.symm.trans found)
    exact .refl folder

/-- The next stage keeps to it, and so does a close. -/
theorem step (isFiled : call.IsFiled surroundings change folder) (number : Nat) (move : Move) :
    (call.step surroundings number change move).IsFiled surroundings change folder := by
  cases move with
  | close => exact ⟨isFiled.files.close, isFiled.stems⟩
  | stage =>
    refine ⟨isFiled.files.next number, fun left found => ?_⟩
    obtain ⟨shared, stage, midway⟩ := call
    have stems := isFiled.stems
    by_cases writes : ∃ write, stage = .writing write
    · obtain ⟨write, rfl⟩ := writes
      exact StoreWrite.folder_stage (fun _ step stems => stems.perform surroundings.device step)
        stems write left found
    · have kept := Stage.store_next_of_ne_writing (fun write same => writes ⟨write, same⟩)
        surroundings number change shared
      exact stems left ((congrArg Store.folder kept).symm.trans found)

/-- Any stages and closes keep to it. -/
theorem run (isFiled : call.IsFiled surroundings change folder) (number : Nat)
    (moves : List Move) :
    (call.run surroundings number change moves).IsFiled surroundings change folder := by
  induction moves generalizing call with
  | nil => exact isFiled
  | cons move rest ih => exact ih (isFiled.step number move)

end IsFiled

/-- However the stages of one addition or removal and closes of the service come one after another,
on a store that has a folder: if the call succeeds, it has not been closed midway, and the JSON
files are those that its write leads to. If it fails and has not been closed midway, they are those
from before the call, and wherever a store could have been opened on the folder before, one with the
same datasets can be opened now. If it fails and has been closed midway, then either the device has
failed and the JSON files are those from before; or the call says that the store is closed, and the
JSON files are those that a success leaves. -/
theorem jsonFiles_of_run (hasFolder : shared.service.store.folder = some folder)
    (surroundings : Surroundings) (number : Nat) (change : Change) (moves : List Move) :
    let call := (start shared).run surroundings number change moves
    ∀ result, call.stage.result? = some result → ∃ left, call.store.folder = some left ∧
      (∀ ids, result = .ok ids → call.midway = false ∧
        ∃ first, change.Begins surroundings first ∧
          left.jsonFiles = first.persisted folder.jsonFiles) ∧
      ∀ error, result = .error error →
        (call.midway = false → left.jsonFiles = folder.jsonFiles ∧
          ∀ device cleared store, Store.onFolder device folder = (cleared, .ok store) →
            ∃ after reopened, Store.onFolder Device.sound left = (after, .ok reopened) ∧
              reopened.shelf = store.shelf) ∧
        (call.midway = true →
          ((∃ fault, error = .store (.io fault)) ∧ left.jsonFiles = folder.jsonFiles) ∨
          (error = .store .closed ∧ ∃ first, change.Begins surroundings first ∧
            left.jsonFiles = first.persisted folder.jsonFiles)) := by
  intro call result ended
  have isFiled : call.IsFiled surroundings change folder :=
    (IsFiled.start hasFolder surroundings change).run number moves
  have leaves := isFiled.files
  rw [Stage.result?_eq_some_iff.1 ended] at leaves
  -- what a later opening finds if the JSON files are those from before
  have reopen {left : Folder} (found : call.store.folder = some left)
      (same : left.jsonFiles = folder.jsonFiles) (device : Device) (cleared : Folder)
      (store : Store) (opened : Store.onFolder device folder = (cleared, .ok store)) :
      ∃ after reopened, Store.onFolder Device.sound left = (after, .ok reopened) ∧
        reopened.shelf = store.shelf :=
    Store.onFolder_of_jsonFiles_eq opened (isFiled.stems left found) same
  generalize call.midway = midway at leaves
  cases leaves with
  | succeeded ids begins files =>
    obtain ⟨left, found, persisted⟩ := Option.map_eq_some_iff.1 files
    exact ⟨left, found, fun _ _ => ⟨rfl, _, begins, persisted⟩, nofun⟩
  | refused error files =>
    obtain ⟨left, found, same⟩ := Option.map_eq_some_iff.1 files
    exact ⟨left, found, nofun, fun _ _ => ⟨fun _ => ⟨same, reopen found same⟩, nofun⟩⟩
  | failed midway fault files =>
    obtain ⟨left, found, same⟩ := Option.map_eq_some_iff.1 files
    refine ⟨left, found, nofun, ?_⟩
    rintro error ⟨⟩
    exact ⟨fun _ => ⟨same, reopen found same⟩, fun _ => .inl ⟨⟨fault, rfl⟩, same⟩⟩
  | cutOff begins files =>
    obtain ⟨left, found, persisted⟩ := Option.map_eq_some_iff.1 files
    refine ⟨left, found, nofun, ?_⟩
    rintro error ⟨⟩
    exact ⟨nofun, fun _ => .inr ⟨rfl, _, begins, persisted⟩⟩

/-- A service on an empty folder. -/
def onEmptyFolder : SharedService := ⟨.onStore ⟨.empty, some ∅⟩ 5000, .empty⟩

/-- A dataset is added to an empty folder, and the service is closed after so many of the eleven
stages of the addition. -/
def closedAfter (stages : Nat) : LoneCall :=
  (start onEmptyFolder).run ⟨Device.sound, fun _ => .error ""⟩ 0
    (.add "courses" .sections Service.oneSection)
    (List.replicate stages .stage ++ .close :: List.replicate (11 - stages) .stage)

/-- A close before the write has looked leaves no JSON file; a close before the blob gets its name
leaves the JSON files of a success. -/
theorem jsonFiles_closedAfter :
    ((closedAfter 4).stage.result? = some (.error (.store .closed)) ∧
      ∃ left, (closedAfter 4).store.folder = some left ∧ left.jsonFiles = Folder.jsonFiles ∅) ∧
    (closedAfter 6).stage.result? = some (.error (.store .closed)) ∧
      ∃ left d, (closedAfter 6).store.folder = some left ∧ d.id = "courses" ∧
        left.jsonFiles = (Folder.jsonFiles ∅).insert (Blob.name d.id) (.file (Blob.content d)) := by
  have early : (closedAfter 4).stage.result? = some (.error (.store .closed)) := by decide +kernel
  have late : (closedAfter 6).stage.result? = some (.error (.store .closed)) := by decide +kernel
  have unclosed : (closedAfter 4).midway = false := by decide +kernel
  have midway : (closedAfter 6).midway = true := by decide +kernel
  have hasFolder : onEmptyFolder.service.store.folder = some ∅ := rfl
  unfold closedAfter at *
  obtain ⟨left, found, -, failed⟩ := jsonFiles_of_run hasFolder _ _ _ _ _ early
  obtain ⟨lateLeft, lateFound, -, lateFailed⟩ := jsonFiles_of_run hasFolder _ _ _ _ _ late
  refine ⟨⟨early, left, found, ((failed _ rfl).1 unclosed).1⟩, late, lateLeft, ?_⟩
  rcases (lateFailed _ rfl).2 midway with ⟨⟨fault, differs⟩, -⟩ | ⟨-, first, begins, persisted⟩
  · cases differs
  · have own := begins.id
    cases begins with
    | @add _ _ _ d ingested => exact ⟨d, lateFound, own, persisted⟩

/-- The service is closed right before the addition lists the ids. The addition fails, its blob is
there, and a store that is opened later has the dataset. -/
theorem jsonFiles_changed_of_closedAfter :
    let call := closedAfter 8
    call.stage.result? = some (.error (.store .closed)) ∧
      (call.store.folder.map fun left => left.jsonFiles.keys) = some ["Y291cnNlcw.json"] ∧
      (call.store.folder.map fun left => (Store.onFolder Device.sound left).2.bind fun reopened =>
        reopened.contains "courses") = some (.ok true) := by
  decide +kernel

end LoneCall

end Campus
