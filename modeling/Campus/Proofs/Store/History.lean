import Campus.Proofs.Store.Stages
/-!
# Histories of a store

A store with a folder is asked for one thing after another, and each time the device may fail other
file steps. It answers like a store in memory that is never asked for what failed, and its JSON files
are the blobs of the datasets on its shelf.
-/

namespace Campus

/-- What a store is asked for. -/
inductive StoreCall
  | put (dataset : Dataset)
  | get (id : String)
  | contains (id : String)
  | delete (id : String)
  | list
  | close
deriving DecidableEq

/-- What a store replies. -/
inductive StoreReply
  | done
  | found (dataset : Option Dataset)
  | flag (answer : Bool)
  | listing (summaries : List DatasetSummary)
deriving DecidableEq

/-- Whether one of some steps fails when they are performed one after another. -/
def Folder.fails (device : Device) : Folder → List FileStep → Bool
  | _, [] => false
  | folder, step :: rest =>
    match folder.perform device step with
    | (changed, .ok ()) => changed.fails device rest
    | (_, .error _) => true

namespace Store

/-- Reply to a call. -/
def reply (device : Device) (store : Store) : StoreCall → Store × Except StoreError StoreReply
  | .put dataset =>
    let (store, outcome) := store.put device dataset
    (store, outcome.map fun _ => .done)
  | .get id => (store, (store.get? id).map .found)
  | .contains id => (store, (store.contains id).map .flag)
  | .delete id =>
    let (store, outcome) := store.delete device id
    (store, outcome.map .flag)
  | .list => (store, store.list.map .listing)
  | .close => (store.close, .ok .done)

/-- The store after some calls, each with what the device is like meanwhile. -/
def after (store : Store) (history : List (Device × StoreCall)) : Store :=
  history.foldl (fun store (device, call) => (store.reply device call).1) store

/-- The file steps that a call asks for. -/
def fileSteps (store : Store) : StoreCall → List FileStep
  | .put dataset => if store.shelf.isClosed then [] else (StoreWrite.put dataset).fileSteps
  | .delete id =>
    if !store.shelf.isClosed && store.shelf.datasets.contains id then
      (StoreWrite.delete id).fileSteps
    else []
  | .get _ | .contains _ | .list | .close => []

/-- Whether a file step of a call fails. -/
def hitsFault (device : Device) (store : Store) (call : StoreCall) : Bool :=
  store.folder.any fun folder => folder.fails device (store.fileSteps call)

/-- The calls of a history without those of which a file step fails. -/
def unhindered (store : Store) : List (Device × StoreCall) → List (Device × StoreCall)
  | [] => []
  | (device, call) :: rest =>
    let others := (store.reply device call).1.unhindered rest
    if store.hitsFault device call then others else (device, call) :: others

end Store

namespace Folder.Backs

variable {folder : Folder} {view : String → Option Dataset} {id : String}

/-- The file steps of an addition fail exactly if one of them does not pass. -/
theorem fails_put (backs : folder.Backs view) (device : Device) (d : Dataset) :
    folder.fails device (StoreWrite.put d).fileSteps =
      !(StoreWrite.put d).fileSteps.all (FileStep.passes device) := by
  simp only [StoreWrite.fileSteps, fails, List.all_cons, List.all_nil, Bool.and_true]
  rcases backs.perform_write device d.id (Blob.content d) with
    ⟨passes, done⟩ | ⟨stuck, left, fault, failed, -⟩
  · rw [passes, done]
    dsimp only
    have written : (folder.insert (Blob.incompleteName d.id) (.file (Blob.content d))).get?
        (Blob.incompleteName d.id) = some (.file (Blob.content d)) :=
      (Keyed.get?_insert ..).trans (if_pos rfl)
    rcases (backs.insert_incompleteName d.id _).perform_rename device d.id written with
      ⟨passes, done⟩ | ⟨stuck, fault, failed⟩
    · rw [passes, done]
      rfl
    · rw [stuck, failed]
      rfl
  · rw [stuck, failed]
    rfl

/-- The file step of a deletion fails exactly if it does not pass. -/
theorem fails_delete (backs : folder.Backs view) (device : Device) {d : Dataset}
    (held : view id = some d) :
    folder.fails device (StoreWrite.delete id).fileSteps =
      !(StoreWrite.delete id).fileSteps.all (FileStep.passes device) := by
  simp only [StoreWrite.fileSteps, fails, List.all_cons, List.all_nil, Bool.and_true]
  rcases backs.perform_remove device held with ⟨passes, done⟩ | ⟨stuck, fault, -, failed⟩
  · rw [passes, done]
    rfl
  · rw [stuck, failed]
    rfl

end Folder.Backs

namespace Store

/-- A store with a folder that backs its shelf, and a store in memory with the same shelf. -/
structure Tracks (store memory : Store) : Prop where
  shelf : memory.shelf = store.shelf
  inMemory : memory.folder = none
  backed : ∃ folder, store.folder = some folder ∧ folder.Backs store.shelf.datasets.get?

variable {store memory : Store}

/-- A store on the empty folder tracks the empty store in memory. -/
theorem tracks_empty : Tracks ⟨.empty, some ∅⟩ (.inMemory []) :=
  ⟨rfl, rfl, ∅, rfl, .empty⟩

/-- A write hits a fault, fails and leaves the shelf as it was, or hits none and does what it does in
memory. -/
theorem perform_of_tracks (tracks : store.Tracks memory) (isOpen : store.shelf.isClosed = false)
    {write : StoreWrite} (begins : (∃ d, write = .put d) ∨ ∃ id, write = .delete id)
    (device other : Device) :
    let faulty := write.finds store.shelf && !write.passes device store
    let outcome := write.perform device store
    let inMemory := write.perform other memory
    (faulty = true ∧ (∃ fault, outcome.2 = .error (.io fault)) ∧
        outcome.1.shelf = store.shelf ∧ outcome.1.Tracks memory) ∨
      (faulty = false ∧ outcome.2 = inMemory.2 ∧ outcome.1.Tracks inMemory.1) := by
  intro faulty outcome inMemory
  obtain ⟨folder, hasFolder, backs⟩ := tracks.backed
  have underWay : write.IsUnderWay store store.shelf.datasets.get? := by
    refine StoreWrite.isUnderWay_of_begins isOpen (fun found same => ?_) begins rfl
    rw [hasFolder] at same
    exact Option.some.inj same ▸ backs
  have alike : write.IsUnderWay memory memory.shelf.datasets.get? := by
    refine StoreWrite.isUnderWay_of_begins (tracks.shelf ▸ isOpen) (fun found same => ?_) begins rfl
    rw [tracks.inMemory] at same
    cases same
  have backed : ∃ folder, outcome.1.folder = some folder ∧
      folder.Backs outcome.1.shelf.datasets.get? := by
    have kept := (underWay.leaves_perform device).hasFolder
    rw [hasFolder, Option.isSome_some, Option.isSome_iff_exists] at kept
    obtain ⟨after, hasAfter⟩ := kept
    exact ⟨after, hasAfter, StoreWrite.backs_perform underWay device after hasAfter⟩
  have noFolder : inMemory.1.folder = none := by
    have kept := (alike.leaves_perform other).hasFolder
    rwa [tracks.inMemory, Option.isSome_none, Option.isSome_eq_false_iff,
      Option.isNone_iff_eq_none] at kept
  obtain ⟨memoryDone, memoryShelf⟩ : inMemory.2 = .ok (write.finds store.shelf) ∧
      inMemory.1.shelf = write.target store.shelf := by
    rw [← tracks.shelf]
    rcases alike.perform other with ⟨done, shelf, -⟩ | ⟨-, -, -, stuck⟩
    · exact ⟨done, shelf⟩
    · rw [StoreWrite.passes, tracks.inMemory] at stuck
      cases stuck
  rcases underWay.perform device with ⟨done, shelf, passes⟩ | ⟨failed, shelf, finds, stuck⟩
  · refine .inr ⟨?_, done.trans memoryDone.symm, memoryShelf.trans shelf.symm, noFolder, backed⟩
    cases finds : write.finds store.shelf with
    | true => simp [faulty, passes finds]
    | false => simp [faulty, finds]
  · refine .inl ⟨by simp [faulty, finds, stuck], failed, shelf, ?_⟩
    exact ⟨tracks.shelf.trans shelf.symm, tracks.inMemory, backed⟩

/-- The file steps of a call to an open store fail exactly if the write finds something to do and
the device does not let it pass. -/
theorem hitsFault_of_tracks (tracks : store.Tracks memory) (isOpen : store.shelf.isClosed = false)
    (device : Device) :
    (∀ d, store.hitsFault device (.put d) = !(StoreWrite.put d).passes device store) ∧
      ∀ id, store.hitsFault device (.delete id) =
        ((StoreWrite.delete id).finds store.shelf && !(StoreWrite.delete id).passes device store) := by
  obtain ⟨folder, hasFolder, backs⟩ := tracks.backed
  simp only [hitsFault, hasFolder, Option.any_some, StoreWrite.passes, Option.isNone_some,
    Bool.false_or, fileSteps, isOpen, Bool.false_eq_true, if_false, Bool.not_false, Bool.true_and]
  refine ⟨fun d => backs.fails_put device d, fun id => ?_⟩
  cases held : store.shelf.datasets.get? id with
  | none =>
    have absent : store.shelf.datasets.contains id = false := by
      rw [Keyed.contains, held]
      rfl
    simp only [absent, StoreWrite.finds, Bool.false_and]
    rfl
  | some d =>
    have present : store.shelf.datasets.contains id = true := by
      rw [Keyed.contains, held]
      rfl
    simp only [present, StoreWrite.finds, Bool.true_and]
    exact backs.fails_delete device held

/-- A closed store replies to nothing but a further closing, and does nothing. -/
theorem reply_of_isClosed (isClosed : store.shelf.isClosed = true) {call : StoreCall}
    (differs : call ≠ .close) (device : Device) :
    store.reply device call = (store, .error .closed) := by
  have refused : store.shelf.check = .error .closed := if_pos isClosed
  cases call with
  | put d =>
    rw [reply, put, StoreWrite.perform_put_of_isClosed isClosed]
    rfl
  | delete id =>
    rw [reply, delete, StoreWrite.perform_delete_of_isClosed isClosed]
    rfl
  | get id =>
    rw [reply, get?, Shelf.get?, refused]
    rfl
  | contains id =>
    rw [reply, contains, Shelf.contains, refused]
    rfl
  | list =>
    rw [reply, list, Shelf.list, refused]
    rfl
  | close => exact absurd rfl differs

/-- A closed store stays closed. -/
theorem isClosed_reply (isClosed : store.shelf.isClosed = true) (device : Device)
    (call : StoreCall) : (store.reply device call).1.shelf.isClosed = true := by
  by_cases closing : call = .close
  · rw [closing]
    rfl
  · rw [reply_of_isClosed isClosed closing]
    exact isClosed

/-- A store that has been closed stays closed. -/
theorem isClosed_after {history : List (Device × StoreCall)}
    (closed : store.shelf.isClosed = true ∨ ∃ device, (device, .close) ∈ history) :
    (store.after history).shelf.isClosed = true := by
  induction history generalizing store with
  | nil =>
    rcases closed with isClosed | ⟨device, member⟩
    · exact isClosed
    · cases member
  | cons first rest ih =>
    obtain ⟨device, call⟩ := first
    refine ih ?_
    rcases closed with isClosed | ⟨closing, member⟩
    · exact .inl (isClosed_reply isClosed device call)
    · rcases List.mem_cons.1 member with same | later
      · cases same
        exact .inl rfl
      · exact .inr ⟨closing, later⟩

/-- A call hits a fault and leaves the store with the same shelf, or hits none and does what it does
in memory. -/
theorem reply_of_tracks (tracks : store.Tracks memory) (device : Device) (call : StoreCall) :
    (store.hitsFault device call = true ∧
        (∃ fault, (store.reply device call).2 = .error (.io fault)) ∧
        (store.reply device call).1.shelf = store.shelf ∧
        (store.reply device call).1.Tracks memory) ∨
      (store.hitsFault device call = false ∧
        (store.reply device call).2 = (memory.reply device call).2 ∧
        (store.reply device call).1.Tracks (memory.reply device call).1) := by
  have noSteps (none : store.fileSteps call = []) : store.hitsFault device call = false := by
    rw [hitsFault, none]
    cases store.folder <;> rfl
  cases isOpen : store.shelf.isClosed with
  | true =>
    have memoryClosed : memory.shelf.isClosed = true := by rwa [tracks.shelf]
    have idle : store.fileSteps call = [] := by cases call <;> simp [fileSteps, isOpen]
    refine .inr ⟨noSteps idle, ?_⟩
    by_cases closing : call = .close
    · obtain rfl := closing
      exact ⟨rfl, congrArg Shelf.close tracks.shelf, tracks.inMemory, tracks.backed⟩
    · rw [reply_of_isClosed isOpen closing, reply_of_isClosed memoryClosed closing]
      exact ⟨rfl, tracks⟩
  | false =>
    obtain ⟨putFault, deleteFault⟩ := hitsFault_of_tracks tracks isOpen device
    cases call with
    | put d =>
      rw [putFault d]
      rcases perform_of_tracks tracks isOpen (.inl ⟨d, rfl⟩) device device with
        ⟨faulty, ⟨fault, failed⟩, shelf, after⟩ | ⟨faulty, same, after⟩
      · exact .inl ⟨faulty, ⟨fault, by simp only [reply, put, failed, Except.map]⟩, shelf, after⟩
      · exact .inr ⟨faulty, by simp only [reply, put, same], after⟩
    | delete id =>
      rw [deleteFault id]
      rcases perform_of_tracks tracks isOpen (.inr ⟨id, rfl⟩) device device with
        ⟨faulty, ⟨fault, failed⟩, shelf, after⟩ | ⟨faulty, same, after⟩
      · exact .inl ⟨faulty, ⟨fault, by simp only [reply, delete, failed, Except.map]⟩, shelf, after⟩
      · exact .inr ⟨faulty, by simp only [reply, delete, same], after⟩
    | get | contains | list =>
      refine .inr ⟨noSteps rfl, ?_, tracks⟩
      simp only [reply, get?, contains, list, tracks.shelf]
    | close =>
      refine .inr ⟨noSteps rfl, rfl, ?_⟩
      exact ⟨congrArg Shelf.close tracks.shelf, tracks.inMemory, tracks.backed⟩

/-- After any history a store tracks the one in memory that was not asked for what failed. -/
theorem tracks_after (tracks : store.Tracks memory) (history : List (Device × StoreCall)) :
    (store.after history).Tracks (memory.after (store.unhindered history)) := by
  induction history generalizing store memory with
  | nil => exact tracks
  | cons first rest ih =>
    obtain ⟨device, call⟩ := first
    rcases reply_of_tracks tracks device call with ⟨faulty, -, -, after⟩ | ⟨faultless, -, after⟩
    · have left : store.unhindered ((device, call) :: rest) =
          (store.reply device call).1.unhindered rest := if_pos faulty
      rw [left]
      exact ih after
    · have kept : store.unhindered ((device, call) :: rest) =
          (device, call) :: (store.reply device call).1.unhindered rest := by
        rw [unhindered, faultless]
        rfl
      rw [kept]
      exact ih after

/-- Whatever a store on an empty folder has been asked for and whatever file steps the device failed
meanwhile: its JSON files are the blobs of what is on its shelf; a call of which a file step fails
reports that and changes neither the shelf nor the JSON files; any other call is replied to like in
memory after the history without the calls that failed so; and after a closing nothing is replied to
and no file is touched. -/
theorem reply_after_history (opening : Device) :
    ∃ store, onFolder opening ∅ = (∅, .ok store) ∧
      ∀ (history : List (Device × StoreCall)) (device : Device) (call : StoreCall),
        let before := store.after history
        let memory := (inMemory []).after (store.unhindered history)
        let after := (before.reply device call).1
        let replied := (before.reply device call).2
        (∃ folder, after.folder = some folder ∧ folder.jsonFiles.entries.Perm
          (after.shelf.datasets.entries.map fun (id, d) =>
            (Blob.name id, .file (Blob.content d)))) ∧
        (before.hitsFault device call = true →
          (∃ fault, replied = .error (.io fault)) ∧ after.shelf = before.shelf ∧
            after.folder.map Folder.jsonFiles = before.folder.map Folder.jsonFiles) ∧
        (before.hitsFault device call = false → replied = (memory.reply device call).2) ∧
        ((∃ closing, (closing, .close) ∈ history) → call ≠ .close →
          replied = .error .closed ∧ after = before) := by
  refine ⟨⟨.empty, some ∅⟩, rfl, fun history device call => ?_⟩
  intro before memory after replied
  have tracks : before.Tracks memory := tracks_after tracks_empty history
  have outcome := reply_of_tracks tracks device call
  have backed : ∃ folder, after.folder = some folder ∧
      folder.Backs after.shelf.datasets.get? := by
    rcases outcome with ⟨-, -, -, tracks⟩ | ⟨-, -, tracks⟩ <;> exact tracks.backed
  obtain ⟨folder, hasFolder, backs⟩ := backed
  refine ⟨⟨folder, hasFolder, backs.jsonFiles_perm⟩, fun faulty => ?_, fun faultless => ?_,
    fun closed differs => ?_⟩
  · rcases outcome with ⟨-, failed, shelf, -⟩ | ⟨faultless, -⟩
    · refine ⟨failed, shelf, ?_⟩
      obtain ⟨old, hadFolder, oldBacks⟩ := tracks.backed
      have sameShelf : after.shelf = before.shelf := shelf
      rw [sameShelf] at backs
      rw [hasFolder, hadFolder, Option.map_some, Option.map_some, oldBacks.jsonFiles_eq backs]
    · rw [faulty] at faultless
      cases faultless
  · rcases outcome with ⟨faulty, -⟩ | ⟨-, same, -⟩
    · rw [faulty] at faultless
      cases faultless
    · exact same
  · have isClosed : before.shelf.isClosed = true := isClosed_after (.inr closed)
    have refused := reply_of_isClosed isClosed differs device
    exact ⟨congrArg Prod.snd refused, congrArg Prod.fst refused⟩

/-- A dataset without rows. -/
def noRows : Dataset := .ofRecords "rows" .rooms []

/-- A device on which blobs can be written but do not get their names. -/
def unnamed : Device
  | .rename _ _ => some .refused
  | .write _ _ | .remove _ => none

/-- The dataset is put again after its blob did not get its name: the store in memory was not asked
the first time. -/
theorem reply_after_unnamed :
    ∃ store, onFolder Device.sound ∅ = (∅, .ok store) ∧
      store.hitsFault unnamed (.put noRows) = true ∧
      ((store.after [(unnamed, .put noRows)]).reply Device.sound (.put noRows)).2 =
        ((inMemory []).reply Device.sound (.put noRows)).2 := by
  obtain ⟨store, opened, replies⟩ := reply_after_history Device.sound
  obtain rfl : ⟨.empty, some ∅⟩ = store := Except.ok.inj (congrArg Prod.snd opened)
  have faulty : hitsFault unnamed ⟨.empty, some ∅⟩ (.put noRows) = true := by decide +kernel
  have leftOut : unhindered ⟨.empty, some ∅⟩ [(unnamed, .put noRows)] = [] := by
    rw [unhindered, if_pos faulty]
    rfl
  have again := (replies [(unnamed, .put noRows)] Device.sound (.put noRows)).2.2.1
    (by decide +kernel)
  rw [leftOut] at again
  exact ⟨_, opened, faulty, again⟩

end Store
end Campus
