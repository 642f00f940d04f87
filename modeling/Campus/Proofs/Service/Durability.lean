import Campus.Proofs.Service.Reopening
import Campus.Proofs.Store.Contents
/-!
# What an addition leaves for the next opening

On a device that fails no step the folder can be opened again after an addition exactly if every
stored number is finite. Years and seats are read from texts that may spell an infinity or NaN; such
an upload is accepted, and from then on the folder cannot be opened any more. Where it can be opened
the addition is there, with what its numbers are read as: with the same values exactly if their
printed forms are read with correct rounding.
-/

namespace Campus

namespace Store

/-- What is on the shelf of a store whose folder has the blobs of some datasets: each of them, as it
was written or as it is read. -/
def Reflects (shown held : Keyed Dataset) : Prop :=
  ∀ id, shown.get? id = held.get? id ∨ shown.get? id = (held.get? id).map Dataset.reread

/-- An open store that has datasets on its shelf whose blobs are in its folder, as they were written
or as they are read. -/
def IsBacked (store : Store) : Prop :=
  ∃ shown held folder, store = filed shown folder ∧ folder.IsFiling held ∧ Reflects shown held

variable {datasets shown held : Keyed Dataset} {folder : Folder}

/-- Putting a dataset keeps the shelf as the blobs are. -/
theorem Reflects.add (reflects : Reflects shown held) (d : Dataset) :
    Reflects (Shelf.add shown d) (Shelf.add held d) := by
  intro id
  rw [Shelf.add, Shelf.add, Keyed.get?_insert, Keyed.get?_insert]
  split
  · exact .inl rfl
  · exact reflects id

/-- What is said of the ids, sizes and finiteness of datasets holds of those on the shelf exactly if
it holds of those with a blob. -/
theorem Reflects.forall_iff (reflects : Reflects shown held) {P : String → Dataset → Prop}
    (same : ∀ id d, P id d.reread ↔ P id d) :
    (∀ id d, shown.get? id = some d → P id d) ↔ ∀ id d, held.get? id = some d → P id d := by
  refine forall_congr' fun id => ?_
  rcases reflects id with alike | read
  · rw [alike]
  · rw [read]
    simp only [Option.map_eq_some_iff, forall_exists_index, and_imp, forall_apply_eq_imp_iff₂, same]

/-- A store can be opened on a folder of blobs exactly if all numbers held there are finite. -/
theorem exists_onFolder_iff (filing : folder.IsFiling datasets)
    (stored : ∀ id d, datasets.get? id = some d → d.id = id ∧ id ≠ "")
    (sizes : ∀ id d, datasets.get? id = some d → d.numRows < 0x10000000000000000)
    (device : Device) :
    (∃ reopened, (onFolder device folder).2 = .ok reopened) ↔
      ∀ id d, datasets.get? id = some d → d.IsFinite := by
  constructor
  · rintro ⟨reopened, opened⟩ id d held
    have blob : (Blob.name id, FolderItem.file (Blob.content d)) ∈ folder.entries := by
      rw [Keyed.mem_entries_iff, filing.blobs, held, Option.map_some]
    refine (Dataset.isStorable_of_parse?_content ?_).finite
    rw [onFolder] at opened
    split at opened
    · next collected =>
      exact Blob.isSome_parse?_of_collect collected blob (Blob.isBlob_name (stored id d held).2)
    · cases opened
  · intro finite
    rw [onFolder_eq filing fun id d held => ⟨(stored id d held).1, (stored id d held).2,
      sizes id d held, finite id d held⟩]
    exact ⟨_, rfl⟩

/-- A store that is opened on a folder of blobs has on its shelf what their datasets are read as. -/
theorem eq_filed_of_onFolder (filing : folder.IsFiling datasets)
    (stored : ∀ id d, datasets.get? id = some d → d.id = id ∧ id ≠ "")
    (sizes : ∀ id d, datasets.get? id = some d → d.numRows < 0x10000000000000000)
    {device : Device} {reopened : Store} (opened : (onFolder device folder).2 = .ok reopened) :
    reopened = filed (datasets.map Dataset.reread) folder := by
  have finite := (exists_onFolder_iff filing stored sizes device).1 ⟨reopened, opened⟩
  rw [onFolder_eq filing fun id d held => ⟨(stored id d held).1, (stored id d held).2,
    sizes id d held, finite id d held⟩] at opened
  exact (Except.ok.inj opened).symm

end Store

namespace Service

variable {service after : Service} {gazetteer : Gazetteer} {id : String} {kind : DatasetKind}
  {upload : Upload} {ids : List String}

/-- What is left to an addition that succeeds: the dataset of the upload is put on the shelf, and its
blob into the folder. -/
theorem filed_of_add {shown held : Keyed Dataset} {folder : Folder}
    (store : service.store = .filed shown folder) (filing : folder.IsFiling held)
    (added : service.add ⟨Device.sound, gazetteer⟩ id kind upload = (after, .ok ids)) :
    ∃ d, (service.ingest ⟨Device.sound, gazetteer⟩ id kind upload).2 = .ok d ∧
      after.store = .filed (Shelf.add shown d)
        (folder.insert (Blob.name d.id) (.file (Blob.content d))) := by
  have same := store_ingest ⟨Device.sound, gazetteer⟩ service id kind upload
  unfold add at added
  split at added
  · cases added
  · cases added
  split at added
  · cases added
  next ingested dataset ingestion =>
  rw [ingestion] at same
  refine ⟨dataset, by rw [ingestion], ?_⟩
  have put := @Store.put_filed folder held shown filing dataset
  rw [← store, ← same] at put
  unfold commit at added
  dsimp only at added
  rw [put] at added
  cases long : Folder.isTooLong (Blob.incompleteName dataset.id) with
  | true =>
    rw [long, if_pos rfl] at added
    cases added
  | false =>
    rw [long, if_neg Bool.false_ne_true] at added
    cases added
    rfl

/-- What is opened after a service is closed stands on the folder of the service. -/
theorem reopen_eq_ok_iff {datasets : Keyed Dataset} {folder : Folder}
    (store : service.store = .filed datasets folder) {device : Device} {reopened : Service} :
    service.reopen device = .ok reopened ↔
      ∃ opened, (Store.onFolder device folder).2 = .ok opened ∧
        onStore opened service.rowLimit = reopened := by
  have opening : service.reopen device =
      (Store.onFolder device folder).2.map fun opened => onStore opened service.rowLimit := by
    rw [reopen, close, Store.close, store]
    rfl
  rw [opening]
  cases (Store.onFolder device folder).2 <;> simp [Except.map]

/-- After an addition to a service whose folder has the blobs of its datasets, as they were written
or as they are read, another service can be opened on the folder exactly if all numbers that are
stored are finite. It has what the added dataset is read as, which equals it exactly if its numbers
are read with correct rounding. The folder of either service has the blobs of its datasets again.
That the size of a dataset is a machine word is no restriction for data that fits in memory. -/
theorem reopen_of_add_iff (backed : service.store.IsBacked)
    (wellFormed : service.store.shelf.IsWellFormed)
    (added : service.add ⟨Device.sound, gazetteer⟩ id kind upload = (after, .ok ids))
    (sizes : ∀ other d, after.store.get? other = .ok (some d) → d.numRows < 0x10000000000000000) :
    ∃ committed, (service.ingest ⟨Device.sound, gazetteer⟩ id kind upload).2 = .ok committed ∧
      after.store.get? id = .ok (some committed) ∧ after.store.IsBacked ∧
      ((∃ reopened, after.reopen Device.sound = .ok reopened) ↔
        ∀ other d, after.store.get? other = .ok (some d) → d.IsFinite) ∧
      ∀ reopened, after.reopen Device.sound = .ok reopened →
        reopened.store.get? id = .ok (some committed.reread) ∧
          (committed.reread.Equals committed ↔ committed.IsReadNearest) ∧
            reopened.store.IsBacked := by
  obtain ⟨shown, held, folder, store, filing, reflects⟩ := backed
  obtain ⟨committed, ingested, afterStore⟩ := filed_of_add store filing added
  have own : committed.id = id := id_of_ingest ingested
  have afterFiling := Folder.isFiling_insert filing committed
  have reflected := reflects.add committed
  have wellFormedAfter : after.store.shelf.IsWellFormed := by
    have kept : (service.add ⟨Device.sound, gazetteer⟩ id kind upload).1.store.shelf.IsWellFormed :=
      isWellFormed_add wellFormed id kind upload
    rwa [added] at kept
  have looked (other : String) (found : Option Dataset) : after.store.get? other = .ok found ↔
      (Shelf.add shown committed).get? other = found := by
    rw [afterStore, Store.get?, Shelf.get?_eq_ok_iff]
    exact and_iff_right rfl
  have put (datasets : Keyed Dataset) :
      (Shelf.add datasets committed).get? id = some committed := by
    rw [Shelf.add, Keyed.get?_insert, if_pos own.symm]
  rw [afterStore] at wellFormedAfter
  have stored := (reflected.forall_iff (P := fun other d => d.id = other ∧ other ≠ "")
    fun _ _ => Iff.rfl).1 fun _ _ found => Shelf.id_of_isWellFormed wellFormedAfter found
  simp only [looked] at sizes ⊢
  have sizes := (reflected.forall_iff (P := fun _ d => d.numRows < 0x10000000000000000)
    fun _ _ => Iff.rfl).1 sizes
  refine ⟨committed, ingested, put shown, ⟨_, _, _, afterStore, afterFiling, reflected⟩, ?_,
    fun reopened again => ?_⟩
  · rw [reflected.forall_iff fun _ _ => Dataset.isFinite_reread_iff,
      ← Store.exists_onFolder_iff afterFiling stored sizes Device.sound]
    simp only [reopen_eq_ok_iff afterStore]
    constructor
    · rintro ⟨reopened, opened, onFolder, -⟩
      exact ⟨opened, onFolder⟩
    · rintro ⟨opened, onFolder⟩
      exact ⟨_, opened, onFolder, rfl⟩
  · obtain ⟨opened, onFolder, rfl⟩ := (reopen_eq_ok_iff afterStore).1 again
    have finite := (Store.exists_onFolder_iff afterFiling stored sizes Device.sound).1
      ⟨opened, onFolder⟩
    obtain rfl := Store.eq_filed_of_onFolder afterFiling stored sizes onFolder
    refine ⟨Shelf.get?_eq_ok_iff.2 ⟨rfl, ?_⟩, Dataset.reread_equals_iff (finite id _ (put held)),
      _, _, _, rfl, afterFiling, fun other => .inr (Keyed.get?_map ..)⟩
    exact (Keyed.get?_map ..).trans (by rw [put held, Option.map_some])

/-- A section of finite numbers is there again, with the same values. -/
theorem reopen_of_add_oneSection :
    let empty := onStore ⟨.empty, some ∅⟩ 5000
    let after := (empty.add ⟨Device.sound, fun _ => .error ""⟩ "courses" .sections oneSection).1
    ∃ committed reopened found, after.store.get? "courses" = .ok (some committed) ∧
      after.reopen Device.sound = .ok reopened ∧
      reopened.store.get? "courses" = .ok (some found) ∧ found.Equals committed := by
  intro empty after
  have accepted : (empty.add ⟨Device.sound, fun _ => .error ""⟩ "courses" .sections oneSection).2 =
      .ok ["courses"] := by decide +kernel
  have storable : ∀ d ∈ after.store.shelf.datasets.values, d.IsStorable ∧ d.IsReadNearest := by
    decide +kernel
  have each (other : String) (d : Dataset) (found : after.store.get? other = .ok (some d)) :
      d.IsStorable ∧ d.IsReadNearest :=
    storable d (Keyed.mem_values_iff.2 ⟨other, (Shelf.get?_eq_ok_iff.1 found).2⟩)
  have backed : empty.store.IsBacked :=
    ⟨∅, ∅, ∅, rfl, Folder.isFiling_empty, fun _ => .inl rfl⟩
  have added : empty.add ⟨Device.sound, fun _ => .error ""⟩ "courses" .sections oneSection =
      (after, .ok ["courses"]) := by
    rw [← accepted]
  obtain ⟨committed, -, held, -, canOpen, again⟩ := reopen_of_add_iff backed
    Shelf.isWellFormed_empty added fun other d found => (each other d found).1.announced
  obtain ⟨reopened, opened⟩ := canOpen.2 fun other d found => (each other d found).1.finite
  obtain ⟨isFound, equals, -⟩ := again reopened opened
  exact ⟨committed, reopened, _, held, opened, isFound,
    equals.2 (each "courses" committed held).2⟩

/-- An upload with one section of the year "inf". -/
def infiniteYear : Upload :=
  .bytes (Zip.render [⟨"courses/", []⟩, ⟨"courses/a", Bytes.ofText
    "\x7b\"result\":[[1,\"310\",\"\",\"\",\"cpsc\",\"inf\",70,1,0,0]]\x7d"⟩])

/-- The upload is accepted on a sound device, and the folder cannot be opened afterwards. -/
theorem reopen_infiniteYear :
    let empty := onStore ⟨.empty, some ∅⟩ 5000
    let added := empty.add ⟨Device.sound, fun _ => .error ""⟩ "cs" .sections infiniteYear
    added.2 = .ok ["cs"] ∧
      (added.1.reopen Device.sound).map (fun _ => ()) = .error (.corrupt "Y3M.json") := by
  decide +kernel

end Service
end Campus
