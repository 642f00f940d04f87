import Campus.Proofs.Data.Keyed
import Campus.Proofs.Store.Blobs
import Mathlib.Data.List.Perm.Basic
import Mathlib.Logic.Function.Basic
/-!
# Folders on a device that may fail

Whatever a device fails, the folder of a store holds a blob for every dataset that it is to hold,
and besides these at most files under the names that blobs have while they are being written. Every
file step of a write either does what it is for or leaves the blobs as they were.
-/

namespace Campus

/-- Whether a file is a JSON file by its name. -/
def Blob.isJson (name : String) : Bool := ".json".toList.isSuffixOf name.toList

/-- A blob is a JSON file. -/
theorem Blob.isJson_name (id : String) : isJson (name id) = true := by
  rw [isJson, List.isSuffixOf_iff_suffix, toList_name]
  exact ⟨Base64.urlSafe.encode (Bytes.ofText id), rfl⟩

/-- While it is being written a blob is no JSON file. -/
theorem Blob.isJson_incompleteName (id : String) : isJson (incompleteName id) = false := by
  rw [← Bool.not_eq_true, isJson, List.isSuffixOf_iff_suffix, toList_incompleteName]
  rintro ⟨front, same⟩
  have last := congrArg List.getLast? same
  simp at last

namespace FileStep

/-- The names that a step needs. -/
def names : FileStep → List String
  | write name _ | remove name => [name]
  | rename old new => [old, new]

/-- Whether a device lets a step pass that needs no name that is too long. -/
def passes (device : Device) (step : FileStep) : Bool :=
  (device step).isNone && step.names.all fun name => !Folder.isTooLong name

end FileStep

namespace Folder

variable {folder : Folder} {view : String → Option Dataset} {device : Device} {id : String}

/-- The JSON files of a folder. -/
def jsonFiles (folder : Folder) : Keyed FolderItem := folder.filterKeys Blob.isJson

/-- A folder that holds a blob for every dataset in a view, and besides these nothing but files that
are being written. -/
structure Backs (folder : Folder) (view : String → Option Dataset) : Prop where
  blobs : ∀ id, folder.get? (Blob.name id) = (view id).map fun d => .file (Blob.content d)
  nothingElse : ∀ name item, folder.get? name = some item →
    (∃ id, name = Blob.name id) ∨ ∃ id content, name = Blob.incompleteName id ∧ item = .file content

namespace Backs

/-- The empty folder backs nothing. -/
theorem empty : Backs ∅ fun _ => none :=
  ⟨fun _ => rfl, fun name item found => by cases found⟩

/-- A file may be written under the name of a blob that is being written. -/
theorem insert_incompleteName (backs : folder.Backs view) (id : String) (content : List UInt8) :
    Backs (folder.insert (Blob.incompleteName id) (.file content)) view := by
  constructor
  · intro other
    rw [Keyed.get?_insert, if_neg (Blob.name_ne_incompleteName other id)]
    exact backs.blobs other
  · intro name item found
    rw [Keyed.get?_insert] at found
    split at found
    · next same =>
      cases found
      exact .inr ⟨id, content, same, rfl⟩
    · exact backs.nothingElse name item found

/-- Whatever stands under the name of a blob that is being written may be removed. -/
theorem erase_incompleteName (backs : folder.Backs view) (id : String) :
    Backs (folder.erase (Blob.incompleteName id)) view := by
  constructor
  · intro other
    rw [Keyed.get?_erase, if_neg (Blob.name_ne_incompleteName other id)]
    exact backs.blobs other
  · intro name item found
    rw [Keyed.get?_erase] at found
    split at found
    · cases found
    · exact backs.nothingElse name item found

/-- With the blob of a dataset a folder backs that dataset, too. -/
theorem insert_name (backs : folder.Backs view) (d : Dataset) :
    Backs (folder.insert (Blob.name d.id) (.file (Blob.content d)))
      (Function.update view d.id (some d)) := by
  constructor
  · intro other
    rw [Keyed.get?_insert]
    by_cases same : other = d.id
    · rw [same, if_pos rfl, Function.update_self, Option.map_some]
    · rw [if_neg fun names => same (Blob.name_injective names), Function.update_of_ne same]
      exact backs.blobs other
  · intro name item found
    rw [Keyed.get?_insert] at found
    split at found
    · next same => exact .inl ⟨d.id, same⟩
    · exact backs.nothingElse name item found

/-- Without its blob a folder does not back a dataset any more. -/
theorem erase_name (backs : folder.Backs view) (id : String) :
    Backs (folder.erase (Blob.name id)) (Function.update view id none) := by
  constructor
  · intro other
    rw [Keyed.get?_erase]
    by_cases same : other = id
    · rw [same, if_pos rfl, Function.update_self, Option.map_none]
    · rw [if_neg fun names => same (Blob.name_injective names), Function.update_of_ne same]
      exact backs.blobs other
  · intro name item found
    rw [Keyed.get?_erase] at found
    split at found
    · cases found
    · exact backs.nothingElse name item found

/-- No folder stands under the name of a blob that is being written. -/
theorem get?_incompleteName_ne_folder (backs : folder.Backs view) (id : String) :
    folder.get? (Blob.incompleteName id) ≠ some .folder := by
  intro found
  rcases backs.nothingElse _ _ found with ⟨other, same⟩ | ⟨_, _, _, impossible⟩
  · exact Blob.name_ne_incompleteName other id same.symm
  · cases impossible

/-- No folder stands under the name of a blob. -/
theorem get?_name_ne_folder (backs : folder.Backs view) (id : String) :
    folder.get? (Blob.name id) ≠ some .folder := by
  rw [backs.blobs]
  cases view id <;> simp

/-- The JSON files of a folder that backs some datasets are their blobs, one for each of them. -/
theorem jsonFiles_perm {datasets : Keyed Dataset} (backs : folder.Backs datasets.get?) :
    folder.jsonFiles.entries.Perm
      (datasets.entries.map fun (id, d) => (Blob.name id, .file (Blob.content d))) := by
  have listed : (datasets.entries.map fun (id, d) =>
      (Blob.name id, FolderItem.file (Blob.content d))).Nodup := by
    refine List.Nodup.of_map Prod.fst ?_
    rw [List.map_map]
    have names := datasets.keys_nodup.map Blob.name_injective
    rw [Keyed.keys, List.map_map] at names
    exact names
  refine (List.perm_ext_iff_of_nodup (folder.jsonFiles.keys_nodup.of_map _) listed).2 ?_
  rintro ⟨name, item⟩
  rw [Keyed.mem_entries_iff, jsonFiles, Keyed.get?_filterKeys_eq_some_iff, List.mem_map]
  constructor
  · rintro ⟨found, isJson⟩
    rcases backs.nothingElse name item found with ⟨id, rfl⟩ | ⟨id, _, rfl, -⟩
    · rw [backs.blobs, Option.map_eq_some_iff] at found
      obtain ⟨d, held, rfl⟩ := found
      exact ⟨(id, d), Keyed.mem_entries_iff.2 held, rfl⟩
    · rw [Blob.isJson_incompleteName] at isJson
      cases isJson
  · rintro ⟨⟨id, d⟩, member, same⟩
    cases same
    rw [backs.blobs, Keyed.mem_entries_iff.1 member]
    exact ⟨rfl, Blob.isJson_name id⟩

/-- Folders that back the same datasets have the same JSON files. -/
theorem jsonFiles_eq {other : Folder} (backs : folder.Backs view) (otherBacks : other.Backs view) :
    other.jsonFiles = folder.jsonFiles := by
  have same (name : String) (isJson : Blob.isJson name = true) :
      other.get? name = folder.get? name := by
    by_cases named : ∃ id, name = Blob.name id
    · obtain ⟨id, rfl⟩ := named
      rw [backs.blobs, otherBacks.blobs]
    · have absent {folder : Folder} (backs : folder.Backs view) : folder.get? name = none := by
        cases found : folder.get? name with
        | none => rfl
        | some item =>
          rcases backs.nothingElse name item found with isBlob | ⟨id, _, rfl, -⟩
          · exact absurd isBlob named
          · rw [Blob.isJson_incompleteName] at isJson
            cases isJson
      rw [absent backs, absent otherBacks]
  ext name item
  rw [jsonFiles, jsonFiles, Keyed.get?_filterKeys_eq_some_iff, Keyed.get?_filterKeys_eq_some_iff]
  exact and_congr_left fun isJson => by rw [same name isJson]

end Backs

/-- A step that the device fails leaves the folder, or the front of the file that it was to write. -/
theorem leftBy_eq (folder : Folder) (mishap : Mishap) (step : FileStep) :
    folder.leftBy mishap step = folder ∨
      ∃ name content kept, step = .write name content ∧
        folder.leftBy mishap step = folder.insert name (.file kept) := by
  cases step with
  | write name content =>
    cases mishap with
    | refused => exact .inl rfl
    | cutOff kept =>
      simp only [leftBy, write]
      split
      · exact .inl rfl
      · split
        · exact .inl rfl
        · exact .inr ⟨name, content, content.take kept, rfl, rfl⟩
  | rename | remove => exact .inl rfl

/-- A step that needs a name that is too long cannot be done. -/
theorem exists_after_eq_error (folder : Folder) {step : FileStep} {name : String} (needed : name ∈ step.names)
    (long : isTooLong name = true) : ∃ fault, folder.after step = .error fault := by
  cases step with
  | write other content =>
    obtain rfl := List.mem_singleton.1 needed
    exact ⟨.nameTooLong, if_pos long⟩
  | remove other =>
    obtain rfl := List.mem_singleton.1 needed
    refine ⟨.nameTooLong, ?_⟩
    rw [after, remove, read, if_pos long]
    rfl
  | rename old new =>
    rw [after, rename]
    cases found : folder.read old with
    | error fault => exact ⟨fault, rfl⟩
    | ok content =>
      have new : name = new := by
        refine (List.mem_pair.1 needed).resolve_left ?_
        rintro rfl
        rw [read, if_pos long] at found
        cases found
      refine ⟨.nameTooLong, ?_⟩
      rw [← new]
      exact if_pos long

/-- A step that passes is done if it can be. -/
theorem perform_of_passes {step : FileStep} {changed : Folder} (passes : step.passes device = true)
    (done : folder.after step = .ok changed) : folder.perform device step = (changed, .ok ()) := by
  have free : device step = none := Option.isNone_iff_eq_none.1 (Bool.and_eq_true_iff.1 passes).1
  rw [perform, free]
  simp only [done]

/-- A step that does not pass fails and leaves the folder, or the front of the file that it was to
write. -/
theorem perform_of_not_passes (folder : Folder) {step : FileStep} (stuck : step.passes device = false) :
    ∃ left fault, folder.perform device step = (left, .error fault) ∧
      (left = folder ∨
        ∃ name content kept, step = .write name content ∧
          left = folder.insert name (.file kept)) := by
  unfold perform
  cases free : device step with
  | some mishap => exact ⟨_, _, rfl, leftBy_eq folder mishap step⟩
  | none =>
    have long : ∃ name ∈ step.names, isTooLong name = true := by
      simpa [FileStep.passes, free] using stuck
    obtain ⟨name, needed, long⟩ := long
    obtain ⟨fault, failed⟩ := exists_after_eq_error folder needed long
    simp only [failed]
    exact ⟨folder, fault, rfl, .inl rfl⟩

/-- Clearing away what is left of a blob removes it or leaves it there. -/
theorem perform_discard (device : Device) (folder : Folder) (id : String) :
    (folder.perform device (.remove (Blob.incompleteName id))).1 = folder ∨
      (folder.perform device (.remove (Blob.incompleteName id))).1 =
        folder.erase (Blob.incompleteName id) := by
  unfold perform
  split
  · exact .inl rfl
  · rw [after, remove]
    cases folder.read (Blob.incompleteName id) with
    | error fault => exact .inl rfl
    | ok content => exact .inr rfl

namespace Backs

/-- The file of a blob is written if the step passes; otherwise it is not, or in part. -/
theorem perform_write (backs : folder.Backs view) (device : Device) (id : String)
    (content : List UInt8) :
    let step := FileStep.write (Blob.incompleteName id) content
    (step.passes device = true ∧ folder.perform device step =
        (folder.insert (Blob.incompleteName id) (.file content), .ok ())) ∨
      (step.passes device = false ∧ ∃ left fault, folder.perform device step = (left, .error fault) ∧
        (left = folder ∨ ∃ kept, left = folder.insert (Blob.incompleteName id) (.file kept))) := by
  intro step
  cases passes : step.passes device with
  | true =>
    have short : isTooLong (Blob.incompleteName id) = false := by
      simpa [step, FileStep.passes, FileStep.names] using (Bool.and_eq_true_iff.1 passes).2
    have done : folder.after step =
        .ok (folder.insert (Blob.incompleteName id) (.file content)) := by
      rw [after, write, short, if_neg Bool.false_ne_true,
        if_neg (backs.get?_incompleteName_ne_folder id)]
    exact .inl ⟨rfl, perform_of_passes passes done⟩
  | false =>
    obtain ⟨left, fault, failed, what⟩ := perform_of_not_passes folder passes
    refine .inr ⟨rfl, left, fault, failed, what.imp_right ?_⟩
    rintro ⟨name, whole, kept, same, what⟩
    rw [← (FileStep.write.inj same).1] at what
    exact ⟨kept, what⟩

/-- A written blob gets its name if the step passes; otherwise nothing changes. -/
theorem perform_rename (backs : folder.Backs view) (device : Device) (id : String)
    {content : List UInt8} (written : folder.get? (Blob.incompleteName id) = some (.file content)) :
    let step := FileStep.rename (Blob.incompleteName id) (Blob.name id)
    (step.passes device = true ∧ folder.perform device step =
        ((folder.erase (Blob.incompleteName id)).insert (Blob.name id) (.file content), .ok ())) ∨
      (step.passes device = false ∧
        ∃ fault, folder.perform device step = (folder, .error fault)) := by
  intro step
  cases passes : step.passes device with
  | true =>
    have short : isTooLong (Blob.incompleteName id) = false ∧
        isTooLong (Blob.name id) = false := by
      simpa [step, FileStep.passes, FileStep.names] using (Bool.and_eq_true_iff.1 passes).2
    have done : folder.after step =
        .ok ((folder.erase (Blob.incompleteName id)).insert (Blob.name id) (.file content)) := by
      have found : folder.read (Blob.incompleteName id) = .ok content := by
        rw [read, short.1, if_neg Bool.false_ne_true, written]
      have noFolder := (backs.erase_incompleteName id).get?_name_ne_folder id
      rw [after, rename, found]
      simp only [bind, Except.bind, write, short.2, Bool.false_eq_true, if_false, if_neg noFolder]
    exact .inl ⟨rfl, perform_of_passes passes done⟩
  | false =>
    obtain ⟨left, fault, failed, rfl | ⟨name, whole, kept, same, -⟩⟩ :=
      perform_of_not_passes folder passes
    · exact .inr ⟨rfl, fault, failed⟩
    · simp only [step, reduceCtorEq] at same

/-- The blob of a dataset is removed if the step passes; otherwise nothing changes. -/
theorem perform_remove (backs : folder.Backs view) (device : Device) {d : Dataset}
    (held : view id = some d) :
    let step := FileStep.remove (Blob.name id)
    (step.passes device = true ∧
        folder.perform device step = (folder.erase (Blob.name id), .ok ())) ∨
      (step.passes device = false ∧
        ∃ fault, fault ≠ .notFound ∧ folder.perform device step = (folder, .error fault)) := by
  intro step
  have found : folder.get? (Blob.name id) = some (.file (Blob.content d)) := by
    rw [backs.blobs, held, Option.map_some]
  cases long : isTooLong (Blob.name id) with
  | true =>
    have failed : folder.after step = .error .nameTooLong := by
      rw [after, remove, read, if_pos long]
      rfl
    refine .inr ⟨by simp [step, FileStep.passes, FileStep.names, long], ?_⟩
    unfold perform
    cases device step with
    | none => exact ⟨.nameTooLong, by decide, by simp only [failed]⟩
    | some mishap => exact ⟨.device, by decide, rfl⟩
  | false =>
    have done : folder.after step = .ok (folder.erase (Blob.name id)) := by
      rw [after, remove, read, long, if_neg Bool.false_ne_true, found]
      rfl
    cases passes : step.passes device with
    | true => exact .inl ⟨rfl, perform_of_passes passes done⟩
    | false =>
      have refused : ∃ mishap, device step = some mishap := by
        rw [← Option.isSome_iff_exists]
        simpa [step, FileStep.passes, FileStep.names, long] using passes
      obtain ⟨mishap, refused⟩ := refused
      exact .inr ⟨rfl, .device, by decide, by rw [perform, refused]; rfl⟩

end Backs
end Folder
end Campus
