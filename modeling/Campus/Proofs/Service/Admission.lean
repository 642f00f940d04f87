import Campus.Proofs.Dataset.Legibility
import Campus.Proofs.Service.JsonFiles
import Campus.Proofs.Service.Reopening
import Campus.Proofs.Store.Contents
/-!
# What an opened store admits

Opening a store asks of a blob only that it spells a dataset. The size that it announces, its id and
the keys of its records are taken as they are, so a store has irregular datasets exactly if there
are blobs of such. The service itself writes regular datasets only: a folder that comes about by its
calls, whatever devices fail, never makes it open an irregular one.
-/

namespace Campus

/-- A dataset that announces the records it holds, has a usable id, and has records of its own
fields only. -/
structure Dataset.IsRegular (d : Dataset) : Prop where
  announced : d.numRows = d.data.length
  usable : isValidDatasetId d.id = true
  keys : ∀ record ∈ d.data, ∀ key ∈ record.keys, ∃ field, key = recordKey d.id field

namespace Dataset

variable {d : Dataset}

/-- What ingestion makes is regular. -/
theorem IsWellFormed.isRegular (wellFormed : d.IsWellFormed) : d.IsRegular where
  announced := wellFormed.announced
  usable := isValidDatasetId_iff.2 ⟨wellFormed.notBlank, wellFormed.noUnderscore⟩
  keys record member key held := by
    obtain ⟨field, -, same⟩ := ((wellFormed.records record member).keys key).1 held
    exact ⟨field, same⟩

/-- What a dataset is read as is as regular. -/
theorem IsRegular.reread (regular : d.IsRegular) : d.reread.IsRegular where
  announced := by rw [Dataset.reread, List.length_map]; exact regular.announced
  usable := regular.usable
  keys record member key held := by
    obtain ⟨original, kept, rfl⟩ := List.mem_map.1 member
    rw [Keyed.mem_keys_iff, Record.reread, Keyed.get?_map, Option.isSome_map,
      ← Keyed.mem_keys_iff] at held
    exact regular.keys original kept key held

/-- What is read from the blob of a regular dataset is regular. -/
theorem IsRegular.of_parse?_content (regular : d.IsRegular) {read : Dataset}
    (parsed : parse? (Blob.content d) = some read) : read.IsRegular := by
  have storable := isStorable_of_parse?_content (Option.isSome_iff_exists.2 ⟨read, parsed⟩)
  rw [parse?_content storable] at parsed
  obtain rfl := Option.some.inj parsed
  exact regular.reread

end Dataset

namespace Folder

variable {folder : Folder} {name : String} {d other : Dataset}

/-- A blob spells one dataset. -/
theorem Spells.unique (spells : folder.Spells name d) (again : folder.Spells name other) :
    d = other := by
  obtain ⟨item, found, -, bytes, same, parsed⟩ := spells
  obtain ⟨_, foundToo, -, _, rfl, parsedToo⟩ := again
  obtain rfl : item = _ := Option.some.inj (found.symm.trans foundToo)
  cases same
  exact Option.some.inj (parsed.symm.trans parsedToo)

/-- A folder whose JSON files are the blobs of datasets that ingestion has made. -/
def IsIngested (json : Keyed FolderItem) : Prop :=
  ∀ name item, json.get? name = some item →
    ∃ d : Dataset, d.IsWellFormed ∧ item = .file (Blob.content d)

/-- Only regular datasets are spelled where ingestion has made all blobs. -/
theorem IsIngested.isRegular (ingested : IsIngested folder.jsonFiles)
    (spells : folder.Spells name d) : d.IsRegular := by
  obtain ⟨item, found, blob, bytes, same, parsed⟩ := spells
  have json := Keyed.get?_filterKeys_eq_some_iff.2 ⟨found, Blob.isJson_of_isBlob blob⟩
  obtain ⟨source, wellFormed, isContent⟩ := ingested name item json
  obtain rfl : bytes = Blob.content source := FolderItem.file.inj (same.symm.trans isContent)
  exact wellFormed.isRegular.of_parse?_content parsed

end Folder

open Folder in
/-- A call leaves only blobs of datasets that ingestion has made. -/
theorem JsonChange.isIngested {json after : Keyed FolderItem} (change : JsonChange json after)
    (ingested : IsIngested json) : IsIngested after := by
  cases change with
  | kept => exact ingested
  | written d wellFormed =>
    intro name item found
    rw [Keyed.get?_insert] at found
    split at found
    · exact ⟨d, wellFormed, (Option.some.inj found).symm⟩
    · exact ingested name item found
  | removed id =>
    intro name item found
    rw [Keyed.get?_erase] at found
    split at found
    · cases found
    · exact ingested name item found

namespace Service

variable {service : Service} {json : Keyed FolderItem}

/-- Calls leave only blobs of datasets that ingestion has made. -/
theorem exists_hasFiles_run (has : service.HasFiles json) (ingested : Folder.IsIngested json)
    (calls : List (Surroundings × ServiceCall)) :
    ∃ after, (service.run calls).1.HasFiles after ∧ Folder.IsIngested after := by
  induction calls generalizing service json with
  | nil => exact ⟨json, has, ingested⟩
  | cons call rest ih =>
    obtain ⟨surroundings, call⟩ := call
    obtain ⟨after, kept, change, -⟩ := filesAfter_answerCall surroundings has call
    exact ih kept (change.isIngested ingested)

/-- A folder that only the service has written: it was empty, and services were opened on it, called
and closed, on any devices and also without success. -/
inductive HasWritten : Folder → Prop
  | empty : HasWritten ∅
  | opening {folder : Folder} (before : HasWritten folder) (device : Device) :
    HasWritten (Store.onFolder device folder).1
  | calls {folder cleared left : Folder} {device : Device} {store : Store}
    (before : HasWritten folder) (opened : Store.onFolder device folder = (cleared, .ok store))
    (rowLimit : Nat) (calls : List (Surroundings × ServiceCall))
    (leaves : ((onStore store rowLimit).run calls).1.close.store.folder = some left) :
    HasWritten left

/-- Ingestion has made all blobs in a folder that only the service has written. -/
theorem HasWritten.isIngested {folder : Folder} (written : HasWritten folder) :
    Folder.IsIngested folder.jsonFiles := by
  induction written with
  | empty => exact fun _ _ impossible => by cases impossible
  | opening before device ih => rwa [Store.jsonFiles_onFolder]
  | @calls folder cleared left device store before opened rowLimit calls leaves ih =>
    obtain ⟨after, ⟨-, files⟩, ingested⟩ :=
      exists_hasFiles_run (hasFiles_of_onFolder opened rowLimit) ih calls
    change Option.map Folder.jsonFiles ((onStore store rowLimit).run calls).1.close.store.folder =
      some after at files
    rw [leaves] at files
    exact Option.some.inj files ▸ ingested

end Service

namespace Blob

variable {device : Device} {folder : Folder} {before : List Dataset}
  {items : List (String × FolderItem)}

/-- Only a blob that spells no dataset is refused as corrupt. -/
theorem exists_mem_of_corrupt {name : String}
    (refused : (collect device folder before items).2 = .error (.corrupt name)) :
    ∃ bytes, (name, .file bytes) ∈ items ∧ isBlob name = true ∧ Dataset.parse? bytes = none := by
  induction items generalizing folder before with
  | nil => cases refused
  | cons entry rest ih =>
    obtain ⟨other, item⟩ := entry
    have later (folder : Folder) (before : List Dataset)
        (refused : (collect device folder before rest).2 = .error (.corrupt name)) :
        ∃ bytes, (name, .file bytes) ∈ (other, item) :: rest ∧ isBlob name = true ∧
          Dataset.parse? bytes = none := by
      obtain ⟨bytes, member, blob⟩ := ih refused
      exact ⟨bytes, List.mem_cons_of_mem _ member, blob⟩
    unfold collect at refused
    split at refused
    · split at refused
      · exact later _ _ refused
      · cases refused
    split at refused
    · next blob =>
      split at refused
      · cases refused
      · split at refused
        · exact later _ _ refused
        · next unread =>
          cases refused
          exact ⟨_, List.mem_cons_self, blob, unread⟩
    · exact later _ _ refused

end Blob

namespace Store

/-- What opening a store admits. A blob is refused as corrupt only if it spells no dataset, and if
the store is opened no blob is such. Then the store has what blobs spell under their own ids, and
something for every id that is spelled. Its datasets are regular if all blobs spell regular ones, as
they do if only the service has written them; and where no two blobs spell one id, this is the only
way. -/
theorem onFolder_admits (device : Device) (folder : Folder) :
    (∀ name, (onFolder device folder).2 = .error (.corrupt name) →
      ∃ bytes, folder.get? name = some (.file bytes) ∧ Blob.isBlob name = true ∧
        Dataset.parse? bytes = none) ∧
    ∀ cleared store, onFolder device folder = (cleared, .ok store) →
      (∀ name item, folder.get? name = some item → Blob.isBlob name = true →
        ∃ d, folder.Spells name d) ∧
      (∀ id d, store.get? id = .ok (some d) → d.id = id ∧ ∃ name, folder.Spells name d) ∧
      (∀ name d, folder.Spells name d → ∃ found, store.get? d.id = .ok (some found)) ∧
      ((∀ name d, folder.Spells name d → d.IsRegular) →
        ∀ id d, store.get? id = .ok (some d) → d.IsRegular) ∧
      (Service.HasWritten folder → ∀ id d, store.get? id = .ok (some d) → d.IsRegular) ∧
      ((∀ name other d e, folder.Spells name d → folder.Spells other e → d.id = e.id →
          name = other) →
        (∀ id d, store.get? id = .ok (some d) → d.IsRegular) →
        ∀ name d, folder.Spells name d → d.IsRegular) := by
  constructor
  · intro name refused
    have corrupt : (Blob.collect device folder [] folder.entries).2 = .error (.corrupt name) := by
      unfold onFolder at refused
      split at refused
      · cases refused
      · next collected =>
        rw [collected]
        cases refused
        rfl
    obtain ⟨bytes, member, blob⟩ := Blob.exists_mem_of_corrupt corrupt
    exact ⟨bytes, Keyed.mem_entries_iff.1 member, blob⟩
  intro cleared store opened
  obtain ⟨spelled, own, covered⟩ := get?_of_onFolder opened
  have regular (all : ∀ name d, folder.Spells name d → d.IsRegular) (id : String) (d : Dataset)
      (found : store.get? id = .ok (some d)) : d.IsRegular := by
    obtain ⟨-, name, spells⟩ := own id d found
    exact all name d spells
  refine ⟨spelled, own, covered, regular, fun written => ?_, ?_⟩
  · exact regular fun name d spells => written.isIngested.isRegular spells
  · intro apart all name d spells
    obtain ⟨found, isFound⟩ := covered name d spells
    obtain ⟨sameId, other, spellsToo⟩ := own d.id found isFound
    obtain rfl := apart name other d found spells spellsToo sameId.symm
    obtain rfl := spells.unique spellsToo
    exact all d.id d isFound

/-- A dataset of one section comes back regular, and so its blob spells a regular one. -/
theorem onFolder_admits_oneSection :
    let calls := [(⟨Device.sound, fun _ => .error ""⟩,
      ServiceCall.add "courses" .sections Service.oneSection)]
    let folder := ((Service.onStore ⟨.empty, some ∅⟩ 5000).run calls).1.store.folder.getD ∅
    ∃ cleared store d, onFolder Device.sound folder = (cleared, .ok store) ∧
      store.get? "courses" = .ok (some d) ∧ d.data.length = 1 ∧ d.IsRegular ∧
      ∀ name spelled, folder.Spells name spelled → spelled.IsRegular := by
  intro calls folder
  have first : onFolder Device.sound ∅ = (∅, .ok ⟨.empty, some ∅⟩) := rfl
  have leaves : ((Service.onStore ⟨.empty, some ∅⟩ 5000).run calls).1.close.store.folder =
      some folder := by
    decide +kernel
  have written : Service.HasWritten folder := .calls .empty first 5000 calls leaves
  have keys : folder.keys = ["Y291cnNlcw.json"] := by decide +kernel
  have single {name : String} {d : Dataset} (spells : folder.Spells name d) :
      name = "Y291cnNlcw.json" := by
    obtain ⟨item, found, -⟩ := spells
    have member : name ∈ folder.keys := Keyed.mem_keys_iff.2 (by rw [found]; rfl)
    rwa [keys, List.mem_singleton] at member
  have loaded : ((onFolder Device.sound folder).2.bind fun store =>
      (store.get? "courses").map fun found => found.map fun d => d.data.length) =
        .ok (some 1) := by
    decide +kernel
  cases opened : onFolder Device.sound folder with
  | mk cleared outcome =>
    rw [opened] at loaded
    cases outcome with
    | error error => cases loaded
    | ok store =>
      change ((store.get? "courses").map fun found => found.map fun d => d.data.length) =
        .ok (some 1) at loaded
      obtain ⟨-, admitted⟩ := onFolder_admits Device.sound folder
      obtain ⟨-, -, -, -, regular, onlyWay⟩ := admitted cleared store opened
      have spelled := onlyWay
        (fun _ _ _ _ spells others _ => (single spells).trans (single others).symm)
        (regular written)
      cases found : store.get? "courses" with
      | error error =>
        rw [found] at loaded
        cases loaded
      | ok held =>
        rw [found] at loaded
        obtain ⟨d, rfl, one⟩ := Option.map_eq_some_iff.1 (Except.ok.inj loaded)
        exact ⟨cleared, store, d, rfl, found, one, regular written "courses" d found, spelled⟩

/-- A folder with three blobs: one announces seven records and has none, the id of one has an
underscore, and one has a record with a key of no field. -/
def irregularFolder : Folder :=
  .ofList
    [("count.json", .file (Bytes.ofText
      "\x7b\"id\":\"labs\",\"kind\":\"rooms\",\"numRows\":7,\"data\":[]\x7d")),
    ("id.json", .file (Bytes.ofText
      "\x7b\"id\":\"a_b\",\"kind\":\"rooms\",\"numRows\":0,\"data\":[]\x7d")),
    ("key.json", .file (Bytes.ofText
      "\x7b\"id\":\"rooms\",\"kind\":\"rooms\",\"numRows\":1,\"data\":[\x7b\"x\":1\x7d]\x7d"))]

/-- All three are taken in. -/
theorem onFolder_irregularFolder :
    ∃ store, onFolder Device.sound irregularFolder = (irregularFolder, .ok store) ∧
      (∃ d, store.get? "labs" = .ok (some d) ∧ d.numRows ≠ d.data.length) ∧
      (∃ d, store.get? "a_b" = .ok (some d) ∧ isValidDatasetId d.id = false) ∧
      ∃ d, store.get? "rooms" = .ok (some d) ∧
        ∃ record ∈ d.data, ∃ key ∈ record.keys, ∀ field, key ≠ recordKey d.id field := by
  let announcing : Dataset := ⟨"labs", .rooms, 7, []⟩
  let named : Dataset := ⟨"a_b", .rooms, 0, []⟩
  let keyed : Dataset := ⟨"rooms", .rooms, 1, [.ofList [("x", .number (.ofNat 1))]]⟩
  refine ⟨⟨.ofDatasets [announcing, named, keyed], some irregularFolder⟩, by decide +kernel,
    ⟨announcing, by decide +kernel, by decide⟩, ⟨named, by decide +kernel, by decide⟩,
    keyed, by decide +kernel, _, List.mem_singleton_self _, "x", by decide, fun field => ?_⟩
  cases field <;> decide

end Store
end Campus
