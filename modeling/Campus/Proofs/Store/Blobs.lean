import Campus.Proofs.Data.Base64
import Campus.Proofs.Data.Bytes
import Campus.Proofs.Dataset.Rereading
/-!
# Names and contents of blobs

The name of a blob tells its dataset, shows that it is a blob, and differs from the name that any
blob has while it is being written. Reading a folder of blobs gives their datasets back.
-/

namespace Campus.Blob

/-- The characters of a blob's name. -/
theorem toList_name (id : String) :
    (name id).toList = Base64.urlSafe.encode (Bytes.ofText id) ++ ['.', 'j', 's', 'o', 'n'] := by
  rw [name, stem, String.toList_append, String.toList_ofList]
  rfl

/-- The characters of a blob's name while it is being written. -/
theorem toList_incompleteName (id : String) :
    (incompleteName id).toList =
      Base64.urlSafe.encode (Bytes.ofText id) ++ ['.', 'j', 's', 'o', 'n', '.', 't', 'm', 'p'] := by
  rw [incompleteName, stem, String.toList_append, String.toList_ofList]
  rfl

/-- Blobs of different datasets have different names. -/
theorem name_injective : Function.Injective name := by
  intro left right same
  have chars := congrArg String.toList same
  rw [toList_name, toList_name] at chars
  have stems := List.append_cancel_right chars
  exact Bytes.ofText_injective (Base64.Form.encode_injective Base64.Form.isUsable_urlSafe stems)

/-- Blobs of different datasets have different names while they are being written. -/
theorem incompleteName_injective : Function.Injective incompleteName := by
  intro left right same
  have chars := congrArg String.toList same
  rw [toList_incompleteName, toList_incompleteName] at chars
  have stems := List.append_cancel_right chars
  exact Bytes.ofText_injective (Base64.Form.encode_injective Base64.Form.isUsable_urlSafe stems)

/-- While it is being written a blob is incomplete by its name. -/
theorem isIncomplete_incompleteName (id : String) : isIncomplete (incompleteName id) = true := by
  rw [isIncomplete, List.isSuffixOf_iff_suffix, toList_incompleteName]
  exact ⟨Base64.urlSafe.encode (Bytes.ofText id) ++ ['.'], by simp⟩

/-- A blob is not incomplete by its own name. -/
theorem isIncomplete_name (id : String) : isIncomplete (name id) = false := by
  rw [← Bool.not_eq_true, isIncomplete, List.isSuffixOf_iff_suffix, toList_name]
  rintro ⟨front, same⟩
  have last := congrArg List.getLast? same
  simp at last

/-- No blob has the name that another has while it is being written. -/
theorem name_ne_incompleteName (id other : String) : name id ≠ incompleteName other := by
  intro same
  have complete := isIncomplete_name id
  rw [same, isIncomplete_incompleteName] at complete
  cases complete

/-- The blob of a named dataset is a blob by its name. -/
theorem isBlob_name {id : String} (named : id ≠ "") : isBlob (name id) = true := by
  have someBytes : Bytes.ofText id ≠ [] := by
    intro none
    exact named (Bytes.ofText_injective none)
  have someChars : Base64.urlSafe.encode (Bytes.ofText id) ≠ [] :=
    fun none => someBytes (Base64.Form.encode_eq_nil_iff.1 none)
  have extension : extension? (name id) = some "json" := by
    have tail : (name id).toList.reverse.takeWhile (· != '.') = ['n', 'o', 's', 'j'] := by
      rw [toList_name, List.reverse_append]
      rfl
    have long : 5 < (name id).toList.length := by
      have := List.length_pos_iff.2 someChars
      rw [toList_name, List.length_append]
      simp only [List.length_cons, List.length_nil]
      omega
    rw [extension?]
    simp only [tail]
    exact if_pos long
  rw [isBlob, isIncomplete_name, extension]
  rfl

/-- A name that is short enough while a blob is being written is short enough afterwards. -/
theorem isTooLong_name {id : String} (short : Folder.isTooLong (incompleteName id) = false) :
    Folder.isTooLong (name id) = false := by
  have longer : incompleteName id = name id ++ ".tmp" := by
    rw [incompleteName, name, String.append_assoc]
    rfl
  have size : (incompleteName id).utf8ByteSize = (name id).utf8ByteSize + 4 := by
    rw [longer, String.utf8ByteSize_append]
    rfl
  simp only [Folder.isTooLong, decide_eq_false_iff_not] at short ⊢
  omega

/-- A blob does not show the signs of zeros. -/
theorem content_normalize (d : Dataset) : content d.normalize = content d := by
  rw [content, content, Dataset.render, Dataset.render, Dataset.toJson_normalize]

/-- The file of a dataset. -/
def file (d : Dataset) : String × FolderItem := (name d.id, .file (content d))

/-- Reading the files of storable datasets gives what they are read as. -/
theorem collect_files (device : Device) (folder : Folder) (before datasets : List Dataset)
    (storable : ∀ d ∈ datasets, d.id ≠ "" ∧ d.IsStorable) :
    collect device folder before (datasets.map file) =
      (folder, .ok (before ++ datasets.map Dataset.reread)) := by
  induction datasets generalizing before with
  | nil => rw [List.map_nil, collect, List.map_nil, List.append_nil]
  | cons d rest ih =>
    obtain ⟨named, written⟩ := storable d List.mem_cons_self
    have others := ih (before ++ [d.reread]) fun other member =>
      storable other (List.mem_cons_of_mem _ member)
    rw [List.map_cons, file, collect, isIncomplete_name, isBlob_name named,
      Dataset.parse?_content written]
    simp only [Bool.false_eq_true, ↓reduceIte, others, List.append_assoc, List.singleton_append,
      List.map_cons]

/-- What becomes of the folder and of the datasets that were taken in before when an item is taken
in: an incomplete file is removed, a blob spells a dataset, and anything else is passed by. -/
inductive Takes (device : Device) (folder : Folder) (before : List Dataset) :
    String × FolderItem → Folder → List Dataset → Prop
  | incomplete {name : String} {item : FolderItem} {left : Folder}
    (incomplete : isIncomplete name = true)
    (removed : folder.perform device (.remove name) = (left, .ok ())) :
    Takes device folder before (name, item) left before
  | blob {name : String} {bytes : List UInt8} {d : Dataset} (blob : isBlob name = true)
    (parsed : Dataset.parse? bytes = some d) :
    Takes device folder before (name, .file bytes) folder (before ++ [d])
  | other {name : String} {item : FolderItem} (complete : isIncomplete name = false)
    (notBlob : isBlob name = false) : Takes device folder before (name, item) folder before

/-- A blob is complete. -/
theorem isIncomplete_eq_false_of_isBlob {name : String} (blob : isBlob name = true) :
    isIncomplete name = false := by
  rw [isBlob, Bool.and_eq_true, Bool.not_eq_true'] at blob
  exact blob.1

section

variable {device : Device} {folder after : Folder} {before datasets : List Dataset}

/-- Items are taken in one by one. -/
theorem collect_cons_eq_ok_iff {entry : String × FolderItem}
    {rest : List (String × FolderItem)} :
    collect device folder before (entry :: rest) = (after, .ok datasets) ↔
      ∃ left taken, Takes device folder before entry left taken ∧
        collect device left taken rest = (after, .ok datasets) := by
  obtain ⟨name, item⟩ := entry
  constructor
  · intro collected
    unfold collect at collected
    split at collected
    · next incomplete =>
      split at collected
      · next left removed => exact ⟨left, before, .incomplete incomplete removed, collected⟩
      · cases collected
    next complete =>
    rw [Bool.not_eq_true] at complete
    split at collected
    · next blob =>
      split at collected
      · cases collected
      · split at collected
        · next d parsed => exact ⟨folder, before ++ [d], .blob blob parsed, collected⟩
        · cases collected
    · next notBlob =>
      rw [Bool.not_eq_true] at notBlob
      exact ⟨folder, before, .other complete notBlob, collected⟩
  · rintro ⟨left, taken, takes, collected⟩
    unfold collect
    cases takes with
    | incomplete incomplete removed =>
      rw [if_pos incomplete, removed]
      exact collected
    | blob blob parsed =>
      rw [isIncomplete_eq_false_of_isBlob blob, if_neg Bool.false_ne_true, if_pos blob]
      simp only [parsed, collected]
    | other complete notBlob =>
      rw [complete, notBlob, if_neg Bool.false_ne_true, if_neg Bool.false_ne_true]
      exact collected

/-- Where all items of a folder are taken in, every blob among them spells a dataset. -/
theorem isSome_parse?_of_collect {items : List (String × FolderItem)}
    (collected : collect device folder before items = (after, .ok datasets)) {name : String}
    {bytes : List UInt8} (member : (name, .file bytes) ∈ items) (blob : isBlob name = true) :
    (Dataset.parse? bytes).isSome = true := by
  induction items generalizing folder before with
  | nil => cases member
  | cons first rest ih =>
    obtain ⟨left, taken, takes, others⟩ := collect_cons_eq_ok_iff.1 collected
    rcases List.mem_cons.1 member with rfl | later
    · cases takes with
      | incomplete incomplete =>
        rw [isIncomplete_eq_false_of_isBlob blob] at incomplete
        cases incomplete
      | blob _ parsed =>
        rw [parsed]
        rfl
      | other _ notBlob =>
        rw [blob] at notBlob
        cases notBlob
    · exact ih others later

end

end Campus.Blob
