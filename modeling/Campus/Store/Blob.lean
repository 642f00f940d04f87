import Campus.Data.Base64
import Campus.Data.Bytes
import Campus.Dataset.Written
import Campus.Files.Folder
import Campus.Store.Error
/-!
# Blobs

A blob is the file of one dataset: its written form, under the base64 form of its id and an
extension. While it is being written it has another name, which marks it as incomplete. Reading a
folder takes every blob in it, whatever dataset it spells, removes what is incomplete, and leaves
all else alone.
-/

namespace Campus.Blob

/-- The name of a dataset's blob without its extension. -/
def stem (id : String) : String :=
  String.ofList (Base64.urlSafe.encode (Bytes.ofText id))

/-- The name of a dataset's blob. -/
def name (id : String) : String := stem id ++ ".json"

/-- The name of a dataset's blob while it is being written. -/
def incompleteName (id : String) : String := stem id ++ ".json.tmp"

/-- Whether a file is incomplete by its name. -/
def isIncomplete (name : String) : Bool := "json.tmp".toList.isSuffixOf name.toList

/-- What follows the last point of a name that does not start with it. -/
def extension? (name : String) : Option String :=
  let chars := name.toList
  let tail := (chars.reverse.takeWhile (· != '.')).reverse
  if tail.length + 1 < chars.length then some (String.ofList tail) else none

/-- Whether a file is a blob by its name. -/
def isBlob (name : String) : Bool := !isIncomplete name && extension? name == some "json"

/-- The content of a dataset's blob. -/
def content (dataset : Dataset) : List UInt8 := Bytes.ofText dataset.render

/-- Take in the items of a folder: the folder without its incomplete files, and the datasets, or the
first failure. -/
def collect (device : Device) (folder : Folder) (datasets : List Dataset) :
    List (String × FolderItem) → Folder × Except StoreError (List Dataset)
  | [] => (folder, .ok datasets)
  | (name, item) :: rest =>
    if isIncomplete name then
      match folder.perform device (.remove name) with
      | (folder, .ok ()) => collect device folder datasets rest
      | (folder, .error fault) => (folder, .error (.io fault))
    else if isBlob name then
      match item with
      | .folder => (folder, .error (.io .isFolder))
      | .file bytes =>
        match Dataset.parse? bytes with
        | some dataset => collect device folder (datasets ++ [dataset]) rest
        | none => (folder, .error (.corrupt name))
    else collect device folder datasets rest

end Campus.Blob
