import Campus.Data.Bytes
import Campus.Data.Keyed
/-!
# Archives

An archive is a list of named entries. A name that ends in a slash or a backslash is a folder, any
other name is a file. Reading the list gives the files by name, the last of equal names, and the set
of all names, which includes every folder that a slash in some name implies.
-/

namespace Campus

/-- An entry of an archive. -/
structure ArchiveEntry where
  name : String
  /-- The bytes of a file; a folder's are not looked at. -/
  content : List UInt8
deriving DecidableEq

namespace ArchiveEntry

/-- Whether an entry is a folder. -/
def isFolder (entry : ArchiveEntry) : Bool :=
  match entry.name.toList.getLast? with
  | some last => last == '/' || last == '\\'
  | none => false

end ArchiveEntry

/-- The contents of an archive. -/
structure Archive where
  /-- The files. -/
  files : Keyed (List UInt8)
  /-- The names of files and folders. -/
  names : Keyed Unit
deriving DecidableEq

namespace Archive

/-- The parts of a name up to each slash: the folders it implies. -/
def folders (name : String) : List String :=
  let chars := name.toList
  ((List.range chars.length).filter fun i => chars[i]? == some '/').map fun i =>
    String.ofList (chars.take (i + 1))

/-- The archive without entries. -/
def empty : Archive := ⟨.empty, .empty⟩

/-- Note a name. -/
def addName (archive : Archive) (name : String) : Archive :=
  { archive with names := archive.names.insert name () }

/-- Take in an entry. -/
def add (archive : Archive) (entry : ArchiveEntry) : Archive :=
  let named := ((folders entry.name).foldl addName archive).addName entry.name
  if entry.isFolder then named
  else { named with files := named.files.insert entry.name entry.content }

/-- The archive of a list of entries. -/
def ofEntries (entries : List ArchiveEntry) : Archive := entries.foldl add empty

/-- Whether a file or folder has a name. -/
def contains (archive : Archive) (name : String) : Bool := archive.names.contains name

/-- The first of the required names that is absent. -/
def missing? (archive : Archive) (required : List String) : Option String :=
  required.find? fun name => !archive.contains name

/-- The bytes of a file. -/
def file? (archive : Archive) (name : String) : Option (List UInt8) := archive.files.get? name

/-- How many files there are. -/
def size (archive : Archive) : Nat := archive.files.size

end Archive
end Campus
