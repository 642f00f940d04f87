import Campus.Data.Bytes
import Campus.Files.Folder
/-!
# File trees

A tree holds folders, each under its path: the names on the way to it with slashes between them. One
of them is the working folder. A path given by a user starts there, or in the outermost folder if it
starts with a slash; it may have empty parts and dots, which stay where they are, and double dots,
which go up.
-/

namespace Campus

/-- Folders within folders. -/
structure FileTree where
  /-- The folders by path; the outermost one has the empty path. -/
  folders : Keyed Folder
  /-- The names on the way to the working folder. -/
  here : List String

/-- What a path leads to. -/
inductive Landing
  /-- A folder, by the names on the way to it. -/
  | folder (names : List String)
  | file (content : List UInt8)
deriving DecidableEq

namespace FileTree

/-- The path of a folder. -/
def pathOf (names : List String) : String := "/".intercalate names

/-- The items of a folder. -/
def items (tree : FileTree) (names : List String) : Folder :=
  (tree.folders.get? (pathOf names)).getD ∅

/-- Exchange the items of a folder. -/
def withItems (tree : FileTree) (names : List String) (items : Folder) : FileTree :=
  { tree with folders := tree.folders.insert (pathOf names) items }

/-- Put an item into a folder. -/
def withItem (tree : FileTree) (names : List String) (name : String) (item : FolderItem) :
    FileTree :=
  tree.withItems names ((tree.items names).insert name item)

/-- The parts of a path. -/
def parts (path : String) : List String :=
  (path.toList.splitOn '/').map String.ofList

/-- The names on the way to where a path starts. -/
def start (tree : FileTree) (path : String) : List String :=
  if path.toList.head? = some '/' then [] else tree.here

/-- Follow one part of a path. -/
def follow (tree : FileTree) (place : Landing) (part : String) : Except FileFault Landing :=
  match place with
  | .file _ => .error .notFolder
  | .folder names =>
    if part = "" ∨ part = "." then .ok place
    else if part = ".." then .ok (.folder names.dropLast)
    else if Folder.isTooLong part then .error .nameTooLong
    else match (tree.items names).get? part with
      | some (.file content) => .ok (.file content)
      | some .folder => .ok (.folder (names ++ [part]))
      | none => .error .notFound

/-- Refuse the paths that lead nowhere whatever the tree holds: the empty one and one with the zero
character. -/
def checkPath (path : String) : Except FileFault Unit :=
  if path.toList.contains '\x00' then .error .zeroInPath
  else if path = "" then .error .notFound
  else .ok ()

/-- What stands at a path. -/
def find (tree : FileTree) (path : String) : Except FileFault Landing := do
  checkPath path
  (parts path).foldlM tree.follow (.folder (tree.start path))

/-- Whether something stands at a path. -/
def has (tree : FileTree) (path : String) : Bool :=
  match tree.find path with
  | .ok _ => true
  | .error _ => false

/-- The content of the file at a path. -/
def read (tree : FileTree) (path : String) : Except FileFault (List UInt8) := do
  match ← tree.find path with
  | .file content => return content
  | .folder _ => .error .isFolder

/-- The text of the file at a path. -/
def readText (tree : FileTree) (path : String) : Except FileFault String := do
  match Bytes.text? (← tree.read path) with
  | some text => return text
  | none => .error .notText

/-- Follow one part of a path, making a folder where nothing is. -/
def followMaking (state : FileTree × List String) (part : String) :
    Except FileFault (FileTree × List String) :=
  let (tree, names) := state
  match tree.follow (.folder names) part with
  | .ok (.folder names) => .ok (tree, names)
  | .ok (.file _) => .error .alreadyThere
  | .error .notFound =>
    .ok ((tree.withItem names part .folder).withItems (names ++ [part]) ∅, names ++ [part])
  | .error fault => .error fault

/-- Make the folder at a path, with those around it, where it is not there yet. The folders made
before a fault stay. -/
def makeFolders (tree : FileTree) (path : String) : FileTree × Except FileFault (List String) :=
  match checkPath path with
  | .error fault => (tree, .error fault)
  | .ok () => go (tree, tree.start path) (parts path)
where
  /-- Follow the parts that are left. -/
  go (state : FileTree × List String) : List String → FileTree × Except FileFault (List String)
    | [] => (state.1, .ok state.2)
    | part :: rest =>
      match followMaking state part with
      | .ok state => go state rest
      | .error fault => (state.1, .error fault)

/-- Make a file in a folder of the tree. -/
def write (tree : FileTree) (path : String) (content : List UInt8) : Except FileFault FileTree := do
  checkPath path
  let names := parts path
  let (tree, folder) ← names.dropLast.foldlM followMaking (tree, tree.start path)
  return tree.withItems folder (← (tree.items folder).write (names.getLastD "") content)

/-- The names on the way to where a path leads if all of it is folders. -/
def namesOf (tree : FileTree) (path : String) : List String :=
  (parts path).foldl
    (fun names part =>
      if part = "" ∨ part = "." then names
      else if part = ".." then names.dropLast
      else names ++ [part])
    (tree.start path)

/-- Take in what is known to stand at a path. -/
def learn (tree : FileTree) (path : String) (item : Folder ⊕ List UInt8) : FileTree :=
  match item with
  | .inl items =>
    let (tree, _) := tree.makeFolders path
    tree.withItems (tree.namesOf path) items
  | .inr content => ((tree.write path content).toOption).getD tree

/-- A working folder with nothing in it, and the folders around it. -/
def around (here : List String) : FileTree :=
  ((⟨Keyed.empty.insert "" ∅, here⟩ : FileTree).makeFolders ("/" ++ pathOf here)).1

end FileTree
end Campus
