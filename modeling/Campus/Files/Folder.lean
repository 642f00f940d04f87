import Campus.Data.Keyed
import Campus.Files.Fault
/-!
# Folders

A folder holds named files and other folders. It is changed by single steps: writing a file, putting
a file under another name in place of what is there, and removing a file. A step that fails leaves
the folder as it was, except that a write that is cut off leaves the first bytes of the file. The
device the folder is on may fail any step.
-/

namespace Campus

/-- What stands under a name in a folder. -/
inductive FolderItem
  | file (content : List UInt8)
  | folder
deriving DecidableEq

/-- The items of a folder by name. -/
abbrev Folder := Keyed FolderItem

/-- A change of one file in a folder. -/
inductive FileStep
  /-- Make a file of some content, over any earlier one. -/
  | write (name : String) (content : List UInt8)
  /-- Put a file under another name at once. -/
  | rename (old new : String)
  | remove (name : String)
deriving DecidableEq

/-- How a device fails a step. -/
inductive Mishap
  /-- The step does nothing. -/
  | refused
  /-- A write leaves this many bytes; any other step does nothing. -/
  | cutOff (kept : Nat)
deriving DecidableEq

/-- Which steps a device fails. -/
abbrev Device := FileStep → Option Mishap

/-- The device that fails no step. -/
def Device.sound : Device := fun _ => none

namespace Folder

/-- The longest name, in bytes. -/
def nameLimit : Nat := 255

/-- Whether a name is too long. -/
def isTooLong (name : String) : Bool := nameLimit < name.utf8ByteSize

/-- The content of a file. -/
def read (folder : Folder) (name : String) : Except FileFault (List UInt8) :=
  if isTooLong name then .error .nameTooLong
  else match folder.get? name with
    | some (.file content) => .ok content
    | some .folder => .error .isFolder
    | none => .error .notFound

/-- Make a file of some content. -/
def write (folder : Folder) (name : String) (content : List UInt8) : Except FileFault Folder :=
  if isTooLong name then .error .nameTooLong
  else if folder.get? name = some .folder then .error .isFolder
  else .ok (folder.insert name (.file content))

/-- Put a file under another name. -/
def rename (folder : Folder) (old new : String) : Except FileFault Folder := do
  let content ← folder.read old
  write (folder.erase old) new content

/-- Remove a file. -/
def remove (folder : Folder) (name : String) : Except FileFault Folder := do
  let _ ← folder.read name
  return folder.erase name

/-- The folder after a step that the device lets pass. -/
def after (folder : Folder) : FileStep → Except FileFault Folder
  | .write name content => folder.write name content
  | .rename old new => folder.rename old new
  | .remove name => folder.remove name

/-- What a step leaves that the device fails. -/
def leftBy (folder : Folder) (mishap : Mishap) : FileStep → Folder
  | .write name content =>
    match mishap with
    | .refused => folder
    | .cutOff kept => ((folder.write name (content.take kept)).toOption).getD folder
  | _ => folder

/-- Perform a step: the folder afterwards, and whether the step failed. -/
def perform (device : Device) (folder : Folder) (step : FileStep) :
    Folder × Except FileFault Unit :=
  match device step with
  | some mishap => (folder.leftBy mishap step, .error .device)
  | none =>
    match folder.after step with
    | .ok changed => (changed, .ok ())
    | .error fault => (folder, .error fault)

/-- The steps that turn a folder into another one: files that have gone are removed, and files that
are new or have another content are written under another name and renamed. -/
def changes (old new : Folder) : List FileStep :=
  let gone := old.entries.filterMap fun (name, item) =>
    match item, new.get? name with
    | .file _, none => some [FileStep.remove name]
    | _, _ => none
  let written := new.entries.filterMap fun (name, item) =>
    match item with
    | .folder => none
    | .file content =>
      if old.get? name = some item then none
      else some [FileStep.write (name ++ ".tmp") content, .rename (name ++ ".tmp") name]
  (gone ++ written).flatten

end Folder
end Campus
