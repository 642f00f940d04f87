import Campus.CommandLine.Run
/-!
# The command line

The outer layer reads what a command needs into a file tree, runs the command on it, carries the
changes out, and prints the outcome. It has no network: addresses are not found, and nothing is
served.
-/

namespace Campus.Main

/-- What an entry of a folder is. -/
def itemOf (entry : IO.FS.DirEntry) : IO FolderItem := do
  if ← entry.path.isDir then return .folder
  else return .file (← IO.FS.readBinFile entry.path).data.toList

/-- Take in what stands at a path, and the items of a folder. -/
def fetch (files : FileTree) (path : String) : IO FileTree := do
  match FileTree.checkPath path with
  | .error _ => return files
  | .ok () =>
    let place := (← IO.currentDir) / path
    if !(← place.pathExists) then return files
    else if ← place.isDir then
      let mut items : Folder := ∅
      for entry in ← place.readDir do
        items := items.insert entry.fileName (← itemOf entry)
      return files.learn path (.inl items)
    else return files.learn path (.inr (← IO.FS.readBinFile place).data.toList)

/-- Carry out a step in a folder. -/
def carryOut (folder : String) (step : FileStep) : IO Unit := do
  let place := (← IO.currentDir) / folder
  match step with
  | .write name content => IO.FS.writeBinFile (place / name) ⟨content.toArray⟩
  | .rename old new => IO.FS.rename (place / old) (place / new)
  | .remove name => IO.FS.removeFile (place / name)

/-- Carry out the changes in a folder. -/
def commit (folder : String) (before after : FileTree) : IO Unit := do
  let names := before.namesOf folder
  if (after.folders.get? (FileTree.pathOf names)).isSome then
    IO.FS.createDirAll ((← IO.currentDir) / folder)
  for step in Folder.changes (before.items names) (after.items names) do
    carryOut folder step

/-- The whole input. -/
def readInput : IO (List UInt8) := do
  return (← (← IO.getStdin).readBinToEnd).data.toList

/-- Run a command and give its exit code. -/
def runCommand (command : Command) : IO UInt32 := do
  let here := (((← IO.currentDir).toString.splitOn "/").filter fun name => name != "")
  let files ← fetch (.around here) command.config
  let files ← (command.source?.map (fetch files)).getD (pure files)
  let folder := (Configuration.loadOrDefault files command.config).toOption.map
    Configuration.dataFolder
  let files ← (folder.map (fetch files)).getD (pure files)
  let input ← if command.readsInput then readInput else pure []
  let (after, result) := command.run ⟨.sound, fun _ => .error "no network"⟩ files input
  if let some folder := folder then commit folder files after
  (← IO.getStdout).putStr result.printed
  match result with
  | .serving address _ =>
    (← IO.getStderr).putStrLn s!"BOOT_FAILED: HTTP server failed: no network for {address}"
    return 1
  | _ =>
    if let some line := result.report? then (← IO.getStderr).putStrLn line
    return result.exitCode.toUInt32

end Campus.Main

/-- Run the command that the arguments spell, or print why they spell none. -/
def main (arguments : List String) : IO UInt32 := do
  match Campus.Command.ofArguments arguments with
  | .ok command => Campus.Main.runCommand command
  | .error notice =>
    let stream ← if notice.exitCode = 0 then IO.getStdout else IO.getStderr
    stream.putStrLn notice.message
    return notice.exitCode.toUInt32
