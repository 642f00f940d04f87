import Campus.CommandLine.Arguments
import Campus.Configuration.Basic
import Campus.Http.Server
/-!
# Running commands

A command loads its configuration, reads what it is given, opens the store in the configured folder,
asks the service and closes the store. Nothing is changed or printed unless all of this succeeds up
to the question to the service. Its result or failure is one line of output; a failure is also
reported as an error.
-/

namespace Campus

/-- Why a command fails. -/
inductive CommandError
  | configuration (error : ConfigurationError)
  /-- The address of the lookup service is not usable. -/
  | lookup (error : IngestError)
  /-- The archive cannot be read. -/
  | archive (path : String) (fault : FileFault)
  /-- The query cannot be read. -/
  | input (fault : FileFault)
  /-- The query is blank. -/
  | emptyInput
  /-- The query is not JSON. -/
  | notJson
  /-- The store cannot be opened. -/
  | store (error : StoreError)
  /-- The service cannot listen at its address. -/
  | server
  | service (error : ServiceError)
deriving DecidableEq

namespace CommandError

/-- The code of a failure. -/
def code : CommandError → String
  | configuration _ | lookup _ => "CONFIG_ERROR"
  | archive _ _ | input _ | emptyInput | notJson => "IO_ERROR"
  | store _ | server => "BOOT_FAILED"
  | service error => error.code.label

/-- The message of a failure. -/
def message : CommandError → String
  | configuration error => error.message
  | lookup error => error.message
  | archive path fault => s!"Failed to read archive {path}: {fault.message}"
  | input fault => fault.message
  | emptyInput => "Empty input"
  | notJson => "JSON error"
  | store error => s!"Repository: {error.message}"
  | server => "HTTP server failed: invalid socket address syntax"
  | service error => error.message

end CommandError

/-- What a command comes to. -/
inductive CommandEnd
  /-- The result is printed. -/
  | answered (result : Json)
  /-- The command failed; if the service rejected it, this is printed too. -/
  | failed (error : CommandError)
  /-- The service listens at an address. -/
  | serving (address : String) (server : HttpServer)
  /-- The service cannot be set up for the configured origins. -/
  | broken
  /-- The answer to the query cannot be put in order. -/
  | aborted

namespace CommandEnd

/-- The line that is printed. -/
def output? : CommandEnd → Option Json
  | answered result => some (resultJson result)
  | failed (.service error) => some (failureJson error.code error.message)
  | _ => none

/-- All that is printed. -/
def printed (ended : CommandEnd) : String := ended.output?.elim "" fun line => line.render ++ "\n"

/-- The exit code. A server that was started is stopped without a fault; one that cannot be set up
ends the program at once, and so does an answer that cannot be put in order. -/
def exitCode : CommandEnd → Nat
  | answered _ | serving _ _ => 0
  | failed _ => 1
  | broken | aborted => 101

/-- The line that reports an error. -/
def report? : CommandEnd → Option String
  | failed error => some (error.code ++ ": " ++ error.message)
  | broken => some "the listed origins contain the wildcard"
  | aborted => some QueryError.breakdown.message
  | _ => none

end CommandEnd

namespace Command

/-- Whether a host and a port can be listened at: the host is a number. -/
def canListen (host : String) : Bool :=
  match host.toList with
  | '[' :: rest =>
    match rest.getLast? with
    | some ']' => (Address.eightGroups? rest.dropLast).isSome
    | _ => false
  | chars =>
    match (chars.splitOn '.').mapM Address.byte? with
    | some [_, _, _, _] => true
    | _ => false

/-- The query in a text. -/
def queryOfText (text : String) : Except CommandError Json :=
  if Text.trim text = "" then .error .emptyInput
  else match Json.ofText? text with
    | some document => .ok document
    | none => .error .notJson

/-- The text of a command's query: of its file, or of the input. -/
def queryText (files : FileTree) (input : List UInt8) : Option String → Except FileFault String
  | some path => files.readText path
  | none => match Bytes.text? input with
    | some text => .ok text
    | none => .error .notText

/-- Open the store in a folder of the tree. -/
def openStore (surroundings : Surroundings) (files : FileTree) (path : String) :
    FileTree × Except CommandError (List String × Store) :=
  match files.makeFolders path with
  | (files, .error fault) => (files, .error (.store (.io fault)))
  | (files, .ok names) =>
    match Store.onFolder surroundings.device (files.items names) with
    | (folder, .ok store) => (files.withItems names folder, .ok (names, store))
    | (folder, .error error) => (files.withItems names folder, .error (.store error))

/-- Ask the service on the configured store, and close it. -/
def withService (surroundings : Surroundings) (files : FileTree) (config : Configuration)
    (ask : Service → Service × Except ServiceError Json) : FileTree × CommandEnd :=
  match openStore surroundings files config.dataFolder with
  | (files, .error error) => (files, .failed error)
  | (files, .ok (names, store)) =>
    match LookupService.ofText config.lookupBase with
    | .error error => (files, .failed (.lookup error))
    | .ok _ =>
      let (service, outcome) := ask (.onStore store defaultRowLimit)
      let service := service.close
      (files.withItems names (service.store.folder.getD ∅), match outcome with
        | .ok result => .answered result
        | .error error => if error.isBreakdown then .aborted else .failed (.service error))

/-- Set up the server. -/
def boot (surroundings : Surroundings) (files : FileTree) (config : Configuration)
    (settings : HttpSettings) : FileTree × CommandEnd :=
  match openStore surroundings files config.dataFolder with
  | (files, .error error) => (files, .failed error)
  | (files, .ok _) =>
    match OriginPolicy.ofOrigins? settings.origins with
    | none => (files, .broken)
    | some policy =>
      if canListen settings.host then
        (files, .serving settings.address ⟨policy, settings.bodyLimit⟩)
      else (files, .failed .server)

/-- The file that a command reads, besides its configuration. -/
def source? : Command → Option String
  | add _ _ _ archive => some archive
  | query _ file => file
  | _ => none

/-- Whether a command reads the input. -/
def readsInput : Command → Bool
  | query _ none => true
  | _ => false

/-- Where the configuration of a command is. -/
def config : Command → String
  | serve config _ | add config _ _ _ | remove config _ | list config | query config _ => config

/-- Run a command: the files afterwards, and what it comes to. -/
def run (surroundings : Surroundings) (files : FileTree) (input : List UInt8) (command : Command) :
    FileTree × CommandEnd :=
  match Configuration.loadOrDefault files command.config with
  | .error error => (files, .failed (.configuration error))
  | .ok config =>
    match command with
    | serve _ port =>
      boot surroundings files config { config.http with port := port.getD config.http.port }
    | add _ id kind archive =>
      match files.read archive with
      | .error fault => (files, .failed (.archive archive fault))
      | .ok content =>
        withService surroundings files config fun service =>
          let (service, outcome) := service.add surroundings id kind (.bytes content)
          (service, outcome.map fun ids => .array (ids.map .text))
    | remove _ id =>
      withService surroundings files config fun service =>
        let (service, outcome) := service.remove surroundings id
        (service, outcome.map .text)
    | list _ =>
      withService surroundings files config fun service =>
        (service, service.list.map fun summaries => .array (summaries.map DatasetSummary.toJson))
    | query _ file =>
      match queryText files input file with
      | .error fault => (files, .failed (.input fault))
      | .ok text =>
        match queryOfText text with
        | .error error => (files, .failed error)
        | .ok document =>
          withService surroundings files config fun service =>
            (service, (service.query document).map fun rows => .array (rows.map Record.toJson))

end Command
end Campus
