import Campus.CommandLine.Run
import Campus.Proofs.Files.Trees
import Campus.Proofs.Json.Lines
import Campus.Proofs.Service.JsonFiles
import Campus.Proofs.Url.Appending
/-!
# What commands leave and print

A command that asks the service once can end in five ways. It has a result, or it fails before the
store is opened, or the store cannot be opened, or the service rejects it, or the program is aborted,
as the rows of a query cannot be put in order. Opening the store comes
after everything that can be wrong with the configuration or the input, since a configuration that
is accepted always names a lookup service. So a failure of these kinds leaves the files as they
were; every other failure leaves the JSON files of all folders.
-/

namespace Campus

namespace FileTree

variable {tree left : FileTree} {names : List String} {items : Folder}

/-- Two trees have the same files whose names are those of JSON files. -/
abbrev AgreesOnJson (tree other : FileTree) : Prop :=
  tree.AgreesOn (fun name => Blob.isJson name = true) other

/-- Trees that have the same files have the same JSON files. -/
theorem AgreesOn.json (agrees : tree.AgreesOn (fun _ => True) left) : tree.AgreesOnJson left :=
  fun names name content _ => agrees names name content trivial

/-- The items of a folder may be exchanged for others with the same JSON files. -/
theorem agreesOnJson_withItems (same : items.jsonFiles = (tree.items names).jsonFiles) :
    tree.AgreesOnJson (tree.withItems names items) := by
  intro others name content json
  have among (folder : Folder) : folder.get? name = some (.file content) ↔
      folder.jsonFiles.get? name = some (.file content) := by
    rw [Folder.jsonFiles, Keyed.get?_filterKeys_eq_some_iff]
    exact (and_iff_left json).symm
  rw [items_withItems]
  split
  · next path => rw [tree.items_congr path, among items, same, ← among]
  · exact Iff.rfl

end FileTree

namespace Configuration

variable {files : FileTree} {config : Configuration}

/-- A configuration that is checked is the one that is given, and it is valid. -/
theorem validate_of_map {given : Configuration}
    (checked : given.validate.map (fun _ => given) = .ok config) : config.validate = .ok () := by
  cases valid : given.validate with
  | error error =>
    rw [valid] at checked
    cases checked
  | ok _ =>
    rw [valid] at checked
    cases checked
    exact valid

/-- The configuration that is loaded is valid, also if it is the default one. -/
theorem validate_of_loadOrDefault {path : String}
    (loaded : loadOrDefault files path = .ok config) : config.validate = .ok () := by
  unfold loadOrDefault at loaded
  split at loaded
  rotate_left
  · exact validate_of_map loaded
  unfold load at loaded
  split at loaded
  · cases loaded
  unfold ofText at loaded
  split at loaded
  · cases loaded
  · exact validate_of_map loaded

end Configuration

/-- Whether a command fails in this way before it opens the store. -/
def CommandError.isEarly : CommandError → Bool
  | configuration _ | archive _ _ | input _ | emptyInput | notJson => true
  | lookup _ | store _ | server | service _ => false

namespace CommandError

/-- A failure before the store is opened is not one of the service or of the lookup service. -/
theorem cause_of_isEarly {error : CommandError} (early : error.isEarly = true) :
    (∀ failure, error ≠ .service failure) ∧ ∀ failure, error ≠ .lookup failure := by
  cases error with
  | service | lookup => cases early
  | _ => exact ⟨nofun, nofun⟩

/-- A failure of the service does not have the code of an earlier one. -/
theorem code_service_ne (failure : ServiceError) :
    ¬((service failure).code = "CONFIG_ERROR" ∨ (service failure).code = "IO_ERROR") := by
  change ¬(failure.code.label = "CONFIG_ERROR" ∨ failure.code.label = "IO_ERROR")
  cases failure.code <;> decide

end CommandError

namespace CommandEnd

/-- What is printed is a document on one line. -/
def PrintsLine (ended : CommandEnd) (doc : Json) : Prop :=
  '\n' ∉ doc.render.toList ∧ ended.printed = doc.render ++ "\n"

/-- A document that is printed stands on one line. -/
theorem printsLine_of_output? {ended : CommandEnd} {doc : Json}
    (output : ended.output? = some doc) : ended.PrintsLine doc := by
  refine ⟨(Json.isPrintable_render doc).newline_notMem, ?_⟩
  rw [printed, output]
  rfl

/-- Nothing is printed if the service does not reject anything. -/
theorem printed_failed {error : CommandError} (notService : ∀ failure, error ≠ .service failure) :
    (failed error).printed = "" := by
  cases error with
  | service failure => exact absurd rfl (notService failure)
  | _ => rfl

end CommandEnd

namespace Service

variable {service : Service} {error : ServiceError}

/-- Listing does not break down. -/
theorem isBreakdown_list (failed : service.list = .error error) : error.isBreakdown = false := by
  unfold list at failed
  cases listed : service.store.list with
  | ok summaries =>
    rw [listed] at failed
    cases failed
  | error cause =>
    rw [listed] at failed
    cases failed
    rfl

/-- Putting a dataset into the store does not break down. -/
theorem isBreakdown_commit {surroundings : Surroundings} {dataset : Dataset}
    (failed : (service.commit surroundings dataset).2 = .error error) :
    error.isBreakdown = false := by
  unfold commit at failed
  split at failed
  · unfold ids at failed
    cases listed : list _ with
    | ok summaries =>
      rw [listed] at failed
      cases failed
    | error cause =>
      rw [listed] at failed
      cases failed
      exact isBreakdown_list listed
  · cases failed
    rfl

/-- Reading an upload does not break down. -/
theorem isBreakdown_ingest {surroundings : Surroundings} {id : String} {kind : DatasetKind}
    {upload : Upload} (failed : (service.ingest surroundings id kind upload).2 = .error error) :
    error.isBreakdown = false := by
  unfold ingest at failed
  split at failed
  · cases failed
    rfl
  · next archive _ =>
    dsimp only at failed
    cases found : (archive.ingest surroundings.gazetteer kind id).records with
    | ok records =>
      rw [found] at failed
      cases failed
    | error cause =>
      rw [found] at failed
      cases failed
      rfl

/-- Refusing an id is no breakdown. -/
theorem isBreakdown_checkId {id : String} (failed : checkId id = .error error) :
    error.isBreakdown = false := by
  unfold checkId at failed
  split at failed
  · cases failed
  · cases failed
    rfl

/-- Refusing an id that is taken is no breakdown. -/
theorem isBreakdown_checkNew {id : String} (failed : service.checkNew id = .error error) :
    error.isBreakdown = false := by
  unfold checkNew at failed
  split at failed
  · cases failed
    rfl
  · cases failed
  · cases failed
    rfl

/-- Adding does not break down. -/
theorem isBreakdown_add {surroundings : Surroundings} {id : String} {kind : DatasetKind}
    {upload : Upload} (failed : (service.add surroundings id kind upload).2 = .error error) :
    error.isBreakdown = false := by
  unfold add at failed
  split at failed
  · next refused =>
    cases failed
    exact isBreakdown_checkId refused
  · next refused =>
    cases failed
    exact isBreakdown_checkNew refused
  · split at failed
    · next ingested =>
      cases failed
      exact isBreakdown_ingest (congrArg Prod.snd ingested)
    · exact isBreakdown_commit failed

/-- Removing does not break down. -/
theorem isBreakdown_remove {surroundings : Surroundings} {id : String}
    (failed : (service.remove surroundings id).2 = .error error) : error.isBreakdown = false := by
  unfold remove at failed
  split at failed
  · next refused =>
    cases failed
    exact isBreakdown_checkId refused
  · split at failed <;> cases failed <;> rfl

/-- Only a query can break down. -/
theorem exists_query_of_isBreakdown {surroundings : Surroundings} {call : ServiceCall}
    (failed : (service.answerCall surroundings call).2 = .error error)
    (broken : error.isBreakdown = true) : ∃ document, call = .query document := by
  have unmapped {α β : Type} {f : α → β} {outcome : Except ServiceError α}
      (same : outcome.map f = .error error) : outcome = .error error := by
    cases outcome with
    | ok => cases same
    | error => cases same; rfl
  cases call with
  | query document => exact ⟨document, rfl⟩
  | add id kind upload => exact absurd (isBreakdown_add (unmapped failed)) (by simp [broken])
  | remove id => exact absurd (isBreakdown_remove (unmapped failed)) (by simp [broken])
  | list => exact absurd (isBreakdown_list (unmapped failed)) (by simp [broken])

end Service

namespace Command

/-- How a command can end that asks the service once, perhaps a query. -/
inductive EndsIn (files : FileTree) (isQuery : Prop) : FileTree × CommandEnd → Prop
  | answered (after : FileTree) (result : Json) : EndsIn files isQuery (after, .answered result)
  /-- Nothing has been done. -/
  | refused (error : CommandError) (early : error.isEarly = true) :
    EndsIn files isQuery (files, .failed error)
  | unopened (after : FileTree) (kept : files.AgreesOnJson after) (error : StoreError) :
    EndsIn files isQuery (after, .failed (.store error))
  | rejected (after : FileTree) (kept : files.AgreesOnJson after) (error : ServiceError) :
    EndsIn files isQuery (after, .failed (.service error))
  | aborted (after : FileTree) (kept : files.AgreesOnJson after) (asked : isQuery) :
    EndsIn files isQuery (after, .aborted)

variable {files : FileTree} {config : Configuration}

/-- Opening a store leaves the JSON files of all folders. The store that is opened is on one of the
folders; otherwise the failure is one of the store. -/
theorem openStore_effects (surroundings : Surroundings) (whole : files.IsWhole) (path : String) :
    let ended := openStore surroundings files path
    files.AgreesOnJson ended.1 ∧
      (∀ error, ended.2 = .error error → ∃ reason, error = .store reason) ∧
      ∀ names store, ended.2 = .ok (names, store) →
        (Service.onStore store defaultRowLimit).HasFiles (ended.1.items names).jsonFiles := by
  obtain ⟨place, -, -, made⟩ := FileTree.exists_keeps_makeFolders whole path
  unfold openStore
  cases reached : files.makeFolders path with
  | mk left outcome =>
    rw [reached] at made
    cases outcome with
    | error fault => exact ⟨made.json, fun _ same => ⟨_, (Except.error.inj same).symm⟩, nofun⟩
    | ok names =>
      have json := Store.jsonFiles_onFolder surroundings.device (left.items names)
      dsimp only
      cases opened : Store.onFolder surroundings.device (left.items names) with
      | mk folder outcome =>
        rw [opened] at json
        have agrees := made.json.trans (FileTree.agreesOnJson_withItems json)
        cases outcome with
        | error error => exact ⟨agrees, fun _ same => ⟨_, (Except.error.inj same).symm⟩, nofun⟩
        | ok store =>
          refine ⟨agrees, nofun, ?_⟩
          rintro _ _ ⟨⟩
          rw [FileTree.items_withItems, if_pos rfl, json]
          exact Service.hasFiles_of_onFolder opened defaultRowLimit

/-- Asking the service once leaves the JSON files unless there is a result. -/
theorem endsIn_withService (surroundings : Surroundings) (whole : files.IsWhole)
    (valid : config.validate = .ok ()) (call : ServiceCall) {isQuery : Prop}
    (asked : ∀ document, call = .query document → isQuery) :
    EndsIn files isQuery (withService surroundings files config fun service =>
      service.answerCall surroundings call) := by
  obtain ⟨kept, isStore, opens⟩ := openStore_effects surroundings whole config.dataFolder
  obtain ⟨base, segments, parsed, path⟩ := config.exists_base_of_validate valid
  unfold withService
  cases opened : openStore surroundings files config.dataFolder with
  | mk left outcome =>
    rw [opened] at kept isStore opens
    cases outcome with
    | error error =>
      obtain ⟨reason, rfl⟩ := isStore error rfl
      exact .unopened left kept reason
    | ok found =>
      obtain ⟨names, store⟩ := found
      rw [LookupService.ofText_eq_ok parsed path]
      obtain ⟨json, ⟨-, has⟩, -, failed⟩ :=
        Service.filesAfter_answerCall surroundings (opens names store rfl) call
      dsimp only
      have queries (error : ServiceError) (rejected : (Service.answerCall surroundings
          (.onStore store defaultRowLimit) call).2 = .error error)
          (broken : error.isBreakdown = true) : isQuery := by
        obtain ⟨document, isQuery⟩ := Service.exists_query_of_isBreakdown rejected broken
        exact asked document isQuery
      generalize Service.answerCall surroundings (.onStore store defaultRowLimit) call = ended
        at has failed queries
      obtain ⟨service, outcome⟩ := ended
      cases outcome with
      | ok result => exact .answered _ result
      | error error =>
        -- the folder goes back into the tree with the JSON files that it had when it was opened
        obtain rfl := failed error rfl
        obtain ⟨folder, hasFolder, same⟩ := Option.map_eq_some_iff.1 has
        have agrees : files.AgreesOnJson
            (left.withItems names (service.close.store.folder.getD ∅)) := by
          refine kept.trans (FileTree.agreesOnJson_withItems ?_)
          rw [Service.close, Store.close, hasFolder]
          exact same
        dsimp only
        split
        · next broken => exact .aborted _ agrees (queries error rfl broken)
        · exact .rejected _ agrees error

/-- A text that is no query is refused before the store is opened. -/
theorem isEarly_of_queryOfText {text : String} {error : CommandError}
    (refused : queryOfText text = .error error) : error.isEarly = true := by
  unfold queryOfText at refused
  split at refused
  · cases refused
    rfl
  · split at refused <;> cases refused
    rfl

/-- How a command ends that asks the service once. -/
theorem endsIn_run (surroundings : Surroundings) (whole : files.IsWhole) (input : List UInt8)
    {command : Command} (once : ∀ config port, command ≠ .serve config port) :
    EndsIn files (∃ path file, command = .query path file)
      (command.run surroundings files input) := by
  unfold run
  cases loaded : Configuration.loadOrDefault files command.config with
  | error error => exact .refused _ rfl
  | ok config =>
    have valid := Configuration.validate_of_loadOrDefault loaded
    cases command with
    | serve config port => exact absurd rfl (once config port)
    | add path id kind archive =>
      dsimp only
      cases files.read archive with
      | error fault => exact .refused _ rfl
      | ok content =>
        exact endsIn_withService surroundings whole valid (.add id kind (.bytes content)) nofun
    | remove path id => exact endsIn_withService surroundings whole valid (.remove id) nofun
    | list path => exact endsIn_withService surroundings whole valid .list nofun
    | query path file =>
      dsimp only
      cases queryText files input file with
      | error fault => exact .refused _ rfl
      | ok text =>
        dsimp only
        cases spelled : queryOfText text with
        | error error => exact .refused error (isEarly_of_queryOfText spelled)
        | ok document =>
          exact endsIn_withService surroundings whole valid (.query document)
            fun _ _ => ⟨path, file, rfl⟩

/-- What a command leaves of the files and prints that asks the service once. It prints its result
on one line, or it fails. If this is because of its configuration or its input, nothing has been
done or printed; if the service rejects it, one line is printed that has the code of the error. Or it
is a query whose rows cannot be put in order, and the program is aborted and prints nothing. No
failure changes a JSON file in any folder, and none comes from the lookup service, which a valid
configuration always names. -/
theorem run_effects (surroundings : Surroundings) {files : FileTree} (whole : files.IsWhole)
    (input : List UInt8) {command : Command} (once : ∀ config port, command ≠ .serve config port) :
    let ended := command.run surroundings files input
    ((∃ result, ended.2 = .answered result ∧ ended.2.exitCode = 0 ∧
        ended.2.PrintsLine (resultJson result)) ∨
      (∃ error, ended.2 = .failed error ∧ ended.2.exitCode = 1 ∧ files.AgreesOnJson ended.1 ∧
        (error.code = "CONFIG_ERROR" ∨ error.code = "IO_ERROR" →
          ended.1 = files ∧ ended.2.printed = "") ∧
        (∀ failure, error = .service failure → ended.2.PrintsLine
          (.object [("code", .text error.code), ("error", .text error.message)])) ∧
        ∀ failure, error ≠ .lookup failure) ∨
      ended.2 = .aborted ∧ ended.2.exitCode = 101 ∧ files.AgreesOnJson ended.1 ∧
        ended.2.printed = "" ∧ ∃ path file, command = .query path file) ∧
    ∀ config : Configuration, config.validate = .ok () →
      ∃ service, LookupService.ofText config.lookupBase = .ok service := by
  intro ended
  constructor
  · have ends : EndsIn files (∃ path file, command = .query path file) ended :=
      endsIn_run surroundings whole input once
    generalize ended = ended at ends
    cases ends with
    | answered after result => exact .inl ⟨result, rfl, rfl, CommandEnd.printsLine_of_output? rfl⟩
    | refused error early =>
      obtain ⟨notService, notLookup⟩ := CommandError.cause_of_isEarly early
      exact .inr (.inl ⟨error, rfl, rfl, .refl _ files,
        fun _ => ⟨rfl, CommandEnd.printed_failed notService⟩,
        fun failure same => absurd same (notService failure), notLookup⟩)
    | unopened after kept error =>
      refine .inr (.inl ⟨_, rfl, rfl, kept, fun coded => ?_, nofun, nofun⟩)
      have other : ¬("BOOT_FAILED" = "CONFIG_ERROR" ∨ "BOOT_FAILED" = "IO_ERROR") := by decide
      exact absurd coded other
    | rejected after kept error =>
      refine .inr (.inl ⟨_, rfl, rfl, kept, fun coded => absurd coded ?_, ?_, nofun⟩)
      · exact CommandError.code_service_ne error
      · exact fun _ _ => CommandEnd.printsLine_of_output? rfl
    | aborted after kept asked => exact .inr (.inr ⟨rfl, rfl, kept, rfl, asked⟩)
  · intro config valid
    obtain ⟨base, segments, parsed, path⟩ := config.exists_base_of_validate valid
    exact ⟨_, LookupService.ofText_eq_ok parsed path⟩

/-- A tree of one folder with an empty configuration and a query about a dataset of rooms. -/
def oneQuery : FileTree :=
  ⟨Keyed.empty.insert "" (.ofList [("config.json", .file (Bytes.ofText "\x7b\x7d")),
    ("query.json", .file (Bytes.ofText
      "\x7b\"WHERE\":\x7b\x7d,\"OPTIONS\":\x7b\"COLUMNS\":[\"rooms_seats\"]\x7d\x7d"))]), []⟩

/-- The query is rejected in one line, since there are no datasets; the folder for them is made, and
the files stay. -/
theorem run_effects_oneQuery :
    let ended := Command.run ⟨Device.sound, fun _ => .error ""⟩ oneQuery []
      (.query "config.json" (some "query.json"))
    ended.2.exitCode = 1 ∧
      ended.2.printed =
        "\x7b\"code\":\"VALIDATION_ERROR\",\"error\":\"Dataset not found: rooms\"\x7d\n" ∧
      (ended.1.items []).get? "data" = some .folder ∧ oneQuery.AgreesOnJson ended.1 := by
  intro ended
  have exit : ended.2.exitCode = 1 := by decide +kernel
  refine ⟨exit, by decide +kernel, by decide +kernel, ?_⟩
  have whole : oneQuery.IsWhole := FileTree.isWhole_of_outermost _
  have once (config : String) (port : Option Nat) :
      Command.query "config.json" (some "query.json") ≠ .serve config port := nofun
  obtain ⟨⟨result, -, impossible, -⟩ | ⟨error, -, -, kept, -⟩ | ⟨-, impossible, -⟩, -⟩ :=
    run_effects ⟨Device.sound, fun _ => .error ""⟩ whole [] once
  · exact absurd (impossible.symm.trans exit) (by decide)
  · exact kept
  · exact absurd (impossible.symm.trans exit) (by decide)

end Command
end Campus
