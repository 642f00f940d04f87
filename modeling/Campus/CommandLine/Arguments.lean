import Campus.Dataset.Basic
/-!
# Arguments

A command line names a command and gives its options. An option is written `--name value` or
`--name=value`, at most once, and a value of the first form does not start with a dash. What is
wrong with arguments is noticed from left to right; the value of an option is looked at when the
next option comes, or at the end.
-/

namespace Campus

/-- A command. -/
inductive Command
  /-- Serve requests, at another port than the configured one if it is given. -/
  | serve (config : String) (port : Option Nat)
  /-- Add the dataset in an archive. -/
  | add (config id : String) (kind : DatasetKind) (archive : String)
  | remove (config id : String)
  | list (config : String)
  /-- Answer the query in a file, or on the input. -/
  | query (config : String) (file : Option String)
deriving DecidableEq

/-- Why arguments give no command. -/
inductive UsageNotice
  /-- The help was asked for. -/
  | help
  /-- The version was asked for. -/
  | version
  /-- There are no arguments. -/
  | nothing
  | unknownCommand
  | missingOption
  | unknownArgument
  /-- An option has no value. -/
  | missingValue
  /-- An option has a value that it cannot have. -/
  | badValue
  /-- An option is given twice. -/
  | repeatedOption
  /-- Something that takes no value has one. -/
  | surplusValue
deriving DecidableEq

namespace UsageNotice

/-- What is said about arguments that give no command. -/
def message : UsageNotice → String
  | help | nothing => "usage: serve | add | remove | list | query, each with its options"
  | version => "0.1.0"
  | unknownCommand => "unrecognized subcommand"
  | missingOption => "a required option was not given"
  | unknownArgument => "unexpected argument"
  | missingValue => "a value is required for an option"
  | badValue => "invalid value for an option"
  | repeatedOption => "an option was given more than once"
  | surplusValue => "an option takes no value"

/-- The exit code: asking for the help or the version is no fault. -/
def exitCode : UsageNotice → Nat
  | help | version => 0
  | _ => 2

end UsageNotice

/-- What values an option takes. -/
inductive ValueClass
  | text
  /-- A path, which is not empty. -/
  | path
  | datasetKind
  | port
deriving DecidableEq

/-- An option of a command. -/
structure CommandOption where
  name : String
  valueClass : ValueClass
  isRequired : Bool
deriving DecidableEq

/-- The value of an integer numeral, which may have a sign. -/
def signedValue? (numeral : String) : Option Int :=
  let value? (digits : List Char) : Option Int :=
    if digits.isEmpty || !digits.all Char.isDigit then none
    else some (digits.foldl (fun n c => 10 * n + (c.toNat - 48 : Nat)) 0)
  match numeral.toList with
  | '-' :: digits => (value? digits).map fun n => -n
  | '+' :: digits => value? digits
  | digits => value? digits

/-- The port that a numeral gives. -/
def portValue? (numeral : String) : Option Nat :=
  (signedValue? numeral).bind fun n => if 0 ≤ n ∧ n < 0x10000 then some n.toNat else none

/-- Refuse a value that an option cannot have. -/
def ValueClass.check (valueClass : ValueClass) (value : String) : Except UsageNotice Unit :=
  match valueClass with
  | text => .ok ()
  | path => if value = "" then .error .missingValue else .ok ()
  | datasetKind => if (DatasetKind.ofLabel? value).isSome then .ok () else .error .badValue
  | port => if (portValue? value).isSome then .ok () else .error .badValue

/-- The option that names the configuration, which every command has. -/
def configOption : CommandOption := ⟨"config", .path, false⟩

/-- Where the configuration is unless it is said otherwise. -/
def defaultConfigPath : String := "./insightdb.json"

/-- The commands with their options. -/
def commandOptions : List (String × List CommandOption) := [
  ("serve", [configOption, ⟨"port", .port, false⟩]),
  ("add", [configOption, ⟨"id", .text, true⟩, ⟨"kind", .datasetKind, true⟩,
    ⟨"archive", .path, true⟩]),
  ("remove", [configOption, ⟨"id", .text, true⟩]),
  ("list", [configOption]),
  ("query", [configOption, ⟨"file", .path, false⟩])]

/-- How an argument is written. -/
inductive Argument
  /-- Two dashes, after which everything is a plain argument. -/
  | divider
  /-- A name after two dashes, and what follows an equals sign. -/
  | long (name : String) (value : Option String)
  /-- Letters after one dash. -/
  | short (first : Char)
  | plain (text : String)
deriving DecidableEq

/-- Read an argument. -/
def Argument.ofText (text : String) : Argument :=
  match text.toList with
  | ['-', '-'] => divider
  | '-' :: '-' :: body =>
    let name := String.ofList (body.takeWhile (· != '='))
    match body.dropWhile (· != '=') with
    | _ :: value => long name (some (String.ofList value))
    | [] => long name none
  | '-' :: first :: _ => short first
  | _ => plain text

/-- The options read so far. -/
structure OptionReading where
  /-- The options with their values, checked. -/
  given : List (String × String)
  /-- The option read last, with its value if that has come. -/
  pending : Option (CommandOption × Option String)

namespace OptionReading

/-- Nothing read. -/
def empty : OptionReading := ⟨[], none⟩

/-- Take in an option with its value. -/
def give (reading : OptionReading) (option : CommandOption) (value : Option String) :
    Except UsageNotice OptionReading :=
  match value with
  | none => .error .missingValue
  | some value =>
    if reading.given.any fun entry => entry.1 == option.name then .error .repeatedOption
    else (option.valueClass.check value).map fun _ =>
      ⟨reading.given ++ [(option.name, value)], none⟩

/-- Take in the option read last. -/
def settle (reading : OptionReading) : Except UsageNotice OptionReading :=
  match reading.pending with
  | none => .ok reading
  | some (option, value) => reading.give option value

/-- Read an argument of a command. -/
def read (options : List CommandOption) (reading : OptionReading) (argument : Argument) :
    Except UsageNotice OptionReading :=
  match argument with
  | .long "help" none | .short 'h' => do
    let _ ← reading.settle
    .error .help
  | .long "help" (some _) => .error .surplusValue
  | .long name value =>
    match options.find? fun option => option.name == name with
    | none => .error .unknownArgument
    | some option => do
      let reading ← reading.settle
      match value with
      | some value => reading.give option (some value)
      | none => .ok { reading with pending := some (option, none) }
  | .plain text =>
    match reading.pending with
    | some (option, none) => .ok { reading with pending := some (option, some text) }
    | _ => .error .unknownArgument
  | .short _ | .divider => .error .unknownArgument

/-- Read the arguments of a command. Plain arguments after the divider belong to no option. -/
def readAll (options : List CommandOption) (reading : OptionReading) :
    List Argument → Except UsageNotice (List (String × String))
  | [] | [.divider] => do
    let reading ← reading.settle
    if options.any fun option =>
        option.isRequired && !reading.given.any fun entry => entry.1 == option.name
    then .error .missingOption
    else .ok reading.given
  | argument :: rest => do readAll options (← reading.read options argument) rest

end OptionReading

namespace Command

/-- The command of a name with options. -/
def ofOptions? (name : String) (given : List (String × String)) : Option Command :=
  let value? (option : String) : Option String :=
    (given.find? fun entry => entry.1 == option).map Prod.snd
  let config := (value? "config").getD defaultConfigPath
  match name with
  | "serve" => some (.serve config ((value? "port").bind portValue?))
  | "add" => do
    return .add config (← value? "id") (← (value? "kind").bind DatasetKind.ofLabel?)
      (← value? "archive")
  | "remove" => do return .remove config (← value? "id")
  | "list" => some (.list config)
  | "query" => some (.query config (value? "file"))
  | _ => none

/-- Whether there is a command of a name, the one for help included. -/
def isName (name : String) : Bool :=
  name == "help" || commandOptions.any fun entry => entry.1 == name

/-- What the help command says about names of commands. -/
def helpOn : List String → UsageNotice
  | [] => .help
  | [name] => if isName name then .help else .unknownCommand
  | _ => .unknownCommand

/-- The command that arguments give. -/
def ofArguments : List String → Except UsageNotice Command
  | [] => .error .nothing
  | first :: rest =>
    if first = "help" then .error (helpOn rest)
    else match commandOptions.find? fun entry => entry.1 == first with
      | some (name, options) => do
        let given ← OptionReading.readAll options .empty (rest.map Argument.ofText)
        match ofOptions? name given with
        | some command => .ok command
        | none => .error .missingOption
      | none =>
        match Argument.ofText first with
        | .long "help" none | .short 'h' => .error .help
        | .long "version" none | .short 'V' => .error .version
        | .long "help" (some _) | .long "version" (some _) => .error .surplusValue
        | .long _ _ | .short _ => .error .unknownArgument
        | .plain _ => .error .unknownCommand
        | .divider =>
          match rest with
          | [] => .error .nothing
          | next :: _ => .error (if isName next then .unknownArgument else .unknownCommand)

end Command
end Campus
