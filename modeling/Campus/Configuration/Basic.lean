import Campus.Files.Tree
import Campus.Json.Fields
import Campus.Url.Reader
/-!
# Configuration

A configuration is one JSON document, and every part of it has a default. It says where datasets are
kept, where addresses are looked up, and how the service is reached over the network.
-/

namespace Campus

/-- How the service is reached over the network. -/
structure HttpSettings where
  host : String
  port : Nat
  /-- The origins whose pages may use the service; none means all. -/
  origins : List String
  /-- How many bytes the body of a request may have. -/
  bodyLimit : Nat
deriving DecidableEq

/-- The settings of the service. -/
structure Configuration where
  /-- The folder with the stored datasets. -/
  dataFolder : String
  /-- The address of the lookup service. -/
  lookupBase : String
  http : HttpSettings
deriving DecidableEq

/-- Why there is no usable configuration. -/
inductive ConfigurationError
  /-- The file cannot be read. -/
  | unreadable (path : String) (fault : FileFault)
  /-- The file spells no configuration. -/
  | notConfiguration
  | noDataFolder
  /-- The lookup service has no address. -/
  | notAddress (base : String)
  /-- The address of the lookup service cannot be extended. -/
  | rootlessAddress (base : String)
  | noBody
deriving DecidableEq

namespace ConfigurationError

/-- The message of a failure. -/
def message : ConfigurationError → String
  | unreadable path fault => s!"Failed to read config {path}: {fault.message}"
  | notConfiguration => "Invalid config JSON"
  | noDataFolder => "Invalid config: data_dir must not be empty"
  | notAddress base => s!"Invalid config: geocoder.base_url '{base}'"
  | rootlessAddress base => s!"Invalid config: geocoder.base_url '{base}' cannot take a path"
  | noBody => "Invalid config: http.max_body_bytes must be > 0"

end ConfigurationError

namespace HttpSettings

/-- The settings when nothing is given. -/
def default : HttpSettings := ⟨"127.0.0.1", 4321, [], 64 * 1024 * 1024⟩

/-- The names of the parts in their order. -/
def declared : List String := ["host", "port", "cors_origins", "max_body_bytes"]

/-- The settings of a written form. -/
def ofSource? (source : Json.Source) : Option HttpSettings := do
  let fields ← source.fields? declared
  return {
    host := ← fields.withDefault "host" default.host Json.Source.text?
    port := ← fields.withDefault "port" default.port (Json.Source.natBelow? 0x10000)
    origins := ← fields.withDefault "cors_origins" default.origins fun value =>
      value.items.bind fun items => items.mapM Json.Source.text?
    bodyLimit := ← fields.withDefault "max_body_bytes" default.bodyLimit
      (Json.Source.natBelow? 0x10000000000000000) }

/-- Where the service listens. -/
def address (settings : HttpSettings) : String := settings.host ++ ":" ++ toString settings.port

end HttpSettings

namespace Configuration

/-- The lookup service when none is given. -/
def defaultLookupBase : String :=
  "http://cs310.students.cs.ubc.ca:11316/api/v1/project_team203"

/-- The configuration when nothing is given. -/
def default : Configuration := ⟨"./data", defaultLookupBase, .default⟩

/-- The names of the parts in their order. -/
def declared : List String := ["data_dir", "geocoder", "http"]

/-- The address of the lookup service in a written form. -/
def lookupOfSource? (source : Json.Source) : Option String := do
  let fields ← source.fields? ["base_url"]
  fields.withDefault "base_url" defaultLookupBase Json.Source.text?

/-- The configuration of a written form. -/
def ofSource? (source : Json.Source) : Option Configuration := do
  let fields ← source.fields? declared
  return {
    dataFolder := ← fields.withDefault "data_dir" default.dataFolder Json.Source.text?
    lookupBase := ← fields.withDefault "geocoder" default.lookupBase lookupOfSource?
    http := ← fields.withDefault "http" default.http HttpSettings.ofSource? }

/-- Refuse a configuration that cannot be used. -/
def validate (config : Configuration) : Except ConfigurationError Unit :=
  if config.dataFolder = "" then .error .noDataFolder
  else match Url.parse? config.lookupBase with
    | none => .error (.notAddress config.lookupBase)
    | some url =>
      if url.isRootless then .error (.rootlessAddress config.lookupBase)
      else if config.http.bodyLimit = 0 then .error .noBody
      else .ok ()

/-- The usable configuration that a text spells. -/
def ofText (text : String) : Except ConfigurationError Configuration :=
  match (Json.Source.parse? (Bytes.ofText text)).bind ofSource? with
  | none => .error .notConfiguration
  | some config => config.validate.map fun _ => config

/-- The configuration in a file. -/
def load (files : FileTree) (path : String) : Except ConfigurationError Configuration :=
  match files.readText path with
  | .error fault => .error (.unreadable path fault)
  | .ok text => ofText text

/-- The configuration in a file, or the default one if nothing is at its path. -/
def loadOrDefault (files : FileTree) (path : String) : Except ConfigurationError Configuration :=
  if files.has path then load files path else default.validate.map fun _ => default

end Configuration
end Campus
