import WarehouseImport.Config.EnvironmentFile
import WarehouseImport.Config.Setting
import WarehouseImport.Name.Named

/-!
# Configuration

A configuration gives every key a value in normal form: flags and numbers given as texts are read,
session parameters are an object, a log level is in lower case. Values come from the caller, or
else from the environment. `Config.override` changes some keys and normalises again.
-/

namespace WarehouseImport

open WarehouseImport.Text

/-- The keys of a configuration. -/
inductive ConfigKey where
  | ansi
  | sessionParameters
  | location
  | project
  | logLevel
  | logPath
  | queryTimeout
  | quiet
  | stagingNames
  | suppressStdout
  | verbose
  | vverbose
  deriving DecidableEq, Repr

instance : Named ConfigKey where
  all := [.ansi, .sessionParameters, .location, .project, .logLevel, .logPath, .queryTimeout,
    .quiet, .stagingNames, .suppressStdout, .verbose, .vverbose]
  name
    | .ansi => "ansi"
    | .sessionParameters => "backend_session_parameters"
    | .location => "bigquery_dataset_location"
    | .project => "bigquery_dataset_project"
    | .logLevel => "log_level"
    | .logPath => "log_path"
    | .queryTimeout => "query_timeout_s"
    | .quiet => "quiet"
    | .stagingNames => "staging_table_prefix"
    | .suppressStdout => "suppress_stdout"
    | .verbose => "verbose"
    | .vverbose => "vverbose"

namespace ConfigKey

/-- The session parameters that a configuration may set. -/
def sessionParameterNames : List String := ["maximum_bytes_billed", "use_query_cache"]

/-- The accepted log levels. -/
def logLevels : List String := ["debug", "info", "warning", "error", "critical"]

/-- The option name of a flag in messages. -/
def flagOption (key : ConfigKey) : String := upper (Named.name key)

/-- The names in session parameters that are not supported. -/
def unsupported (names : List Json) : List Json :=
  names.filter fun name =>
    match name with
    | .str text => !sessionParameterNames.contains text
    | _ => true

/-- Session parameters that are all supported. -/
def supportedParameters (parameters : Json) : Except Failure Json :=
  let check (names : List Json) : Except Failure Json :=
    let wrong := unsupported names
    if wrong.isEmpty then .ok parameters else .error (.unsupportedParameters wrong)
  match parameters with
  | .obj members => check (members.map fun member => .str member.1)
  | .arr items => check items
  | _ => .error .wrongKind

/-- Session parameters as an object; a text is read, and nothing stands for no parameters. -/
def normalizeParameters (value : Json) : Except Failure Json :=
  if !value.isGiven then .ok (.obj [])
  else
    match value with
    | .str text => do
      Setting.checkObject "BACKEND_SESSION_PARAMETERS" text
      match Json.read? text with
      | some document => supportedParameters document
      | none => throw .unreadableDocument
    | _ => supportedParameters value

/-- A flag; a text is read, and any other value stays. -/
def normalizeFlag (key : ConfigKey) (value : Json) : Except Failure Json :=
  match value with
  | .str _ => (Setting.flag (.invalidSetting key.flagOption) value).map .bool
  | _ => .ok value

/-- A log level in lower case, or null. -/
def normalizeLogLevel (value : Json) : Except Failure Json :=
  if !value.isGiven then .ok .null
  else
    match value with
    | .str text =>
      if logLevels.contains (lower text) then .ok (.str (lower text))
      else .error (.invalidLogLevel logLevels)
    | _ => .error .noSuchPart

/-- A positive number of seconds, or null. -/
def normalizeTimeout (value : Json) : Except Failure Json :=
  (Setting.positive (.invalidSetting "QUERY_TIMEOUT_S") value false).map fun seconds =>
    (seconds.map Json.int).getD .null

/-- The beginning of the names of staging tables, which must be given. -/
def normalizeStagingNames (value : Json) : Except Failure Json :=
  if value.isGiven then .ok value else .error .blankStagingPrefix

/-- The normal form of the value of a key. -/
def normalize (key : ConfigKey) (value : Json) : Except Failure Json :=
  match key with
  | .sessionParameters => normalizeParameters value
  | .ansi | .quiet | .suppressStdout | .verbose | .vverbose => key.normalizeFlag value
  | .logLevel => normalizeLogLevel value
  | .queryTimeout => normalizeTimeout value
  | .stagingNames => normalizeStagingNames value
  | .location | .project | .logPath => .ok value

/-- The keys whose values are checked, in the order of the checks. -/
def checked : List ConfigKey :=
  [.sessionParameters, .ansi, .quiet, .suppressStdout, .verbose, .vverbose, .logLevel,
    .queryTimeout, .stagingNames]

/-- The beginning of the names of staging tables unless another is given. -/
def usualStagingNames : String := "__temp_"

/-- The default of a key in an environment. -/
def default (environment : Environment) (key : ConfigKey) : Except Failure Json :=
  let given (name : String) : Json := ((environment.lookup name).map Json.str).getD .null
  match key with
  | .ansi =>
    (Setting.flag (.invalidDefault "ANSI") (.str ((environment.lookup "ANSI").getD "true"))).map
      .bool
  | .sessionParameters => .ok (given "BACKEND_SESSION_PARAMETERS")
  | .location => .ok (given "BIGQUERY_DATASET_LOCATION")
  | .project => .ok (given "BIGQUERY_DATASET_PROJECT")
  | .logLevel =>
    .ok (((environment.lookup "LOG_LEVEL").map fun level => Json.str (lower level)).getD .null)
  | .logPath => .ok (given "BQDRIVER_LOGDIR")
  | .queryTimeout =>
    (Setting.positive (.invalidDefault "QUERY_TIMEOUT_S") (given "QUERY_TIMEOUT_S") false).map
      fun seconds => (seconds.map Json.int).getD .null
  | .stagingNames =>
    .ok (.str ((environment.lookup "BQDRIVER_STAGING_TABLE_PREFIX").getD usualStagingNames))
  | .quiet | .suppressStdout | .verbose | .vverbose => .ok (.bool false)

end ConfigKey

/-- Values for some keys. -/
abbrev Settings := List (ConfigKey × Json)

/-- A value for every key. -/
structure Config where
  value : ConfigKey → Json

namespace Config

/-- The members of an object that name keys, and the names that are none. -/
def settingsOf (members : List (String × Json)) : Except Failure Settings :=
  let unknown := (members.map (·.1)).filter fun name =>
    (Named.ofName? name : Option ConfigKey).isNone
  if unknown.isEmpty then
    .ok (members.filterMap fun member => (Named.ofName? member.1).map fun key => (key, member.2))
  else .error (.unknownSettings unknown)

/-- The normal forms of the given keys, checked one after the other; every checked key must have a
value. -/
def normalizeAll (value? : ConfigKey → Option Json) :
    List ConfigKey → Except Failure Settings
  | [] => .ok []
  | key :: rest =>
    match value? key with
    | none => .error .noSuchPart
    | some value => do
      let normal ← key.normalize value
      let others ← normalizeAll value? rest
      return (key, normal) :: others

/-- The configuration that values give; keys that are not checked may be left out. -/
def ofValues (value? : ConfigKey → Option Json) : Except Failure Config :=
  (normalizeAll value? ConfigKey.checked).map fun normal =>
    ⟨fun key =>
      match normal.lookup key with
      | some value => value
      | none => (value? key).getD .null⟩

/-- The configuration that members given directly make. -/
def direct (members : List (String × Json)) : Except Failure Config := do
  let settings ← settingsOf members
  ofValues fun key => settings.lookup key

/-- The defaults of an environment. All are looked up, whether they are needed or not. -/
def defaults (environment : Environment) : Except Failure Settings :=
  (Named.all : List ConfigKey).mapM fun key => (key.default environment).map fun value =>
    (key, value)

/-- The configuration of a document of settings, with the environment for the keys it leaves
out. -/
def ofDocument (environment : Environment) (document : Json) : Except Failure Config :=
  match document with
  | .obj members => do
    let settings ← settingsOf members
    let defaults ← defaults environment
    ofValues fun key =>
      match settings.lookup key with
      | some value => some value
      | none => defaults.lookup key
  | _ => .error .missingArgument

/-- The configuration with some values replaced. -/
def override (config : Config) (members : List (String × Json)) : Except Failure Config := do
  let settings ← settingsOf members
  ofValues fun key =>
    match settings.lookup key with
    | some value => some value
    | none => some (config.value key)

/-- The document of a configuration. -/
def document (config : Config) : Json :=
  .obj ((Named.all : List ConfigKey).map fun key => (Named.name key, config.value key))

/-- The time that a query may take, in seconds. -/
def timeout (config : Config) : Option Int :=
  match config.value .queryTimeout with
  | .int seconds => some seconds
  | _ => none

/-- The beginning of the names of staging tables. -/
def stagingNames (config : Config) : String :=
  if (config.value .stagingNames).isGiven then (config.value .stagingNames).shown
  else ConfigKey.usualStagingNames

end Config

end WarehouseImport
