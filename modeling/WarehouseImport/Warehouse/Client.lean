import WarehouseImport.Command.Session
import WarehouseImport.Config.Basic
import WarehouseImport.Json.Reader
import WarehouseImport.Warehouse.Basic

/-!
# Clients

A client works with the account of the credentials and with the settings of the configuration.
Every job carries labels: the tags of the run and its number, in the characters that labels may
have.
-/

namespace WarehouseImport

open WarehouseImport.Text

namespace Client

/-- The scope that a client works in. -/
def scopes : List String := ["https://www.googleapis.com/auth/cloud-platform"]

/-- The label that holds the number of a run. -/
def runLabel : String := "run_id"

/-- The greatest length of a label. -/
def labelLimit : Nat := 63

/-- Whether a character may stand in a label. -/
def isLabelChar (c : Char) : Bool :=
  ('a' ≤ c && c ≤ 'z') || ('0' ≤ c && c ≤ '9') || c == '_' || c == '-'

/-- A value as a label: its text in lower case, other characters replaced, and cut. -/
def labelText (value : Json) : String :=
  let characters := (lower value.shown).toList.map fun c => if isLabelChar c then c else '_'
  String.ofList (characters.take labelLimit)

/-- The labels of the tags and the number of a run. -/
def labels (run : Json) (tags : List (String × Json)) : List (String × String) :=
  let tagged := tags.foldl (fun labels tag =>
    Keyed.assign (labelText (.str tag.1)) (labelText tag.2) labels) []
  if run.isGiven then Keyed.assign runLabel (labelText run) tagged else tagged

/-- The settings of queries with one more session parameter. -/
def addParameter (settings : QuerySettings) (name : String) (value : Json) :
    Except Failure QuerySettings :=
  match lower name with
  | "maximum_bytes_billed" => .ok { settings with byteLimit := value.present?.map Json.shown }
  | "use_query_cache" => .ok { settings with cache := some value }
  | other => .error (.parameterNotPermitted other ConfigKey.sessionParameterNames)

/-- The settings that session parameters and labels give; none if there is nothing to set. -/
def settings (parameters : Json) (run : Json) (tags : List (String × Json)) :
    Except Failure (Option QuerySettings) :=
  let labels := labels run tags
  if !parameters.isGiven && labels.isEmpty then .ok none
  else if !parameters.isGiven then .ok (some ⟨labels, none, none⟩)
  else
    match parameters with
    | .obj members =>
      (members.foldlM (fun settings member => addParameter settings member.1 member.2)
        (⟨labels, none, none⟩ : QuerySettings)).map some
    | _ => .error .noSuchPart

/-- The account that a principal and a key describe. -/
def account (principal key : Json) : Except Failure (List (String × Json)) :=
  match principal.asText?.bind Json.read? with
  | none => .error .principalNotJson
  | some (.obj members) =>
    .ok (if key.isGiven then Keyed.assign "private_key" key members else members)
  | some _ => .error .principalNotObject

/-- What a client is made of: the project of the configuration or else of the account, and the
location of the credentials or else of the configuration. -/
def request (principal key region : Json) (project location parameters : Json) (run : Json)
    (tags : List (String × Json)) : Except Failure ClientRequest := do
  let account ← account principal key
  let settings ← settings parameters run tags
  return {
    account := account
    project := if project.isGiven then project else (account.lookup "project_id").getD .null
    location := if region.isGiven then region else location
    settings := settings }

end Client

/-- The account of credentials. -/
def Credentials.account (credentials : Credentials) : Except Failure (List (String × Json)) :=
  Client.account (.str credentials.principal) (.str credentials.secret)

/-- Connects to the warehouse for a run. -/
def Warehouse.connect (credentials : Credentials) (config : Config) (options : RuntimeOptions) :
    Action Warehouse := do
  let request ← Action.ofExcept (Client.request (.str credentials.principal)
    (.str credentials.secret) (Json.ofText? credentials.region) (config.value .project)
    (config.value .location) (config.value .sessionParameters) (Json.ofText? options.runId)
    (options.queryTags.map fun tag => (tag.1, .str tag.2)))
  let project ← Action.ask (.connect request)
  return ⟨project, false, config.timeout⟩

end WarehouseImport
