import WarehouseImport.Warehouse.Client

/-!
# Calls as documents

What a program asks of the outside, as a record of its calls. The time that a job may take is part
of the record once the job was followed.
-/

namespace WarehouseImport

/-- The document of the settings of queries; null if there are none. -/
def QuerySettings.document : Option QuerySettings → Json
  | none => .null
  | some settings => .obj [
      ("labels", .obj (settings.labels.map fun label => (label.1, .str label.2))),
      ("maximumBytesBilled", Json.ofText? settings.byteLimit),
      ("useQueryCache", settings.cache.getD .null)]

/-- The document of what a client is made of. -/
def ClientRequest.document (request : ClientRequest) : Json := .obj [
  ("info", .obj request.account),
  ("scopes", Json.ofTexts Client.scopes),
  ("project", request.project),
  ("location", request.location),
  ("job_config", QuerySettings.document request.settings)]

/-- A parameter as sent: its name, whether it is one value or a list, its type and its value. -/
def Binding.sent (binding : Binding) : Json :=
  let shape :=
    match binding.value with
    | .one _ => "scalar"
    | .many _ => "array"
  .arr [.str binding.name, .str shape, .str binding.type, binding.value.document]

/-- The record of a description that was asked for. -/
def Call.reflectRecord (id : String) : List (String × Json) :=
  [("call", .str "get_table"), ("id", .str id)]

/-- The record of a statement. All of them run in the same time zone. -/
def Call.queryRecord (statement : Statement) (bindings : List Binding) : List (String × Json) := [
  ("call", .str "query"),
  ("sql", .str statement.text),
  ("params", .arr (bindings.map Binding.sent)),
  ("connection", .arr [Json.ofTexts ["time_zone", "UTC"]])]

/-- The record of a load. Quoted values may hold line ends, and rows are put behind those there. -/
def LoadRequest.record (request : LoadRequest) (id : String) : List (String × Json) := [
  ("call", .str "load"),
  ("uris", Json.ofTexts request.uris),
  ("id", .str id),
  ("format", .str "CSV"),
  ("delimiter", .str request.delimiter),
  ("quote", .str request.quoteMark),
  ("skip", .int request.skippedLines),
  ("newlines", .bool true),
  ("write", .str "WRITE_APPEND"),
  ("null_marker", Json.ofText? request.nullMarker)]

end WarehouseImport
