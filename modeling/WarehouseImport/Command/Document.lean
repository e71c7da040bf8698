import WarehouseImport.Command.Options

/-!
# Transfer options as documents

The options of the staging and final steps, given one by one instead of through a command.
-/

namespace WarehouseImport

namespace TransferOptions

/-- How staged columns are typed; texts if nothing is said. An unknown name is refused. -/
def typingOf (document : Json) : Except Failure Typing :=
  match document.get? "using_types" with
  | none => .ok .text
  | some name =>
    match name.asText?.bind Named.ofName? with
    | some typing => .ok typing
    | none => .error .missingArgument

/-- The options that a document gives. A timestamp mode of an unknown name counts as the usual
one. -/
def ofDocument (document : Json) : Except Failure TransferOptions := do
  let typing ← typingOf document
  return {
    emptyToNull := document["convert_empty_values_to_null"].texts
    incremental := document["is_incremental"].isGiven
    stamped := document["use_timestamp"].isGiven
    ignoredLines := document["number_of_ignored_lines"].integer
    typing := typing
    session := document["session_id"].asText?
    nullMarkers := document["import_as_null"].texts
    features := document["features"].texts
    timestampMode := (document["timestamp_mode"].asText?.bind Named.ofName?).getD .currentTime }

/-- The members of the document of options. -/
def members (options : TransferOptions) : List (String × Json) := [
  ("convert_empty_values_to_null", Json.ofTexts options.emptyToNull),
  ("is_incremental", .bool options.incremental),
  ("use_timestamp", .bool options.stamped),
  ("number_of_ignored_lines", .int options.ignoredLines),
  ("using_types", .str (Named.name options.typing)),
  ("session_id", Json.ofText? options.session),
  ("import_as_null", Json.ofTexts options.nullMarkers),
  ("features", Json.ofTexts options.features),
  ("timestamp_mode", .str (Named.name options.timestampMode))]

end TransferOptions

/-- The options of a command that are not checked. -/
def RawImportOptions.ofDocument (document : Json) : RawImportOptions where
  importType := document["import_type"]
  emptyToNull := document["convert_empty_values_to_null_on_columns"].texts
  ignoredLines := document["number_of_ignored_lines"].integer
  timestampColumn := document["timestamp_column"].asText?
  timestampMode := document["timestamp_mode"]
  strategy := document["import_strategy"]
  nullMarkers := document["import_as_null"].texts

end WarehouseImport
