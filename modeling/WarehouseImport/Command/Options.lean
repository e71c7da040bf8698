import WarehouseImport.Json.Lenient
import WarehouseImport.Payload.Checked
import WarehouseImport.Sql.Filter
import WarehouseImport.Text.Summary

/-!
# Import options

The options of a command: how rows are written, what becomes of duplicates, whether the
destination is created, and how columns are typed. `ImportOptions.ofDocument` reads them from a
payload and `ImportOptions.document` writes them back.
-/

namespace WarehouseImport

/-- How the rows of a source reach the destination. -/
inductive ImportType where
  | full
  | incremental
  | view
  | clone
  deriving DecidableEq, Repr

instance : Named ImportType where
  all := [.full, .incremental, .view, .clone]
  name
    | .full => "FULL"
    | .incremental => "INCREMENTAL"
    | .view => "VIEW"
    | .clone => "CLONE"

/-- Whether an import creates its destination with a statement of its own. -/
def ImportType.createsDestination : ImportType → Bool
  | .view | .clone => true
  | _ => false

/-- What becomes of rows that share a key. -/
inductive DedupType where
  | insertDuplicates
  | updateDuplicates
  deriving DecidableEq, Repr

instance : Named DedupType where
  all := [.insertDuplicates, .updateDuplicates]
  name
    | .insertDuplicates => "INSERT_DUPLICATES"
    | .updateDuplicates => "UPDATE_DUPLICATES"

/-- Whether a destination must be new, or may be replaced. -/
inductive CreateMode where
  | create
  | replace
  deriving DecidableEq, Repr

instance : Named CreateMode where
  all := [.create, .replace]
  name
    | .create => "CREATE"
    | .replace => "REPLACE"

/-- Whether staged columns are texts or have the types of the destination. -/
inductive ImportStrategy where
  | userDefinedTable
  | stringTable
  deriving DecidableEq, Repr

instance : Named ImportStrategy where
  all := [.userDefinedTable, .stringTable]
  name
    | .userDefinedTable => "USER_DEFINED_TABLE"
    | .stringTable => "STRING_TABLE"

/-- Where the time of an import comes from. -/
inductive TimestampMode where
  | currentTime
  | fromSource
  | none
  deriving DecidableEq, Repr

instance : Named TimestampMode where
  all := [.currentTime, .fromSource, .none]
  name
    | .currentTime => "CURRENT_TIME"
    | .fromSource => "FROM_SOURCE"
    | .none => "NONE"

/-- The options of a command. Without a create mode rows go into a destination that exists or is
created on the way. -/
structure ImportOptions where
  importType : ImportType := .full
  dedupType : DedupType := .insertDuplicates
  dedupColumns : List String := []
  emptyToNull : List String := []
  ignoredLines : Int := 0
  timestampColumn : Option String := none
  timestampMode : TimestampMode := .currentTime
  createMode : Option CreateMode := none
  strategy : ImportStrategy := .userDefinedTable
  nullMarkers : List String := []
  deriving DecidableEq, Repr

namespace ImportOptions

open Payload

/-- The options of a payload. -/
def ofDocument : Json → Checked ImportOptions := model fun document =>
  ImportOptions.mk
    <$> optional document "import_type" .full named
    <*> optional document "dedup_type" .insertDuplicates named
    <*> optional document "dedup_columns_names" [] (list text)
    <*> optional document "convert_empty_values_to_null_on_columns" [] (list text)
    <*> optional document "number_of_ignored_lines" 0 whole
    <*> optional document "timestamp_column" none (nullable text)
    <*> optional document "timestamp_mode" .currentTime named
    <*> optional document "create_mode" none (nullable named)
    <*> optional document "import_strategy" .userDefinedTable named
    <*> optional document "import_as_null" [] (list text)

/-- The payload of options. -/
def document (options : ImportOptions) : Json := object {
  members := [
    ("import_type", .str (Named.name options.importType)),
    ("dedup_type", .str (Named.name options.dedupType)),
    ("dedup_columns_names", Json.ofTexts options.dedupColumns),
    ("convert_empty_values_to_null_on_columns", Json.ofTexts options.emptyToNull),
    ("number_of_ignored_lines", .int options.ignoredLines),
    ("timestamp_column", Json.ofText? options.timestampColumn),
    ("timestamp_mode", .str (Named.name options.timestampMode)),
    ("create_mode", Json.ofText? (options.createMode.map Named.name)),
    ("import_strategy", .str (Named.name options.strategy)),
    ("import_as_null", Json.ofTexts options.nullMarkers)] }

end ImportOptions

/-- Whether staged columns are texts or have the types of the destination. -/
inductive Typing where
  | text
  | user
  deriving DecidableEq, Repr

instance : Named Typing where
  all := [.text, .user]
  name
    | .text => "string"
    | .user => "user"

/-- What the staging and final steps of an import need to know. -/
structure TransferOptions where
  emptyToNull : List String := []
  incremental : Bool := false
  stamped : Bool := false
  ignoredLines : Int := 0
  typing : Typing := .text
  session : Option String := none
  nullMarkers : List String := []
  features : List String := []
  timestampMode : TimestampMode := .currentTime
  deriving DecidableEq, Repr

/-- The options of a command before its strategy and timestamp mode are known to exist. -/
structure RawImportOptions where
  importType : Json
  emptyToNull : List String
  ignoredLines : Int
  timestampColumn : Option String
  timestampMode : Json
  strategy : Json
  nullMarkers : List String

namespace TransferOptions

/-- Whether a feature is switched on. -/
def allows (options : TransferOptions) (feature : String) : Bool :=
  options.features.contains feature

/-- The options that a command's options and features give; an unknown strategy is refused before
an unknown timestamp mode. -/
def ofRaw (raw : RawImportOptions) (features : List String) : Except Failure TransferOptions := do
  let typing : Typing ←
    match raw.strategy.asText?.bind Named.ofName? with
    | some ImportStrategy.stringTable => .ok .text
    | some ImportStrategy.userDefinedTable => .ok .user
    | none => .error (.unknownStrategy raw.strategy.shown)
  let mode : TimestampMode ←
    match raw.timestampMode.asText?.bind Named.ofName? with
    | some mode => .ok mode
    | none => .error (.unknownTimestampMode raw.timestampMode.shown)
  return {
    emptyToNull := raw.emptyToNull
    incremental := raw.importType.asText? == some "INCREMENTAL"
    stamped := raw.timestampColumn == some timestampColumn
    ignoredLines := raw.ignoredLines
    typing := typing
    nullMarkers := raw.nullMarkers
    features := features
    timestampMode := mode }

/-- The options that a command's checked options and features give. -/
def ofImport (options : ImportOptions) (features : List String) : TransferOptions where
  emptyToNull := options.emptyToNull
  incremental := options.importType == .incremental
  stamped := options.timestampColumn == some timestampColumn
  ignoredLines := options.ignoredLines
  typing :=
    match options.strategy with
    | .stringTable => .text
    | .userDefinedTable => .user
  nullMarkers := options.nullMarkers
  features := features
  timestampMode := options.timestampMode

/-- The one-line summary of the options, with the given words for the timestamp mode. -/
def shownWith (options : TransferOptions) (mode : String) : String :=
  Text.summary [
    ("convert_empty_values_to_null", Text.quotedList options.emptyToNull),
    ("features", Text.quotedList options.features),
    ("import_as_null", Text.quotedList options.nullMarkers),
    ("is_incremental", Json.shownFlag options.incremental),
    ("number_of_ignored_lines", toString options.ignoredLines),
    ("session_id", (Json.ofText? options.session).shown),
    ("timestamp_mode", mode),
    ("use_timestamp", Json.shownFlag options.stamped),
    ("using_types", Named.name options.typing)]

/-- The one-line summary of the options. -/
def shown (options : TransferOptions) : String :=
  options.shownWith ("TimestampMode." ++ Named.name options.timestampMode)

end TransferOptions

end WarehouseImport
