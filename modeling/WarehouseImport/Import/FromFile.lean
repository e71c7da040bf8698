import WarehouseImport.Import.Destination
import WarehouseImport.Import.Filling
import WarehouseImport.Import.Response
import WarehouseImport.Import.Staging
import WarehouseImport.Import.Writing
import WarehouseImport.Warehouse.Client

/-!
# Imports from files

Files are loaded into a staging table, and from there their rows replace the contents of a
destination that exists, or are added to them. The staging table is dropped however the import
ends.
-/

namespace WarehouseImport

namespace FromFile

/-- The destination with the keys that the command gives for the import, which must be columns. -/
def keyed (command : FileCommand) (destination : TableDefinition) :
    Except Failure TableDefinition :=
  if command.options.dedupType = .updateDuplicates ∧ command.options.dedupColumns ≠ [] then do
    Destination.checkKeys command.destination.label command.options.dedupColumns
      destination.columns
    destination.withPrimaryKeys command.options.dedupColumns
  else .ok destination

/-- How the rows of a command are written. -/
def mode (command : FileCommand) (options : TransferOptions) : WriteMode :=
  if options.incremental then .append command.options.dedupType else .replace

/-- The token that opens a manifest: the account, which other files do not need. -/
def token (command : FileCommand) (credentials : Credentials) : Except Failure (Option Json) :=
  if command.csv.sourceType = .slicedFile then
    credentials.account.map fun account => some (.obj account)
  else .ok none

/-- Creates and fills the staging table and writes the destination. -/
def loadAndWrite (warehouse : Warehouse) (command : FileCommand) (mode : WriteMode)
    (staging destination : TableDefinition) (options : TransferOptions) (token : Option Json) :
    Action ImportResult := do
  let _ ← warehouse.createTable staging
  Filling.load warehouse command.path command.csv staging options token
  Writing.finish warehouse mode staging destination options

/-- What the failure of loading and writing is reported as. -/
def reportedAs (failure : Failure) : Failure :=
  match failure with
  | .inputData text => .invalidImport text
  | failure => failure

/-- Moves the rows of the files to the destination. -/
def moveRows (warehouse : Warehouse) (beginning : String) (credentials : Credentials)
    (command : FileCommand) (destination : TableDefinition) (options : TransferOptions) :
    Action ImportResult := do
  let mode := mode command options
  Action.ofExcept (Writing.checkSupported mode destination)
  let layout ← Action.ofExcept (Staging.Layout.ofNames destination command.csv.columns)
  let staging ← layout.defineNew destination beginning
  Action.beginImport staging.name.table
  let token ← Action.ofExcept (token command credentials)
  Action.afterwards
    (tryCatch (loadAndWrite warehouse command mode staging destination options token)
      fun failure => throw (reportedAs failure))
    (Staging.remove warehouse staging.name)

/-- The line about an import. -/
def openingLine (command : FileCommand) : String :=
  "Import " ++ command.path.uri ++ " into " ++ command.destination.label.joined

/-- Imports files. -/
def run (warehouse : Warehouse) (beginning : String) (credentials : Credentials)
    (command : FileCommand) : Action ImportResponse := do
  if command.csv.sourceType = .directory then throw .directorySource
  let options := TransferOptions.ofImport command.options []
  Action.say (openingLine command)
  let target ← Action.ofExcept command.destination.label.check
  match ← Warehouse.definition target with
  | none => throw (.tableNotFound command.destination.label)
  | some found =>
    let destination ← Action.ofExcept (keyed command found)
    let result ← moveRows warehouse beginning credentials command destination options
    ImportResponse.build target result

end FromFile

end WarehouseImport
