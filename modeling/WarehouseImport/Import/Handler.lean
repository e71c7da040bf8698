import WarehouseImport.Import.FromFile
import WarehouseImport.Import.FromTable

/-!
# Handlers

A handler runs commands of one kind under a configuration. Each run has its log file, if the
configuration asks for one, connects on its own, and ends with the times of its steps and the
messages that were kept.
-/

namespace WarehouseImport

/-- A command of either kind. -/
inductive ImportCommand where
  | table (command : TableCommand)
  | files (command : FileCommand)

/-- The kind of commands that a handler runs. An open handler runs none. -/
inductive Handler where
  | tables
  | files
  | openKind
  deriving DecidableEq, Repr

namespace Handler

/-- What the names of the handler's log files begin with. -/
def logBeginning : Handler → String
  | tables => "import_table_from_table"
  | files => "import_table_from_file"
  | openKind => "import_table"

/-- Runs a command, which must be of the handler's kind. -/
def perform (handler : Handler) (warehouse : Warehouse) (config : Config)
    (credentials : Credentials) (command : ImportCommand) (features : List String) :
    Action ImportResponse :=
  match handler, command with
  | tables, .table command => FromTable.run warehouse config.stagingNames command features
  | files, .files command => FromFile.run warehouse config.stagingNames credentials command
  | openKind, _ => throw .abstractOperation
  | _, _ => throw .missingArgument

/-- Runs a command with everything around it that is written to the log. -/
def report (handler : Handler) (config : Config) (credentials : Credentials)
    (command : ImportCommand) (features : List String) (options : RuntimeOptions) :
    Action ImportResponse := do
  let warehouse ← Warehouse.connect credentials config options
  let response ← handler.perform warehouse config credentials command features
  Action.logSteps 10 (some Detail.full)
  Action.logMessages
  return response

/-- Opens a log file if the configuration names a directory for it. -/
def openLog (handler : Handler) (config : Config) : Action Unit := do
  if (config.value .logPath).isGiven then
    Action.update fun session =>
      session.openLog (config.value .logPath).shown handler.logBeginning

/-- Runs a command with its log file, which is closed however the run ends. -/
def run (handler : Handler) (config : Config) (credentials : Credentials)
    (command : ImportCommand) (features : List String) (options : RuntimeOptions) :
    Action ImportResponse := do
  handler.openLog config
  Action.afterwards (handler.report config credentials command features options)
    (modify Session.closeLog)

end Handler

end WarehouseImport
