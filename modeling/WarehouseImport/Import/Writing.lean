import WarehouseImport.Command.Options
import WarehouseImport.Sql.Statement
import WarehouseImport.Warehouse.Basic

/-!
# Writing the destination

Staged rows are written to the destination in one statement: they replace its contents in a
transaction, or are added to them. If the destination has keys among the staged columns, one row for
each key is first kept in a table of its own, which is dropped afterwards.
-/

namespace WarehouseImport

open WarehouseImport.Text

/-- How staged rows are written. An undecided way writes nothing. -/
inductive WriteMode where
  | replace
  | append (dedup : DedupType)
  | undecided
  deriving DecidableEq, Repr

namespace Writing

/-- The timer of the table of keys. -/
def dedupTimer : String := "dedup"

/-- The timer of the statement that writes the destination. -/
def writeTimer : String := "copyFromStagingToTarget"

/-- What the name of the table of keys ends with. -/
def dedupEnding : String := "_dedup"

/-- The staged columns, without the time column. -/
def stagedColumns (staging : TableDefinition) : List String :=
  staging.columnNames.filter fun name => lower name != timestampColumn

/-- The keys of the destination among the staged columns. -/
def keys (staging destination : TableDefinition) : List String :=
  destination.primaryKeys.filter staging.columns.contains

/-- The insertion of staged rows from a table beside the destination. -/
def insertion (staging destination : TableDefinition) (options : TransferOptions)
    (source : String) : StagedInsert where
  target := destination.name
  source := source
  columns := stagedColumns staging
  emptyToNull := if options.typing = .text then options.emptyToNull else []
  stamped := options.stamped

/-- The statement that writes the destination. -/
def statement (mode : WriteMode) (insert : StagedInsert) : Except Failure Statement :=
  match mode with
  | .replace => .ok (.replaceContents insert)
  | .append _ => .ok (.insertStaged insert)
  | .undecided => .error .abstractOperation

/-- Fails if rows would have to be updated in place. -/
def checkSupported (mode : WriteMode) (destination : TableDefinition) : Except Failure Unit :=
  match mode with
  | .append .updateDuplicates =>
    if destination.primaryKeys.isEmpty then .ok ()
    else .error (.incrementalUpdate destination.primaryKeys)
  | _ => .ok ()

/-- The copy that keeps one staged row for each key. -/
def keyedCopy (staging destination : TableDefinition) : KeyedCopy where
  target := staging.name.sibling (staging.name.table ++ dedupEnding)
  source := staging.name.table
  columns := stagedColumns staging
  keys := keys staging destination

/-- Makes the table of keys and gives its name. -/
def deduplicate (warehouse : Warehouse) (staging destination : TableDefinition) :
    Action TableName := do
  let copy := keyedCopy staging destination
  let _ ← Action.timed dedupTimer do
    warehouse.run (← Action.ofExcept (Statement.keyedCopy copy))
  return copy.target

/-- Writes the destination from a table beside it. -/
def writeFrom (warehouse : Warehouse) (mode : WriteMode) (staging destination : TableDefinition)
    (options : TransferOptions) (source : String) : Action Unit := do
  let _ ← Action.timed writeTimer do
    warehouse.run (← Action.ofExcept
      (statement mode (insertion staging destination options source)))

/-- Writes the destination from the staging table, or from the table of keys, which is dropped
whether the writing fails or not. -/
def write (warehouse : Warehouse) (mode : WriteMode) (staging destination : TableDefinition)
    (options : TransferOptions) : Action Unit :=
  if (keys staging destination).isEmpty then
    writeFrom warehouse mode staging destination options staging.name.table
  else do
    let kept ← deduplicate warehouse staging destination
    Action.afterwards (writeFrom warehouse mode staging destination options kept.table) do
      let _ ← warehouse.drop .table kept true

/-- Moves staged rows to the destination and gives the result of the import. -/
def finish (warehouse : Warehouse) (mode : WriteMode) (staging destination : TableDefinition)
    (options : TransferOptions) : Action ImportResult := do
  Action.ofExcept (checkSupported mode destination)
  write warehouse mode staging destination options
  Action.setColumns (stagedColumns staging)
  return (← Action.progress).result

end Writing

end WarehouseImport
