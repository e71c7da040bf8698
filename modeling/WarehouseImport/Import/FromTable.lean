import WarehouseImport.Import.Destination
import WarehouseImport.Import.Filling
import WarehouseImport.Import.Response
import WarehouseImport.Import.Staging
import WarehouseImport.Import.Writing

/-!
# Imports from a table

A view or a clone is made by one statement; a source that cannot be cloned is copied by a query.
Rows of a full import go straight into the destination when nothing has to be deduplicated or
stamped, and otherwise through a staging table, which is dropped however the import ends.
Incremental imports from a table are not supported.
-/

namespace WarehouseImport

namespace FromTable

/-- Runs a statement that creates an object, which must not exist. -/
def creating (action : Action Int) : Action Unit :=
  tryCatch (discard action) fun failure => throw failure.asConflict

/-- Makes the destination a view of the source. -/
def createView (warehouse : Warehouse) (source destination : TableName) : Action ImportResult := do
  creating (warehouse.run (.createView destination source))
  return {}

/-- The words of the service about a source that cannot be cloned. -/
def cloneRefusal : String := "Cannot clone tables"

/-- Whether a failure says that the source cannot be cloned. -/
def isCloneRefusal (failure : Failure) : Bool :=
  match failure with
  | .backend e => e.kind == .badRequest && Failure.mentions e.message cloneRefusal
  | _ => false

/-- Clones the source; gives whether that was possible. -/
def tryClone (warehouse : Warehouse) (source destination : TableName) : Action Bool :=
  tryCatch (do
    let _ ← warehouse.run (.cloneTable destination source)
    return true) fun failure => do
    if isCloneRefusal failure then
      Action.notice ("Clone of " ++ source.full ++ " not possible, copying with CTAS")
        (some Detail.verbose)
      return false
    else throw failure.asConflict

/-- Makes the destination a copy of the source by a query, and gives what was copied. -/
def copyByQuery (warehouse : Warehouse) (source destination : TableName) :
    Action ImportResult := do
  creating (warehouse.run (.createTableAs destination source))
  let definition ← Warehouse.definition destination
  let rows ← warehouse.rowCount destination
  return { rows := rows, columns := (definition.map TableDefinition.columnNames).getD [] }

/-- Makes the destination a clone of the source, or a copy if it cannot be cloned. -/
def clone (warehouse : Warehouse) (source destination : TableName) : Action ImportResult := do
  if ← tryClone warehouse source destination then return {}
  else copyByQuery warehouse source destination

/-- The mappings of the staging table: those of the command, or the selected columns under their
own names. -/
def stagingMappings (command : TableCommand) (context : SourceContext) : List ColumnMapping :=
  if command.source.mappings.isEmpty then context.selected.map ColumnMapping.same
  else command.source.mappings

/-- Inserts the rows of the source into the destination. -/
def insertDirectly (warehouse : Warehouse) (context : SourceContext)
    (destination : TableDefinition) (expected : ColumnCollection) (options : TransferOptions) :
    Action ImportResult := do
  Action.beginImport destination.name.table
  Filling.insert warehouse context.source destination.name.label expected.names options
  return { timers := (← Action.progress).finished }

/-- Whether the staging table can be made as a copy of the source. -/
def canCopy (context : SourceContext) (staging : TableDefinition) : Bool :=
  context.source.isDirect &&
    sameColumns context.effective.columns.columns staging.columns.columns [timestampColumn]

/-- Fills the staging table and writes the destination. -/
def stageAndWrite (warehouse : Warehouse) (context : SourceContext)
    (staging destination : TableDefinition) (options : TransferOptions) :
    Action ImportResult := do
  if canCopy context staging then Filling.copy warehouse context.source staging
  else
    let _ ← warehouse.createTable staging
    Filling.stage warehouse context.source staging options
  Writing.finish warehouse .replace staging destination options

/-- Moves the rows of the source to the destination through a staging table. -/
def importStaged (warehouse : Warehouse) (beginning : String) (command : TableCommand)
    (context : SourceContext) (destination : TableDefinition) (options : TransferOptions) :
    Action ImportResult := do
  let mappings := stagingMappings command context
  let layout ← Action.ofExcept (Staging.Layout.ofMappings destination mappings)
  let staging ← layout.defineNew destination beginning
  Action.beginImport staging.name.table
  Action.afterwards (stageAndWrite warehouse context staging destination options)
    (Staging.remove warehouse staging.name)

/-- Whether rows go straight into the destination. -/
def isDirect (command : TableCommand) (options : TransferOptions) : Bool :=
  command.options.importType == .full && command.options.dedupType == .insertDuplicates &&
    !options.stamped

/-- What the failure of moving rows is reported as. -/
def reportedAs (failure : Failure) : Failure :=
  match failure with
  | .backend _ =>
    match failure.asBadFilter? with
    | some bad => bad
    | none =>
      match failure.asOverflow with
      | .ok other => other
      | .error other => other
  | .inputData text => .invalidImport text
  | failure => failure

/-- The destination with the keys that the command gives for the import. -/
def keyed (options : ImportOptions) (destination : TableDefinition) :
    Except Failure TableDefinition :=
  if options.dedupType = .updateDuplicates ∧ options.dedupColumns ≠ [] then
    destination.withPrimaryKeys options.dedupColumns
  else .ok destination

/-- Moves the rows of the source to the destination. -/
def moveRows (warehouse : Warehouse) (beginning : String) (command : TableCommand)
    (context : SourceContext) (destination : TableDefinition) (expected : ColumnCollection)
    (options : TransferOptions) : Action ImportResult := do
  let destination ← Action.ofExcept (keyed command.options destination)
  tryCatch (
    if isDirect command options then
      insertDirectly warehouse context destination expected options
    else importStaged warehouse beginning command context destination options)
    fun failure => throw (reportedAs failure)

/-- Refuses an incremental import, after the checks that it would make. -/
def refuseIncremental (command : TableCommand) (context : SourceContext)
    (expected : ColumnCollection) (existing : Option TableDefinition) : Except Failure Unit :=
  match existing with
  | some destination =>
    if command.options.dedupType = .updateDuplicates then
      match Reconciliation.check destination expected.columns context.full with
      | .ok _ => .error .incrementalFromTable
      | .error failure => .error failure
    else .error .incrementalFromTable
  | none => .error .incrementalFromTable

/-- A full import into a destination that exists or is created. -/
def importRows (warehouse : Warehouse) (beginning : String) (command : TableCommand)
    (context : SourceContext) (expected : ColumnCollection)
    (existing : Option TableDefinition) (options : TransferOptions) : Action ImportResult := do
  let label := command.destination.label
  if existing.isNone || command.options.dedupType == .updateDuplicates then
    Action.ofExcept (Destination.checkKeys label command.options.dedupColumns
      ((existing.map TableDefinition.columns).getD expected))
  let destination ←
    Destination.resolve warehouse label command.options expected options.stamped existing
  moveRows warehouse beginning command context destination expected options

/-- The line about an import. -/
def openingLine (command : TableCommand) : String :=
  "Import " ++ command.source.label.joined ++ " into " ++ command.destination.label.joined ++
    " (" ++ Named.name command.options.importType ++ ")"

/-- What the command's import type asks for, once source and destination are known. -/
def perform (warehouse : Warehouse) (beginning : String) (command : TableCommand)
    (context : SourceContext) (expected : ColumnCollection)
    (existing : Option TableDefinition) (options : TransferOptions) : Action ImportResult :=
  match command.options.importType with
  | .incremental => do
    Action.ofExcept (refuseIncremental command context expected existing)
    return {}
  | .view => Action.step "createView" false do
      createView warehouse (← Action.ofExcept command.source.label.check)
        (← Action.ofExcept command.destination.label.check)
  | .clone => Action.step "cloneTable" false do
      clone warehouse (← Action.ofExcept command.source.label.check)
        (← Action.ofExcept command.destination.label.check)
  | .full => importRows warehouse beginning command context expected existing options

/-- Imports a table. -/
def run (warehouse : Warehouse) (beginning : String) (command : TableCommand)
    (features : List String) : Action ImportResponse := do
  let options := TransferOptions.ofImport command.options features
  Action.say (openingLine command)
  let context ← Action.step "resolveSource" false (SourceContext.resolve command.source.request)
  let expected ← Action.ofExcept
    (ColumnMapping.expected context.effective command.source.mappings)
  let found ← Warehouse.lookUp command.destination.label
  let existing ←
    Destination.applyCreateMode warehouse command.destination.label command.options found
  let result ← perform warehouse beginning command context expected existing options
  ImportResponse.build (← Action.ofExcept command.destination.label.check) result

end FromTable

end WarehouseImport
