import WarehouseImport.Failure.Decoding
import WarehouseImport.Json.Printer
import WarehouseImport.Session.Action

/-!
# The warehouse

Statements, loads and descriptions of tables, as actions. Every statement is written to the log
before it is sent. A job must end in the state that marks it as done. Nothing is remembered between
calls.
-/

namespace WarehouseImport

/-- A connection to the warehouse: the project of the tables, whether statements are only written to
the log, and the seconds a job may take. -/
structure Warehouse where
  project : String
  dryRun : Bool
  timeout : Option Int
  deriving Repr

namespace Warehouse

/-- The name of a table with its project. -/
def tableId (warehouse : Warehouse) (table : TableName) : String :=
  warehouse.project ++ "." ++ table.full

/-- Writes a line of a level of detail. -/
def log (line : String) (detail : Detail) : Action Unit := Action.log line (some detail) []

/-- Writes a statement and its parameters, which must have a text. -/
def logStatement (statement : Statement) (parameters : Parameters) (detail : Detail) :
    Action Unit := do
  log ("BigQuery SQL: " ++ statement.text) detail
  if parameters.document.isGiven then
    match parameters.document.print? with
    | some text => log ("Query parameters: " ++ text) detail
    | none => throw .unprintableDocument

/-- Follows a job to its end. -/
def finish (job : Job) : Action JobResult := do
  log ("BigQuery Job ID: " ++ job.id) Detail.full
  Action.pass job.seconds
  Action.settle job.outcome

/-- The state of a job that is done. -/
def doneState : String := "DONE"

/-- Sends a statement and waits until it is done. -/
def runStatement (warehouse : Warehouse) (statement : Statement) (parameters : Parameters) :
    Action JobResult := do
  let bindings ← Action.ofExcept parameters.bindings
  let job ← Action.settle (← Action.ask (.query statement bindings warehouse.timeout))
  let result ← finish job
  if result.state = doneState then return result else throw (.jobState result.state)

/-- Writes a statement to the log and runs it; gives the number of rows it affected. -/
def execute (warehouse : Warehouse) (statement : Statement) (parameters : Parameters) :
    Action Int := do
  logStatement statement parameters Detail.verbose
  if warehouse.dryRun then return 0
  let result ← warehouse.runStatement statement parameters
  return result.affected.getD 0

/-- Runs statements one after the other; gives the number of rows they affected. -/
def executeAll (warehouse : Warehouse) (parameters : Parameters) : List Statement → Action Int
  | [] => return 0
  | statement :: rest => do
    let affected ← warehouse.execute statement parameters
    let others ← warehouse.executeAll parameters rest
    return affected + others

/-- Runs a statement without parameters. -/
def run (warehouse : Warehouse) (statement : Statement) : Action Int :=
  warehouse.execute statement Parameters.none

/-- The first row that a query gives. Queries run even if statements are only written to the log. A
timed query has the time written that reading its rows takes; a job that is done has its rows ready,
so this is none. -/
def firstRow (warehouse : Warehouse) (statement : Statement) (parameters : Parameters)
    (timed : Bool) : Action (Option (List Json)) := do
  logStatement statement parameters Detail.full
  let result ← warehouse.runStatement statement parameters
  if timed then
    log ("Elapsed time: " ++ (Duration.ofWholeSeconds 0).shown) Detail.full
  return result.rows.head?

/-- Creates a defined table, which must have columns. -/
def createTable (warehouse : Warehouse) (definition : TableDefinition) : Action Int := do
  warehouse.run (← Action.ofExcept (Statement.create definition))

/-- Drops a table or view. If it may be missing, its absence is no failure. -/
def drop (warehouse : Warehouse) (kind : ObjectKind) (target : TableName) (mayMiss : Bool) :
    Action Int :=
  tryCatch (warehouse.run (.drop kind target false)) fun failure => do
    match failure with
    | .backend e =>
      if mayMiss && e.kind = .notFound then
        log "Ignoring NotFound exception" Detail.full
        return 0
      else throw failure
    | _ => throw failure

/-- The description of a table; none if there is no such table. -/
def reflect (table : TableName) : Action (Option ReflectedTable) := do
  match ← Action.ask (.reflect table) with
  | .ok described => return some described
  | .error (.refused e) => if e.kind = .notFound then return none else throw (.backend e)
  | .error fault => throw fault.failure

/-- Drops a table or view, whichever it is; a missing one is left alone. -/
def dropObject (warehouse : Warehouse) (target : TableName) : Action Int := do
  match ← reflect target with
  | none => return 0
  | some described => warehouse.drop (if described.isView then .view else .table) target true

/-- The definition of a table or view; none if there is no such object. -/
def definition (table : TableName) : Action (Option TableDefinition) := do
  match ← reflect table with
  | none => return none
  | some described =>
    let columns ← Action.ofExcept (described.fields.mapM SchemaField.column)
    some <$> Action.ofExcept (TableDefinition.make table columns described.primaryKeys false
      described.rows described.bytes)

/-- The number of rows of a table that exists. The rows of a view, and those of a table whose
description leaves their number out, are counted. -/
def rowCount (warehouse : Warehouse) (table : TableName) : Action Json := do
  match ← reflect table with
  | none => throw (.uncountable table.full)
  | some described =>
    match described.isView, described.rows with
    | false, some rows =>
      log ("BigQuery call: " ++ warehouse.tableId table ++ ".num_rows") Detail.full
      return .int rows
    | _, _ =>
      match ← warehouse.firstRow (.countRows table "") Parameters.none true with
      | some (count :: _) => return count
      | _ => return .int 0

/-- The numbers of rows and bytes of a table; zeros if it is missing. -/
def stats (table : TableName) : Action (Int × Int) := do
  match ← reflect table with
  | none => return (0, 0)
  | some described => return (described.rows.getD 0, described.bytes.getD 0)

/-- The failure of a load: data that the service refuses are reported with their message. -/
def loadFailure (failure : Failure) : Failure :=
  match failure with
  | .backend e =>
    if e.kind = .badRequest then
      match failure.directMessage with
      | .ok text => .inputData text
      | .error other => other
    else failure
  | failure => failure

/-- Loads files into a table; gives the number of rows. -/
def load (warehouse : Warehouse) (request : LoadRequest) : Action Int := do
  if request.uris.isEmpty then throw .missingArgument
  log ("BigQuery load: " ++ warehouse.tableId request.table ++ " <- " ++
    String.intercalate ", " request.uris) Detail.verbose
  if warehouse.dryRun then return 0
  let job ← Action.settle (← Action.ask (.load request warehouse.timeout))
  let result ← tryCatch (finish job) fun failure => throw (loadFailure failure)
  return result.affected.getD 0

end Warehouse

end WarehouseImport
