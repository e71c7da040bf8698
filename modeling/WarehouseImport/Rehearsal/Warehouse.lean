import WarehouseImport.Import.Destination
import WarehouseImport.Rehearsal.Stage

/-!
# Rehearsals of calls

Steps that talk to the warehouse, and steps that prepare a destination. A step is a list of its name
and its arguments.
-/

namespace WarehouseImport.Rehearsal

open WarehouseImport

/-- The statements that a text or a list of texts stands for; there must be some. -/
def statementsOf (document : Json) : Except Failure (List Statement) :=
  match document with
  | .str text => if text.isEmpty then .error .missingArgument else .ok [.verbatim text]
  | .arr (first :: rest) => .ok ((first :: rest).map fun text => .verbatim text.text)
  | _ => .error .missingArgument

/-- The load of addresses into a table, with options. -/
def loadRequest (table : TableName) (uris options : Json) : LoadRequest where
  table := table
  uris := uris.texts
  delimiter := ((options.get? "field_delimiter").map Json.text).getD ","
  quoteMark := ((options.get? "quote_character").map Json.text).getD "\""
  skippedLines := options["skip_leading_rows"].integer
  nullMarker := options["null_marker"].asText?

/-- A step that sends statements. -/
def statementAction (warehouse : Warehouse) (step : Json) : Action Json := do
  match step[0].text with
  | "ddl" =>
    let statements ← Action.ofExcept (statementsOf step[1])
    return .int (← warehouse.executeAll Parameters.none statements)
  | "dml" =>
    let parameters ← Action.ofExcept (Parameters.ofTriples step[2])
    let statements ← Action.ofExcept (statementsOf step[1])
    return .int (← warehouse.executeAll parameters statements)
  | "fetch_one" =>
    let parameters ← Action.ofExcept (Parameters.ofTriples step[2])
    if step[1].text.isEmpty then throw .missingArgument
    let row ← warehouse.firstRow (.verbatim step[1].text) parameters step[3].isGiven
    return (row.map Json.arr).getD .null
  | _ =>
    match ← Action.ofExcept (TableDefinition.ofDocument? step[1]) with
    | some definition => return .int (← warehouse.createTable definition)
    | none => throw .missingArgument

/-- A step about one table, whose name must be complete. -/
def tableAction (warehouse : Warehouse) (step : Json) : Action Json := do
  let target ← Action.ofExcept (TableLabel.ofParts step[1] step[2]).check
  let mayMiss := (step.items[3]?.map Json.isGiven).getD true
  match step[0].text with
  | "drop_table" => return .int (← warehouse.drop .table target mayMiss)
  | "drop_view" => return .int (← warehouse.drop .view target mayMiss)
  | "drop_object" => return .int (← warehouse.dropObject target)
  | "definition" => return TableDefinition.documentOf (← Warehouse.definition target)
  | "row_count" => warehouse.rowCount target
  | "stats" =>
    let (rows, bytes) ← Warehouse.stats target
    return .arr [.int rows, .int bytes]
  | _ => return .int (← warehouse.load (loadRequest target step[3] step[4]))

/-- A step that talks to the warehouse, with its calls and the text on the terminal beside its
answer. -/
def warehouseStep (warehouse : Warehouse) (step : Json) : StateM Stage Answer := do
  let sendsStatements := ["ddl", "dml", "fetch_one", "create_table"].contains step[0].text
  let answer ← Stage.answer
    (if sendsStatements then statementAction warehouse step else tableAction warehouse step)
  return { answer with beside := answer.beside ++ [("stdout", ← Stage.takeOutput)] }

/-- A step that prepares a destination. -/
def destinationAction (warehouse : Warehouse) (step : Json) : Action Json := do
  let label := TableLabel.ofParts step[1] step[2]
  match step[0].text with
  | "reflect" => return TableDefinition.documentOf (← Warehouse.lookUp label)
  | "create_mode" =>
    let options ← Action.ofExcept (ImportOptions.ofDocument step[3]).result
    let existing ← Action.ofExcept (TableDefinition.ofDocument? step[4])
    return TableDefinition.documentOf
      (← Destination.applyCreateMode warehouse label options existing)
  | "definition" =>
    let expected ← Action.ofExcept (ColumnCollection.ofDocument step[3])
    return (← Action.ofExcept
      (Destination.define label expected step[4].texts step[5].isGiven)).document
  | "resolve" =>
    let options ← Action.ofExcept (ImportOptions.ofDocument step[3]).result
    let expected ← Action.ofExcept (ColumnCollection.ofDocument step[4])
    let existing ← Action.ofExcept (TableDefinition.ofDocument? step[6])
    return (← Destination.resolve warehouse label options expected step[5].isGiven
      existing).document
  | "dedup" =>
    let columns ← Action.ofExcept (ColumnCollection.ofDocument step[4])
    Action.ofExcept (Destination.checkKeys label step[3].texts columns)
    return .null
  | _ =>
    let destination ← Action.ofExcept (TableDefinition.ofDocument step[1])
    let expected ← Action.ofExcept (Column.listOfDocument step[2])
    let source ← Action.ofExcept (TableDefinition.ofDocument step[3])
    Action.ofExcept (Reconciliation.check destination expected source)
    return .null

/-- A step that prepares a destination, with its calls beside its answer. -/
def destinationStep (warehouse : Warehouse) (step : Json) : StateM Stage Answer :=
  Stage.answer (destinationAction warehouse step)

end WarehouseImport.Rehearsal
