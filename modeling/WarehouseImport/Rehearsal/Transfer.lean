import WarehouseImport.Command.Document
import WarehouseImport.Import.Filling
import WarehouseImport.Import.Writing
import WarehouseImport.Rehearsal.Stage

/-!
# Rehearsals of transfers

Steps that fill staging tables and write destinations. They share one import, which is under way
once a step has filled a table; until then each step has an import of its own, named after its
staging table.
-/

namespace WarehouseImport.Rehearsal

open WarehouseImport

/-- A stage, and whether the import of the steps is under way. -/
structure Transfer where
  stage : Stage
  underWay : Bool := false

namespace Transfer

/-- Does something on the stage. -/
def onStage {α : Type} (change : StateM Stage α) : StateM Transfer α := do
  let transfer ← get
  let (value, stage) := change.run transfer.stage
  set { transfer with stage := stage }
  return value

/-- Whether a step fills a table. -/
def fills (step : Json) : Bool := ["table", "staging", "copy", "load"].contains step["do"].text

/-- The name of the import that a step begins. -/
def nameOf (step : Json) : String :=
  if step["do"].text = "table" then step["table"].text else step["staging"]["table"].text

/-- The source and the staging table of a step. -/
def endsOf (step : Json) : Action (Source × TableDefinition) := do
  let source ← Action.ofExcept (Source.ofDocument step["source"])
  return (source, ← Action.ofExcept (TableDefinition.ofDocument step["staging"]))

/-- A step that fills a table. -/
def fill (warehouse : Warehouse) (step : Json) : Action Unit := do
  let options ← Action.ofExcept (TransferOptions.ofDocument step["options"])
  match step["do"].text with
  | "table" =>
    let source ← Action.ofExcept (Source.ofDocument step["source"])
    Filling.insert warehouse source (.ofParts step["schema"] step["table"])
      step["columns"].texts options
  | "staging" =>
    let (source, staging) ← endsOf step
    Filling.stage warehouse source staging options
  | "copy" =>
    let (source, staging) ← endsOf step
    Filling.copy warehouse source staging
  | _ =>
    let path ← Action.ofExcept (FilePath.ofDocument step["file"]).result
    let csv ← Action.ofExcept (CsvOptions.ofDocument step["csv"]).result
    let staging ← Action.ofExcept (TableDefinition.ofDocument step["staging"])
    Filling.load warehouse path csv staging options step["token"].present?

/-- How a step writes the destination. -/
def modeOf (step : Json) : WriteMode :=
  match step["do"].text with
  | "full" => .replace
  | "incremental" =>
    .append ((step["dedup_type"].asText?.bind Named.ofName?).getD .insertDuplicates)
  | _ => .undecided

/-- A step that writes the destination. -/
def write (warehouse : Warehouse) (step : Json) : Action Json := do
  let staging ← Action.ofExcept (TableDefinition.ofDocument step["staging"])
  let destination ← Action.ofExcept (TableDefinition.ofDocument step["destination"])
  let options ← Action.ofExcept (TransferOptions.ofDocument step["options"])
  return .obj
    (← Writing.finish warehouse (modeOf step) staging destination options).members

/-- What a step does, on an import of its own if none is under way. -/
def action (warehouse : Warehouse) (underWay : Bool) (step : Json) : Action Json := do
  if !underWay then Action.beginImport (nameOf step)
  if fills step then
    fill warehouse step
    return (← Action.progress).document
  else write warehouse step

/-- A step with its calls beside its answer. -/
def step (warehouse : Warehouse) (step : Json) : StateM Transfer Answer := do
  let before ← get
  let answer ← onStage (Stage.answer (action warehouse before.underWay step))
  if fills step && answer.result.toOption.isSome then
    modify fun transfer => { transfer with underWay := true }
  if !(← get).underWay then
    modify fun transfer =>
      { transfer with stage := transfer.stage.withProgress before.stage.session.progress }
  return answer

end Transfer

end WarehouseImport.Rehearsal
