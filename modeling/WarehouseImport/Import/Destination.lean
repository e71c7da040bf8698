import WarehouseImport.Command.Options
import WarehouseImport.Import.Reconciliation
import WarehouseImport.Warehouse.Basic

/-!
# Destinations

What becomes of a destination before rows are written. A create mode forbids a destination that
exists, unless it is a view or a clone that may be replaced, which is dropped. A destination that
does not exist is created from the expected columns, unless the import creates it on its own.
-/

namespace WarehouseImport

namespace Destination

/-- Enforces the create mode on the destination; gives the one that is still there. -/
def applyCreateMode (warehouse : Warehouse) (label : TableLabel) (options : ImportOptions)
    (existing : Option TableDefinition) : Action (Option TableDefinition) :=
  match existing, options.createMode with
  | none, _ => return none
  | some definition, none => return some definition
  | some _, some mode => do
    if mode = .replace && options.importType.createsDestination then
      let target ← Action.ofExcept (label.check)
      let _ ← warehouse.dropObject target
      return none
    else throw (.tableExists label)

/-- The expected columns, with the time column if it is wanted and not there. -/
def columns (expected : ColumnCollection) (stamped : Bool) : Except Failure (List Column) :=
  if stamped && !expected.contains timestampColumn then do
    return expected.columns ++ [← Column.make timestampColumn "TIMESTAMP" none true]
  else .ok expected.columns

/-- The definition of a destination that is to be created. -/
def define (label : TableLabel) (expected : ColumnCollection) (keys : List String)
    (stamped : Bool) : Except Failure TableDefinition := do
  let columns ← columns expected stamped
  let name ← label.check
  TableDefinition.make name columns keys false none none

/-- The definition of the destination, which is created if it does not exist and the import does not
create it. -/
def resolve (warehouse : Warehouse) (label : TableLabel) (options : ImportOptions)
    (expected : ColumnCollection) (stamped : Bool) (existing : Option TableDefinition) :
    Action TableDefinition :=
  match existing with
  | some definition => return definition
  | none => do
    let definition ←
      Action.ofExcept (define label expected options.dedupColumns stamped)
    if !options.importType.createsDestination then
      let _ ← warehouse.createTable definition
    return definition

/-- Fails if some columns that are to be keys are not among the given ones. -/
def checkKeys (label : TableLabel) (keys : List String) (columns : ColumnCollection) :
    Except Failure Unit :=
  let missing := columns.index.missing keys
  if missing.isEmpty then .ok () else .error (.missingColumns "destination" label missing)

end Destination

end WarehouseImport
