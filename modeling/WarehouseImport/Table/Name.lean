import WarehouseImport.Failure.Basic

/-!
# Names of tables

A table is named by its dataset and its own name in it. Neither part may be empty; `TableName.make`
refuses parts that are.
-/

namespace WarehouseImport

/-- A table or view of a dataset. -/
structure TableName where
  dataset : String
  table : String
  deriving DecidableEq, Repr

namespace TableName

/-- The name with the given parts; an empty part is refused. -/
def make (dataset table : String) : Except Failure TableName :=
  if dataset.isEmpty || table.isEmpty then .error .missingArgument else .ok ⟨dataset, table⟩

/-- The two parts as given. -/
def label (name : TableName) : TableLabel := ⟨name.dataset, name.table⟩

/-- The parts joined by a point. -/
def full (name : TableName) : String := name.label.joined

/-- The name of a table of the same dataset. -/
def sibling (name : TableName) (table : String) : TableName := { name with table := table }

end TableName

/-- The name of a table whose two parts must be given. -/
def TableLabel.check (label : TableLabel) : Except Failure TableName :=
  TableName.make label.schema label.table

end WarehouseImport
