import WarehouseImport.Table.Definition
import WarehouseImport.Sql.Filter

/-!
# Reconciliation

Whether an existing destination fits the columns that an import expects. Names are compared without
regard to case, and the column that holds the time of the import is never expected. A text column
takes anything; otherwise types must agree in their canonical names and lengths must be the same.
Whether columns may be null is not compared.
-/

namespace WarehouseImport

/-- Whether the actual column takes what the expected column describes. -/
def Column.accepts (actual expected : Column) : Bool :=
  DataType.isText actual.type ||
    (DataType.canonical expected.type == DataType.canonical actual.type &&
      expected.length.getD "" == actual.length.getD "")

namespace Reconciliation

/-- The columns of the destination that nothing is expected for, apart from the time column. -/
def missingInSource (destination : TableDefinition) (expected : List Column) : List String :=
  let known := NameIndex.ofNames (timestampColumn :: expected.map (·.name))
  destination.columnNames.filter fun name => !known.contains name

/-- The expected columns that the destination lacks. -/
def missingInDestination (destination : TableDefinition) (expected : List Column) :
    List String :=
  destination.columns.index.missing (expected.map (·.name))

/-- The pair of an expected column and the destination's column of its name, if they do not fit. -/
def mismatch? (destination : TableDefinition) (expected : Column) : Option Mismatch :=
  match destination.columns.get? expected.name with
  | some actual =>
    if actual.accepts expected then none
    else some ⟨actual.name, expected.definition, actual.definition⟩
  | none => none

/-- Everything that does not fit. -/
def report (destination : TableDefinition) (expected : List Column)
    (source : TableDefinition) : MismatchReport where
  source := source.name.label
  destination := destination.name.label
  missingInSource := missingInSource destination expected
  missingInDestination := missingInDestination destination expected
  mismatches := expected.filterMap (mismatch? destination)

/-- Fails with everything that does not fit, if there is anything. -/
def check (destination : TableDefinition) (expected : List Column)
    (source : TableDefinition) : Except Failure Unit :=
  let found := report destination expected source
  if found.isEmpty then .ok () else .error (.irreconcilable found)

end Reconciliation

end WarehouseImport
