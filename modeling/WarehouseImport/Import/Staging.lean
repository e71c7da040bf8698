import WarehouseImport.Sql.MappedSelect
import WarehouseImport.Warehouse.Basic

/-!
# Staging tables

A staging table holds rows for a short time, before they reach the destination. It takes type,
length and default of each column from the destination's column of the same name; any other column
is a text of the greatest length. For mapped columns, keys of the destination stay keys and must not
be null; for columns of files, everything may be null. How an import ends does not depend on whether
its staging table could be dropped.
-/

namespace WarehouseImport

namespace Staging

/-- The column of a staging table under a name: that of the destination with null allowed or not, or
a text. -/
def column (destination : TableDefinition) (name : String) (nullable : Bool) :
    Except Failure Column :=
  match destination.columns.get? name with
  | some column => .ok ((column.renamed name).withNullable nullable)
  | none => Column.generic name

/-- The columns of the staging table for mapped columns. -/
def mappedColumns (destination : TableDefinition) (mappings : List ColumnMapping) :
    Except Failure (List Column) :=
  mappings.mapM fun mapping =>
    column destination mapping.destination
      (!(NameIndex.ofNames destination.primaryKeys).contains mapping.destination)

/-- The columns of the staging table for the columns of files. -/
def fileColumns (destination : TableDefinition) (names : List String) :
    Except Failure (List Column) :=
  names.mapM fun name => column destination name true

/-- The keys of the destination that are among some columns. -/
def keysAmong (destination : TableDefinition) (columns : List Column) : List String :=
  destination.primaryKeys.filter (NameIndex.ofNames (columns.map (·.name))).contains

/-- The columns and keys of a staging table that has no name yet. -/
structure Layout where
  columns : List Column
  keys : List String

namespace Layout

/-- The layout for mapped columns. -/
def ofMappings (destination : TableDefinition) (mappings : List ColumnMapping) :
    Except Failure Layout :=
  (mappedColumns destination mappings).map fun columns => ⟨columns, keysAmong destination columns⟩

/-- The layout for the columns of files. -/
def ofNames (destination : TableDefinition) (names : List String) : Except Failure Layout :=
  (fileColumns destination names).map fun columns => ⟨columns, []⟩

/-- The definition of a staging table of the given name beside its destination. -/
def define (layout : Layout) (destination : TableDefinition) (table : String) :
    Except Failure TableDefinition := do
  let name ← TableName.make destination.name.dataset table
  TableDefinition.make name layout.columns layout.keys true none none

/-- Defines a staging table under a new name. -/
def defineNew (layout : Layout) (destination : TableDefinition) (beginning : String) :
    Action TableDefinition := do
  let table ← Action.drawName beginning
  Action.ofExcept (layout.define destination table)

end Layout

/-- Drops a staging table. A failure is written to the log and forgotten. -/
def remove (warehouse : Warehouse) (staging : TableName) : Action Unit :=
  tryCatch (discard (warehouse.drop .table staging true)) fun failure =>
    Action.log ("Failed to drop staging table " ++ staging.full ++ ": " ++ failure.shown)
      (some Detail.full) []

end Staging

end WarehouseImport
