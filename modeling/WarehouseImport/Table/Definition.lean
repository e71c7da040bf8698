import WarehouseImport.Column.Collection
import WarehouseImport.Table.Name

/-!
# Table definitions

A definition holds a table's name, columns, primary keys and, when the table was reflected, its
rows and bytes. Primary keys are columns of the table: `TableDefinition.make` refuses others.
-/

namespace WarehouseImport

open WarehouseImport.Text

/-- A reflected table, or one that is to be created. -/
structure TableDefinition where
  name : TableName
  columns : ColumnCollection
  primaryKeys : List String
  temporary : Bool
  rows : Option Int
  bytes : Option Int
  keys_known : columns.index.missing primaryKeys = []

namespace TableDefinition

/-- The definition with the given parts, unless some primary key is not a column. -/
def ofCollection (name : TableName) (columns : ColumnCollection) (primaryKeys : List String)
    (temporary : Bool) (rows bytes : Option Int) : Except Failure TableDefinition :=
  if h : columns.index.missing primaryKeys = [] then
    .ok ⟨name, columns, primaryKeys, temporary, rows, bytes, h⟩
  else .error (.unknownKeys name.full (columns.index.missing primaryKeys))

/-- The definition of a table with the given columns. -/
def make (name : TableName) (columns : List Column) (primaryKeys : List String)
    (temporary : Bool) (rows bytes : Option Int) : Except Failure TableDefinition := do
  let columns ← ColumnCollection.ofList columns
  ofCollection name columns primaryKeys temporary rows bytes

/-- The names of the columns in order. -/
def columnNames (definition : TableDefinition) : List String := definition.columns.names

/-- The definition with other columns; keys stay unless others are given, row counts do not. -/
def withColumns (definition : TableDefinition) (columns : List Column)
    (primaryKeys : Option (List String)) : Except Failure TableDefinition :=
  make definition.name columns (primaryKeys.getD definition.primaryKeys) definition.temporary
    none none

/-- The definition with other primary keys. -/
def withPrimaryKeys (definition : TableDefinition) (primaryKeys : List String) :
    Except Failure TableDefinition :=
  ofCollection definition.name definition.columns primaryKeys definition.temporary
    definition.rows definition.bytes

/-- A short form: the full name and the names of the columns. -/
def brief (definition : TableDefinition) : String :=
  "BigQueryTableDefinition(" ++ definition.name.full ++ ", " ++
    String.intercalate ", " definition.columnNames ++ ")"

/-- A count as shown in a summary. -/
def shownCount (count : Option Int) : String := ((count.map Json.int).getD .null).shown

/-- The one-line summary of the definition. -/
def shown (definition : TableDefinition) : String :=
  summary [
    ("column_names", quotedList definition.columnNames),
    ("columns", definition.columns.shown),
    ("full_name", definition.name.full),
    ("is_temporary", Json.shownFlag definition.temporary),
    ("primary_keys", quotedList definition.primaryKeys),
    ("row_count", shownCount definition.rows),
    ("schema_name", definition.name.dataset),
    ("size_bytes", shownCount definition.bytes),
    ("table_name", definition.name.table)]

end TableDefinition

end WarehouseImport
