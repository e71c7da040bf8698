import WarehouseImport.Column.Basic
import WarehouseImport.Sql.MappedSelect
import WarehouseImport.Table.Definition
import WarehouseImport.Text.Padding

/-!
# Statements

Every statement that an import sends, as data. `Statement.sql` is its text in pieces; `target?` is
the table it creates, writes or drops. A statement that would have no columns is refused by the
functions that build it.
-/

namespace WarehouseImport

open WarehouseImport.Sql

/-- One row for each key of a staged table, as a new table: rows are numbered within each key and
the first one stays. -/
structure KeyedCopy where
  target : TableName
  source : String
  columns : List String
  keys : List String
  deriving DecidableEq, Repr

/-- The column that numbers the rows of a key. -/
def rowNumberColumn : String := "_row_number_"

/-- Rows of a staged table on their way to the destination. Empty texts of the columns in
`emptyToNull` become null; `stamped` adds the time of the import. -/
structure StagedInsert where
  target : TableName
  source : String
  columns : List String
  emptyToNull : List String
  stamped : Bool
  deriving DecidableEq, Repr

/-- Whether an object that is dropped is a table or a view. -/
inductive ObjectKind where
  | table
  | view
  deriving DecidableEq, Repr

/-- A statement sent to the warehouse. -/
inductive Statement where
  | createTable (table : TableName) (columns : List Column) (keys : List String)
  | createView (view source : TableName)
  | cloneTable (target source : TableName)
  | createTableAs (target source : TableName)
  | copyTable (target source : TableName)
  | createKeyedCopy (copy : KeyedCopy)
  | insertSelect (target : TableName) (columns : List String) (select : SqlText)
  | insertMapped (target : TableName) (select : MappedSelect) (cast : Bool)
  | insertStaged (insert : StagedInsert)
  | replaceContents (insert : StagedInsert)
  | drop (kind : ObjectKind) (target : TableName) (ifExists : Bool)
  | countRows (table : TableName) (condition : String)
  | verbatim (text : String)

namespace TableName

/-- The quoted name of a table. -/
def sql (name : TableName) : SqlText := [.name name.dataset, .text ".", .name name.table]

end TableName

namespace StagedInsert

/-- The columns that are written, in order. -/
def targets (insert : StagedInsert) : List String :=
  if insert.stamped then insert.columns ++ [timestampColumn] else insert.columns

/-- The value of a staged column. -/
def expression (insert : StagedInsert) (column : String) : SqlText :=
  if (NameIndex.ofNames insert.emptyToNull).contains column then
    [.text "NULLIF(", .name column, .text ", '')"]
  else [.name column]

/-- The values that are written, in order. -/
def expressions (insert : StagedInsert) : List SqlText :=
  let staged := insert.columns.map insert.expression
  if insert.stamped then staged ++ [SqlText.plain "CURRENT_TIMESTAMP()"] else staged

/-- The text of the insertion. -/
def sql (insert : StagedInsert) : SqlText :=
  [.text "INSERT INTO "] ++ insert.target.sql ++ [.text " ("] ++
    SqlText.nameList insert.targets ++ [.text ")\nSELECT "] ++
    SqlText.joined ", " insert.expressions ++ [.text "\nFROM   "] ++
    (insert.target.sibling insert.source).sql

end StagedInsert

namespace Statement

/-- The lines of a table's columns, the definitions aligned behind the longest name. -/
def columnLines (columns : List Column) : List SqlText :=
  let width := (columns.map fun column => (quoteName column.name).length).foldl max 0
  columns.map fun column =>
    [.name column.name,
      .text (Text.blanksTo width (quoteName column.name) ++ " " ++ column.definition)]

/-- The line of a table's primary keys, if there are any. -/
def keyLines (keys : List String) : List SqlText :=
  if keys.isEmpty then []
  else [[.text "PRIMARY KEY ("] ++ SqlText.nameList keys ++ [.text ") NOT ENFORCED"]]

/-- The text of a statement. -/
def sql : Statement → SqlText
  | createTable table columns keys =>
    [.text "CREATE TABLE "] ++ table.sql ++ [.text " (\n    "] ++
      SqlText.joined "\n,   " (columnLines columns ++ keyLines keys) ++ [.text "\n)"]
  | createView view source =>
    [.text "CREATE VIEW "] ++ view.sql ++
      [.text " AS (\n  SELECT\n    *\n  FROM\n    "] ++ source.sql ++ [.text "\n);"]
  | cloneTable target source =>
    [.text "CREATE TABLE "] ++ target.sql ++ [.text " CLONE "] ++ source.sql ++ [.text ";"]
  | createTableAs target source =>
    [.text "CREATE TABLE "] ++ target.sql ++ [.text " AS (SELECT * FROM "] ++ source.sql ++
      [.text ")"]
  | copyTable target source =>
    [.text "CREATE TABLE "] ++ target.sql ++ [.text " COPY "] ++ source.sql
  | createKeyedCopy copy =>
    let columns := SqlText.nameList copy.columns
    let keys := SqlText.nameList copy.keys
    [.text "CREATE TABLE "] ++ copy.target.sql ++ [.text " AS\nSELECT "] ++ columns ++
      [.text "\nFROM   (\n       SELECT "] ++ columns ++
      [.text "\n       ,      ROW_NUMBER() OVER (PARTITION BY "] ++ keys ++
      [.text " ORDER BY "] ++ keys ++ [.text ") AS ", .name rowNumberColumn,
        .text "\n       FROM   "] ++ (copy.target.sibling copy.source).sql ++
      [.text "\n       )\nWHERE  ", .name rowNumberColumn, .text " = 1"]
  | insertSelect target columns select =>
    [.text "INSERT INTO "] ++ target.sql ++ [.text " ("] ++ SqlText.nameList columns ++
      [.text ")\n"] ++ select
  | insertMapped target select cast =>
    [.text "INSERT INTO "] ++ target.sql ++ [.text " ("] ++
      SqlText.nameList select.columnNames ++ [.text ")\n"] ++ select.sql cast
  | insertStaged insert => insert.sql
  | replaceContents insert =>
    [.text "BEGIN TRANSACTION;\nDELETE FROM "] ++ insert.target.sql ++
      [.text " WHERE TRUE;\n"] ++ insert.sql ++ [.text ";\nCOMMIT TRANSACTION;"]
  | drop kind target ifExists =>
    [.text (match kind with
      | .table => "DROP TABLE "
      | .view => "DROP VIEW ")] ++
      (if ifExists then [.text "IF EXISTS "] else []) ++ target.sql
  | countRows table condition =>
    [.text "SELECT COUNT(*) AS cnt FROM "] ++ table.sql ++
      (if condition.isEmpty then [] else [.text ("\nWHERE " ++ condition)])
  | verbatim text => [.text text]

/-- The text of a statement as it is sent. -/
def text (statement : Statement) : String := statement.sql.render

/-- The table that a statement creates, writes or drops. -/
def target? : Statement → Option TableName
  | createTable table _ _ => some table
  | createView view _ => some view
  | cloneTable target _ => some target
  | createTableAs target _ => some target
  | copyTable target _ => some target
  | createKeyedCopy copy => some copy.target
  | insertSelect target _ _ => some target
  | insertMapped target _ _ => some target
  | insertStaged insert => some insert.target
  | replaceContents insert => some insert.target
  | drop _ target _ => some target
  | countRows .. => none
  | verbatim _ => none

/-- The statement that creates a defined table, which must have columns. -/
def create (definition : TableDefinition) : Except Failure Statement :=
  if definition.columns.columns.isEmpty then .error (.noColumns definition.name.full)
  else .ok (.createTable definition.name definition.columns.columns definition.primaryKeys)

/-- The statement that keeps one row for each key; columns and keys must be given. -/
def keyedCopy (copy : KeyedCopy) : Except Failure Statement :=
  if copy.columns.isEmpty || copy.keys.isEmpty then .error .missingArgument
  else .ok (.createKeyedCopy copy)

/-- The statement that inserts mapped columns, of which there must be some. -/
def mappedInsert (target : TableName) (select : MappedSelect) (cast : Bool) :
    Except Failure Statement :=
  if select.mappings.isEmpty then .error .missingArgument
  else .ok (.insertMapped target select cast)

/-- The statement that inserts what a selection gives; columns and selection must be given. -/
def selectInsert (target : TableName) (columns : List String) (select : String) :
    Except Failure Statement :=
  if columns.isEmpty || select.isEmpty then .error .missingArgument
  else .ok (.insertSelect target columns (SqlText.plain select))

end Statement

end WarehouseImport
