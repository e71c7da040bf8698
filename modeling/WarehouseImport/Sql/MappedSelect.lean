import WarehouseImport.Sql.Binding
import WarehouseImport.Sql.Text
import WarehouseImport.Table.Name

/-!
# Mapped selections

A mapped selection reads the columns of a table or of a query and gives them the names they have
at their destination, as they are or cast to texts.
-/

namespace WarehouseImport

/-- A column of a source and the name it takes at its destination. -/
structure ColumnMapping where
  source : String
  destination : String
  deriving DecidableEq, Repr

/-- What a mapped selection reads. -/
inductive SelectBase where
  | table (name : TableName)
  | query (sql : SqlText)
  deriving DecidableEq, Repr

namespace SelectBase

/-- The name a query is read under. -/
def queryName : String := "src"

/-- The base in the place of a table. -/
def clause : SelectBase → SqlText
  | table name => [.name name.dataset, .text ".", .name name.table]
  | query sql => [.text "("] ++ sql ++ [.text ") AS ", .name queryName]

/-- The name that columns of the base are qualified with. -/
def qualifier : SelectBase → String
  | table name => name.table
  | query _ => queryName

/-- The base that a query or the parts of a table's name give; a query that is not empty wins. -/
def make (query : Option SqlText) (dataset table : Option String) : Except Failure SelectBase :=
  match query with
  | some sql => .ok (.query sql)
  | none =>
    (TableName.make (dataset.getD "") (table.getD "")).map .table
      |>.mapError fun _ => .noBaseOfSource

end SelectBase

/-- A selection of mapped columns with the bindings of its base. -/
structure MappedSelect where
  mappings : List ColumnMapping
  base : SelectBase
  bindings : List Binding
  primaryKeys : List String

namespace MappedSelect

/-- The names of the selected columns. -/
def columnNames (select : MappedSelect) : List String := select.mappings.map (·.destination)

/-- One selected column. -/
def column (qualifier : String) (cast : Bool) (mapping : ColumnMapping) : SqlText :=
  let source : SqlText := [.name qualifier, .text ".", .name mapping.source]
  (if cast then [.text "CAST("] ++ source ++ [.text " AS STRING)"] else source) ++
    [.text " AS ", .name mapping.destination]

/-- The text of the selection. Without mappings every column of the base is selected as it is. -/
def sql (select : MappedSelect) (cast : Bool) : SqlText :=
  if select.mappings.isEmpty then
    match select.base with
    | .query sql => sql
    | base => .text "SELECT * FROM " :: base.clause
  else
    [.text "SELECT "] ++
      SqlText.joined ", " (select.mappings.map (column select.base.qualifier cast)) ++
      [.text " FROM "] ++ select.base.clause

/-- The selection in the place of a table. -/
def clause (select : MappedSelect) : SqlText := [.text "("] ++ select.sql false ++ [.text ")"]

end MappedSelect

end WarehouseImport
