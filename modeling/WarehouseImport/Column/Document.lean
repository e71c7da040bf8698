import WarehouseImport.Column.Collection
import WarehouseImport.Json.Lenient

/-!
# Columns as documents

A column is described by an object, or by the list of its name, type, length, nullability and
default. The document of a column shows its definition beside its parts.
-/

namespace WarehouseImport

namespace ColumnSpec

/-- The description of a column by the list of its parts. Parts at the end may be missing. -/
def ofItems (parts : List Json) : ColumnSpec where
  name := (parts[0]?).getD .null
  type := (parts[1]?).getD .null
  length := (parts[2]?).getD .null
  nullable := (parts[3]?).getD (.bool true)
  default := (parts[4]?).bind Json.present?
  arrayField := none

/-- The description of a column by a document. -/
def ofDocument : Json → ColumnSpec
  | .arr parts => ofItems parts
  | document => {
      name := document["name"]
      type := document["type"]
      length := document["length"]
      nullable := (document.get? "nullable").getD (.bool true)
      default := document["default"].present?
      arrayField := document["field_as_array"].present? }

end ColumnSpec

namespace Column

/-- The column that a document describes. -/
def ofDocument (document : Json) : Except Failure Column := (ColumnSpec.ofDocument document).check

/-- The columns that a list of documents describes. -/
def listOfDocument (document : Json) : Except Failure (List Column) :=
  document.items.mapM ofDocument

/-- The document of a column. -/
def document (column : Column) : Json := .obj ([
  ("name", .str column.name),
  ("type", .str column.type),
  ("length", Json.ofText? column.length),
  ("nullable", column.nullable.value),
  ("default", column.default.getD .null),
  ("sql", .str column.definition)] ++
  (match column.arrayField with
    | some field => [("field_as_array", field)]
    | none => []))

/-- The documents of columns. -/
def documents (columns : List Column) : Json := .arr (columns.map document)

end Column

/-- The collection of the columns that a list of documents describes. -/
def ColumnCollection.ofDocument (document : Json) : Except Failure ColumnCollection := do
  ColumnCollection.ofList (← Column.listOfDocument document)

end WarehouseImport
