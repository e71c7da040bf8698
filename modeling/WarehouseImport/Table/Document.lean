import WarehouseImport.Column.Document
import WarehouseImport.Table.Definition

/-!
# Tables as documents

A table is described by an object with its dataset, name, columns, keys and counts. Null stands for
no table.
-/

namespace WarehouseImport

/-- The name with the parts that two values are. A null or empty part is missing; another value
that is no text has no part of a name. -/
def TableName.ofParts (dataset table : Json) : Except Failure TableName :=
  if dataset.isGiven && table.isGiven then
    match dataset, table with
    | .str dataset, .str table => TableName.make dataset table
    | _, _ => .error .noSuchPart
  else .error .missingArgument

/-- The label with the texts of two values. -/
def TableLabel.ofParts (schema table : Json) : TableLabel := ⟨schema.text, table.text⟩

namespace TableDefinition

/-- The definition that a document describes. Columns are checked before the name. -/
def ofDocument (document : Json) : Except Failure TableDefinition := do
  let columns ← Column.listOfDocument document["columns"]
  let name ← TableName.ofParts document["schema"] document["table"]
  TableDefinition.make name columns document["primary_keys"].texts document["temporary"].isGiven
    document["rows"].int? document["bytes"].int?

/-- The definition that a document describes, if it is not null. -/
def ofDocument? (document : Json) : Except Failure (Option TableDefinition) :=
  match document with
  | .null => .ok none
  | document => some <$> ofDocument document

/-- The document of a definition. -/
def document (definition : TableDefinition) : Json := .obj [
  ("schema", .str definition.name.dataset),
  ("table", .str definition.name.table),
  ("columns", Column.documents definition.columns.columns),
  ("primary_keys", Json.ofTexts definition.primaryKeys),
  ("temporary", .bool definition.temporary),
  ("rows", Json.ofInt? definition.rows),
  ("bytes", Json.ofInt? definition.bytes)]

/-- The document of a definition, or null. -/
def documentOf (definition : Option TableDefinition) : Json :=
  (definition.map document).getD .null

end TableDefinition

end WarehouseImport
