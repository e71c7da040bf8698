import WarehouseImport.Column.DataType
import WarehouseImport.Failure.Basic
import WarehouseImport.Text.Summary

/-!
# Columns

A column of a table: its name, its type with a length or the definition of its parts, whether it
may be null, and its default. `ColumnSpec` is a column as a caller describes it; `ColumnSpec.check`
makes a column of it or says what is wrong.
-/

namespace WarehouseImport

open WarehouseImport.Text

/-- The column that holds the time a row was imported. -/
def timestampColumn : String := "_timestamp"

/-- Whether a column may be null: a flag, or some other mark a caller put in its place. -/
inductive Nullability where
  | flag (allowed : Bool)
  | mark (given : Json)
  deriving Repr

/-- The value that stands for it in a document. -/
def Nullability.value : Nullability → Json
  | .flag allowed => .bool allowed
  | .mark given => given

/-- Whether null is allowed. -/
def Nullability.allowed (n : Nullability) : Bool := n.value.isGiven

/-- A column of a table. -/
structure Column where
  name : String
  type : String
  length : Option String
  nullable : Nullability
  default : Option Json
  arrayField : Option Json
  deriving Repr

namespace Column

/-- The type with its length or parts. -/
def writtenType (column : Column) : String := DataType.written column.type column.length

/-- The definition of the column without its name. -/
def definition (column : Column) : String :=
  column.writtenType ++
    (match column.default with
      | some value => " DEFAULT " ++ value.shown
      | none => "") ++
    (if column.nullable.allowed then "" else " NOT NULL")

/-- Whether two columns agree in every part; the case of names counts. -/
def same (left right : Column) : Bool :=
  left.name == right.name && left.type == right.type && left.length == right.length &&
    left.nullable.value.same right.nullable.value &&
    (left.default.getD .null).same (right.default.getD .null) &&
    (left.arrayField.getD .null).same (right.arrayField.getD .null)

/-- Whether two columns agree in type, and in name without regard to case. -/
def alike (left right : Column) : Bool :=
  lower left.name == lower right.name && left.type == right.type

/-- The column under another name; an empty name changes nothing. -/
def renamed (column : Column) (name : String) : Column :=
  if name.isEmpty then column else { column with name := name }

/-- The column with null allowed or not. -/
def withNullable (column : Column) (allowed : Bool) : Column :=
  { column with nullable := .flag allowed }

/-- The column with the given changes; absent ones and an empty name change nothing. -/
def changed (column : Column) (name : Option String) (nullable : Option Json)
    (default : Option Json) : Column :=
  let column := column.renamed (name.getD "")
  let column :=
    match nullable with
    | none => column
    | some (.bool allowed) => { column with nullable := .flag allowed }
    | some given => { column with nullable := .mark given }
  match default with
  | none => column
  | some value => { column with default := some value }

/-- The one-line summary of the column. -/
def shown (column : Column) : String :=
  summary [
    ("data_default", (column.default.getD .null).shown),
    ("data_length", ((column.length.map Json.str).getD .null).shown),
    ("data_type", column.type),
    ("field_as_array", (column.arrayField.getD .null).shown),
    ("name", column.name),
    ("nullable", column.nullable.value.shown)]

end Column

/-- A column as a caller describes it, before any check. -/
structure ColumnSpec where
  name : Json
  type : Json
  length : Json
  nullable : Json
  default : Option Json
  arrayField : Option Json
  deriving Repr

namespace ColumnSpec

/-- A text that must be given. -/
def requiredText : Json → Except Failure String
  | .str text => if text.isEmpty then .error .missingArgument else .ok text
  | value =>
    if value.isGiven then .error (.notText value.kindName) else .error .missingArgument

/-- A length: a text or a whole number, or nothing. -/
def optionalLength : Json → Except Failure (Option String)
  | .null => .ok none
  | .str text => .ok (if text.isEmpty then none else some text)
  | .int number => .ok (some (toString number))
  | value => .error (.notText value.kindName)

/-- A flag, or a text that stands for one. -/
def requiredFlag : Json → Except Failure Bool
  | .bool flag => .ok flag
  | .str text =>
    if ["Y", "YES", "TRUE"].contains (upper text) then .ok true
    else if ["N", "NO", "FALSE"].contains (upper text) then .ok false
    else .error (.invalidFlag text)
  | _ => .error .missingArgument

/-- The column that a description gives. Name, type, length and flag are checked in this order. -/
def check (spec : ColumnSpec) : Except Failure Column := do
  let name ← requiredText spec.name
  let type ← requiredText (match spec.type with
    | .str type => .str (DataType.kept type)
    | other => other)
  let length ← optionalLength spec.length
  let nullable ← requiredFlag spec.nullable
  return {
    name := name
    type := type
    length := length
    nullable := .flag nullable
    default := spec.default
    arrayField := spec.arrayField }

/-- A text column of the greatest length, for data without a column to take the type from. -/
def generic (name nullable : Json) : ColumnSpec where
  name := name
  type := .str "STRING"
  length := .str DataType.greatestTextLength
  nullable := nullable
  default := none
  arrayField := none

end ColumnSpec

/-- The column with a name, a type and a length; a missing name or type is refused. -/
def Column.make (name type : String) (length : Option String) (nullable : Bool) :
    Except Failure Column :=
  ColumnSpec.check {
    name := .str name
    type := .str type
    length := (length.map Json.str).getD .null
    nullable := .bool nullable
    default := none
    arrayField := none }

/-- A nullable text column of the greatest length under a name that must be given. -/
def Column.generic (name : String) : Except Failure Column :=
  (ColumnSpec.generic (.str name) (.bool true)).check

end WarehouseImport
