import WarehouseImport.Column.Basic
import WarehouseImport.Number.Numeral

/-!
# Fields of a reflected schema

The service describes a column as a field: a name, a type, a mode, limits, and the fields of a
nested type. `SchemaField.column` is the column such a field stands for. A repeated field is an
array of its element; the description of the field stays with the column.
-/

namespace WarehouseImport

open WarehouseImport.Text

/-- A field of a schema. `document` is the field as the service describes it. -/
structure SchemaField where
  name : Option String
  type : Option String
  mode : String
  maxLength : Option Int
  precision : Option Int
  scale : Option Int
  default : Option Json
  fields : List SchemaField
  document : Json
  deriving Repr

namespace SchemaField

/-- Whether a type is described by fields of its own. -/
def isStruct (type : String) : Bool := type == "STRUCT" || type == "RECORD"

/-- A text member of a description. -/
def textMember (document : Json) (name : String) : Option String :=
  match document.get? name with
  | some (.str text) => some text
  | _ => none

/-- A whole number of a description, which may be written as a text. -/
def numberMember (document : Json) (name : String) : Option Int :=
  match document.get? name with
  | some (.int number) => some number
  | some (.str text) => Number.wholeNumber? text
  | _ => none

mutual

/-- The field of a description. -/
def ofDocument : Json → SchemaField
  | .obj members =>
    let document := Json.obj members
    { name := textMember document "name"
      type := (textMember document "type").map upper
      mode := upper ((textMember document "mode").getD "NULLABLE")
      maxLength := numberMember document "maxLength"
      precision := numberMember document "precision"
      scale := numberMember document "scale"
      default :=
        match document.get? "defaultValueExpression" with
        | some .null => none
        | other => other
      fields := ofMembers members
      document := document }
  | document =>
    { name := none, type := none, mode := "NULLABLE", maxLength := none, precision := none
      scale := none, default := none, fields := [], document := document }

/-- The nested fields among the members of a description. -/
def ofMembers : List (String × Json) → List SchemaField
  | [] => []
  | (name, value) :: rest =>
    match name, value with
    | "fields", .arr items => ofItems items
    | _, _ => ofMembers rest

/-- The fields of a list of descriptions. -/
def ofItems : List Json → List SchemaField
  | [] => []
  | item :: rest => ofDocument item :: ofItems rest

end

mutual

/-- A description with the mode spelled out in every nested field that leaves it out. -/
def withModes (nested : Bool) : Json → Json
  | .obj members =>
    let struct := isStruct (upper ((textMember (.obj members) "type").getD ""))
    let members := withModesMembers struct members
    if nested && (members.lookup "mode").isNone then .obj (members ++ [("mode", .str "NULLABLE")])
    else .obj members
  | other => other

/-- The members of a description, nested fields with their modes if it is of a nested type. -/
def withModesMembers (struct : Bool) : List (String × Json) → List (String × Json)
  | [] => []
  | (name, value) :: rest =>
    let value :=
      match value with
      | .arr items => if struct && name == "fields" then .arr (withModesItems items) else .arr items
      | other => other
    (name, value) :: withModesMembers struct rest

/-- Nested fields with their modes. -/
def withModesItems : List Json → List Json
  | [] => []
  | item :: rest => withModes true item :: withModesItems rest

end

/-- A limit that counts: zero is none. -/
def given (limit : Option Int) : Option Int := limit.filter (· != 0)

/-- The length that the limits of a scalar field give. -/
def scalarLength (field : SchemaField) : Option String :=
  match given field.maxLength, given field.precision, field.scale with
  | some length, _, _ => some (toString length)
  | none, some precision, some scale => some (toString precision ++ "," ++ toString scale)
  | none, some precision, none => some (toString precision)
  | none, none, _ => none

mutual

/-- The column a field stands for. The type of an element is settled before the array's. -/
def column : SchemaField → Except Failure Column
  | { name, type, mode, maxLength, precision, scale, default, fields, document } =>
    match type with
    | none => .error .noSuchPart
    | some type => do
      let nested ← if isStruct type then (nestedDefinitions fields).map some else pure none
      let scalar := scalarLength
        { name, type, mode, maxLength, precision, scale, default, fields := [], document }
      let length := if isStruct type then nested else scalar
      let element : ColumnSpec :=
        { name := (name.map Json.str).getD .null
          type := .str (if isStruct type then "STRUCT" else type)
          length := (length.map Json.str).getD .null
          nullable := .bool true
          default := none
          arrayField := none }
      let whole ←
        if mode = "REPEATED" then
          element.check.map fun column =>
            { element with
              type := .str "ARRAY"
              length := .str column.writtenType
              arrayField := some (withModes false document) }
        else pure element
      ColumnSpec.check { whole with nullable := .bool (mode != "REQUIRED"), default := default }

/-- The definitions of nested fields, joined by commas. -/
def nestedDefinitions : List SchemaField → Except Failure String
  | [] => .ok ""
  | field :: rest => do
    let column ← field.column
    let others ← nestedDefinitions rest
    let head := column.name ++ " " ++ column.writtenType
    return if rest.isEmpty then head else head ++ ", " ++ others

end

end SchemaField

end WarehouseImport
