import WarehouseImport.Column.Basic
import WarehouseImport.Name.Named
import WarehouseImport.Number.Numeral
import WarehouseImport.Sql.Binding
import WarehouseImport.Sql.Text
import WarehouseImport.Table.Name

/-!
# Filtered selections

A filtered selection reads columns of one table where all its clauses hold, up to a limit. Filter
values become bindings named `dcValue1`, `dcValue2` and so on; the text refers to them by name.
-/

namespace WarehouseImport

/-- How a column is compared with a filter's values. -/
inductive FilterOperator where
  | eq
  | ne
  | gt
  | ge
  | lt
  | le
  deriving DecidableEq, Repr

namespace FilterOperator

instance : Named FilterOperator where
  all := [eq, ne, gt, ge, lt, le]
  name
    | eq => "eq"
    | ne => "ne"
    | gt => "gt"
    | ge => "ge"
    | lt => "lt"
    | le => "le"

/-- The operator before one value. -/
def single : FilterOperator → String
  | eq => "="
  | ne => "<>"
  | gt => ">"
  | ge => ">="
  | lt => "<"
  | le => "<="

/-- The operator before a list of values, if it has one. -/
def several? : FilterOperator → Option String
  | eq => some "IN"
  | ne => some "NOT IN"
  | _ => none

end FilterOperator

/-- What the values of a filter are. -/
inductive FilterType where
  | string
  | integer
  | double
  | bigint
  | real
  | decimal
  deriving DecidableEq, Repr

namespace FilterType

instance : Named FilterType where
  all := [string, integer, double, bigint, real, decimal]
  name
    | string => "STRING"
    | integer => "INTEGER"
    | double => "DOUBLE"
    | bigint => "BIGINT"
    | real => "REAL"
    | decimal => "DECIMAL"

/-- The name of a data type in messages. -/
def described : FilterType → String
  | string => "STRING"
  | integer => "INT64"
  | double => "NUMERIC"
  | bigint => "BIGINT"
  | real => "NUMERIC"
  | decimal => "DECIMAL"

/-- Whether values are whole numbers. -/
def isWhole : FilterType → Bool
  | integer | bigint => true
  | _ => false

/-- Whether values are decimals. -/
def isDecimal : FilterType → Bool
  | real | decimal | double => true
  | _ => false

/-- The type that values are bound with. -/
def bound (type : FilterType) : String :=
  if type.isWhole then "INT64" else if type.isDecimal then "FLOAT64" else "STRING"

/-- The type a column is cast to before it is compared, or none for texts; other data types have
no cast. -/
def cast? : FilterType → Except Failure (Option String)
  | string => .ok none
  | integer => .ok (some "INTEGER")
  | real => .ok (some "NUMERIC")
  | type => .error (.uncastableType type.described)

/-- The whole number a filter value stands for. -/
def wholeValue? : Json → Option Int
  | .str text => Number.wholeNumber? text
  | .int number => some number
  | .bool flag => some (if flag then 1 else 0)
  | .real number => (Number.Double.ofFloat number).truncate?
  | _ => none

/-- The decimal a filter value stands for. -/
def decimalValue? : Json → Option Float
  | .str text => Number.decimal? text
  | .int number => some (Number.ofWhole number)
  | .bool flag => some (if flag then 1.0 else 0.0)
  | .real number => some number
  | _ => none

/-- The value that is bound for a filter value on a column. -/
def convert (type : FilterType) (column : String) (value : Json) : Except Failure Json :=
  let converted :=
    if type.isWhole then (wholeValue? value).map Json.int
    else if type.isDecimal then (decimalValue? value).map Json.real
    else some value
  match converted with
  | some bound => .ok bound
  | none => .error (.invalidFilterValue value.shown column type.described)

end FilterType

/-- A filter of a command: the column must compare to the values as the operator says. -/
structure WhereFilter where
  column : String
  operator : FilterOperator
  values : List Json
  type : FilterType
  deriving Repr

/-- A filter as a caller describes it, its operator and data type by name. -/
structure FilterSpec where
  column : Option String
  operator : Json
  values : List Json
  type : Json
  deriving Repr

/-- The filter that a description gives. Column, values, operator and data type are checked in
this order. -/
def FilterSpec.check (spec : FilterSpec) : Except Failure WhereFilter := do
  let column ← match spec.column with
    | some column => if column.isEmpty then .error .missingArgument else .ok column
    | none => .error .missingArgument
  if spec.values.isEmpty then .error (.noFilterValues column)
  let operator ← match spec.operator.asText?.bind Named.ofName? with
    | some operator => .ok operator
    | none => .error (.unknownOperator spec.operator)
  let type ← match spec.type.asText?.bind Named.ofName? with
    | some type => .ok type
    | none => .error (.unknownDataType spec.type)
  return ⟨column, operator, spec.values, type⟩

/-- A condition of a selection. -/
inductive FilterClause where
  /-- Rows imported within the last seconds. -/
  | recent (seconds : Int)
  /-- Rows whose column, cast if need be, compares to the parameter of a number. -/
  | compare (column : String) (cast : Option String) (symbol : String) (several : Bool)
      (parameter : Nat)
  deriving DecidableEq, Repr

namespace FilterClause

/-- The name of the parameter of a number. -/
def parameterName (number : Nat) : String := "dcValue" ++ toString number

/-- A column of the table a selection reads. -/
def columnOf (table column : String) : SqlText := [.name table, .text ".", .name column]

/-- The text of a condition on a table. -/
def sql (table : String) : FilterClause → SqlText
  | recent seconds =>
    columnOf table timestampColumn ++
      [.text (" >= TIMESTAMP_SUB(CURRENT_TIMESTAMP(), INTERVAL " ++ toString seconds ++
        " SECOND)")]
  | compare column cast symbol several parameter =>
    let column :=
      match cast with
      | some type =>
        [.text "SAFE_CAST("] ++ columnOf table column ++ [.text (" AS " ++ type ++ ")")]
      | none => columnOf table column
    let reference := "@" ++ parameterName parameter
    column ++
      [.text (" " ++ symbol ++ " " ++ if several then "UNNEST(" ++ reference ++ ")" else reference)]

end FilterClause

/-- A selection from one table while filters are added to it. -/
structure FilterQuery where
  table : TableName
  clauses : List FilterClause
  bindings : List Binding

namespace FilterQuery

/-- The selection of every row of a table. -/
def start (table : TableName) : FilterQuery := ⟨table, [], []⟩

/-- Restricts the selection to rows imported within the last seconds, if there are any. -/
def within (query : FilterQuery) (seconds : Int) : FilterQuery :=
  if 0 < seconds then { query with clauses := query.clauses ++ [.recent seconds] } else query

/-- Adds a clause that compares a column with the next parameter, and the parameter's binding. -/
def addCompared (query : FilterQuery) (column : String) (cast : Option String) (symbol : String)
    (several : Bool) (type : String) (value : BoundValue) : FilterQuery :=
  let number := query.bindings.length + 1
  { query with
    clauses := query.clauses ++ [.compare column cast symbol several number]
    bindings := query.bindings ++ [⟨FilterClause.parameterName number, type, value⟩] }

/-- Restricts the selection by a filter. One value is compared directly, several as a list. -/
def restrict (query : FilterQuery) (filter : WhereFilter) : Except Failure FilterQuery :=
  match filter.values with
  | [] => .error (.noFilterValues filter.column)
  | [value] => do
    let cast ← filter.type.cast?
    let value ← filter.type.convert filter.column value
    return query.addCompared filter.column cast filter.operator.single false filter.type.bound
      (.one value)
  | values =>
    match filter.operator.several? with
    | none => .error .severalValues
    | some symbol => do
      let cast ← filter.type.cast?
      let values ← values.mapM (filter.type.convert filter.column)
      return query.addCompared filter.column cast symbol true filter.type.bound (.many values)

/-- Restricts the selection by a filter that is checked first. -/
def add (query : FilterQuery) (spec : FilterSpec) : Except Failure FilterQuery := do
  query.restrict (← spec.check)

/-- The text of the selection of columns, all when none are named, up to a limit if it is
positive. -/
def sql (query : FilterQuery) (columns : List String) (limit : Int) : SqlText :=
  let table := query.table.table
  let projection : SqlText :=
    if columns.isEmpty then [.name table, .text ".*"]
    else SqlText.joined ", " (columns.map (FilterClause.columnOf table))
  let conditions := query.clauses.map (FilterClause.sql table)
  let condition : SqlText :=
    if conditions.isEmpty then []
    else .text "\nWHERE  " :: SqlText.joined "\nAND    " conditions
  let last : SqlText := if 0 < limit then [.text ("\nLIMIT  " ++ toString limit)] else []
  [.text "SELECT "] ++ projection ++
    [.text "\nFROM   ", .name query.table.dataset, .text ".", .name table] ++ condition ++ last

/-- The text and bindings of the selection of columns under filters. -/
def select (table : TableName) (columns : List String) (filters : List FilterSpec)
    (seconds limit : Int) : Except Failure (SqlText × List Binding) := do
  let query ← filters.foldlM add ((start table).within seconds)
  return (query.sql columns limit, query.bindings)

end FilterQuery

/-- A column cast for comparison with values of a data type that is not text. -/
def castColumn (column : String) (type : FilterType) : Except Failure String :=
  match type with
  | .integer => .ok ("SAFE_CAST(" ++ column ++ " AS INTEGER)")
  | .real => .ok ("SAFE_CAST(" ++ column ++ " AS NUMERIC)")
  | type => .error (.uncastableType type.described)

end WarehouseImport
