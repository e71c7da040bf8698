import WarehouseImport.Column.Basic
import WarehouseImport.Name.Index

/-!
# Column collections

The columns of a table in their order. No two share a name, whatever its case: `ofList` refuses
columns that repeat a name and lists every one that does.
-/

namespace WarehouseImport

open WarehouseImport.Text

/-- The names that repeat an earlier name without regard to case, in order; `seen` holds the lower
case names that came before. -/
def repeatedNames (seen : List String) : List String → List String
  | [] => []
  | name :: rest =>
    if seen.contains (lower name) then name :: repeatedNames seen rest
    else repeatedNames (lower name :: seen) rest

/-- Columns in order, with names that differ by more than case. -/
structure ColumnCollection where
  columns : List Column
  distinct : repeatedNames [] (columns.map (·.name)) = []

namespace ColumnCollection

/-- The collection of columns, unless names repeat. -/
def ofList (columns : List Column) : Except Failure ColumnCollection :=
  if h : repeatedNames [] (columns.map (·.name)) = [] then .ok ⟨columns, h⟩
  else .error (.duplicateColumns (repeatedNames [] (columns.map (·.name))))

/-- The names in order. -/
def names (collection : ColumnCollection) : List String := collection.columns.map (·.name)

/-- The number of columns. -/
def size (collection : ColumnCollection) : Nat := collection.columns.length

/-- The index of the columns by name. -/
def index (collection : ColumnCollection) : NameIndex Column :=
  NameIndex.ofList (collection.columns.map fun column => (column.name, column))

/-- The column with a name. -/
def get? (collection : ColumnCollection) (name : String) : Option Column :=
  collection.index.get? name

/-- Whether some column has a name. -/
def contains (collection : ColumnCollection) (name : String) : Bool :=
  collection.index.contains name

/-- The place of the column with a name, which must be given. -/
def position (collection : ColumnCollection) (name : String) : Except Failure (Option Nat) :=
  if name.isEmpty then .error .missingArgument
  else .ok (collection.columns.findIdx? fun column => lower column.name == lower name)

/-- The column at a place, counted from the end when negative. -/
def atPlace (collection : ColumnCollection) (place : Int) : Except Failure Column :=
  let fromStart := if place < 0 then place + collection.size else place
  if fromStart < 0 then .error .noSuchPosition
  else
    match collection.columns[fromStart.toNat]? with
    | some column => .ok column
    | none => .error .noSuchPosition

/-- Whether two collections have the same columns in the same order. -/
def same (left right : ColumnCollection) : Bool :=
  left.size == right.size &&
    (left.columns.zip right.columns).all fun pair => pair.1.same pair.2

/-- Whether names are exactly the column names in their order, without regard to case. -/
def isFullSet (collection : ColumnCollection) (names : List String) : Bool :=
  names.map lower == collection.names.map lower

/-- The collection as shown in messages. -/
def shown (collection : ColumnCollection) : String :=
  "ColumnCollection(" ++ String.intercalate ", " collection.names ++ ")"

end ColumnCollection

end WarehouseImport
