import WarehouseImport.Text.Case

/-!
# Data types of columns

The type names of the warehouse. Several names may describe one storage type; `canonical` picks
one of them. A type that takes a length is written with the length in parentheses, a nested type
with its fields in angle brackets.
-/

namespace WarehouseImport.DataType

open WarehouseImport.Text

/-- The names that stand for another type, each with that type. -/
def aliases : List (String × String) := [
  ("BIGDECIMAL", "BIGNUMERIC"),
  ("BIGINT", "INT64"),
  ("BOOL", "BOOLEAN"),
  ("BYTEINT", "INT64"),
  ("DECIMAL", "NUMERIC"),
  ("FLOAT", "FLOAT64"),
  ("INT", "INT64"),
  ("INTEGER", "INT64"),
  ("RECORD", "STRUCT"),
  ("SMALLINT", "INT64"),
  ("TINYINT", "INT64")]

/-- The one name of a storage type, in upper case. -/
def canonical (type : String) : String :=
  (aliases.lookup (upper type)).getD (upper type)

/-- The name under which a column keeps a type: the service says FLOAT and INTEGER where statements
say FLOAT64 and INT64. -/
def kept (type : String) : String :=
  if type = "FLOAT" then "FLOAT64" else if type = "INTEGER" then "INT64" else type

/-- Whether a type is written with a length. -/
def takesLength (type : String) : Bool :=
  ["BIGNUMERIC", "BYTES", "NUMERIC", "STRING"].contains type

/-- Whether a type is written with the types of its parts. -/
def isNested (type : String) : Bool := ["ARRAY", "STRUCT"].contains type

/-- A type with its length or its parts. -/
def written (type : String) (length : Option String) : String :=
  match length with
  | some inner =>
    if inner.isEmpty then type
    else if isNested type then type ++ "<" ++ inner ++ ">"
    else if takesLength type then type ++ "(" ++ inner ++ ")"
    else type
  | none => type

/-- Whether a type holds numbers. -/
def isNumeric (type : String) : Bool :=
  ["BIGNUMERIC", "FLOAT64", "INT64", "NUMERIC"].contains (canonical type)

/-- Whether a type holds texts. -/
def isText (type : String) : Bool := upper type == "STRING"

/-- Whether a type holds moments in time. -/
def isMoment (type : String) : Bool := type == "TIMESTAMP"

/-- The greatest length of a text column. -/
def greatestTextLength : String := "2097152"

end WarehouseImport.DataType
