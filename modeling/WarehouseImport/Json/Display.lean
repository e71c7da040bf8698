import WarehouseImport.Json.Value
import WarehouseImport.Number.Layout
import WarehouseImport.Text.Quoted

/-!
# Documents in messages

How a value reads in a message. A text stands for itself, but is quoted inside a list or an
object.
-/

namespace WarehouseImport.Json

open WarehouseImport.Text

/-- A flag as shown in messages. -/
def shownFlag (flag : Bool) : String := if flag then "True" else "False"

mutual

/-- A value inside a list or an object. -/
def inner : Json → String
  | .null => "None"
  | .bool flag => shownFlag flag
  | .int number => toString number
  | .real number => Number.Layout.shown.write number
  | .str text => quoted text
  | .arr items => bracketed (innerItems items)
  | .obj members => braced (innerMembers members)

/-- The items of a list, each as shown inside it. -/
def innerItems : List Json → List String
  | [] => []
  | item :: rest => inner item :: innerItems rest

/-- The members of an object, each as shown inside it. -/
def innerMembers : List (String × Json) → List (String × String)
  | [] => []
  | (name, value) :: rest => (quoted name, inner value) :: innerMembers rest

end

/-- A value on its own. -/
def shown : Json → String
  | .str text => text
  | value => inner value

/-- The name of the kind of a value. -/
def kindName : Json → String
  | .null => "NoneType"
  | .bool _ => "bool"
  | .int _ => "int"
  | .real _ => "float"
  | .str _ => "str"
  | .arr _ => "list"
  | .obj _ => "dict"

end WarehouseImport.Json
