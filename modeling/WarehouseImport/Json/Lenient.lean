import WarehouseImport.Json.Value
import WarehouseImport.Number.Numeral

/-!
# Lenient reading of parts

Parts of a document by name or by place, for documents that need no check. What is missing is null,
and a value of another kind has no text, no items and no members.
-/

namespace WarehouseImport.Json

/-- The member of a name; null if there is none. -/
instance : GetElem Json String Json (fun _ _ => True) where
  getElem value name _ := (value.get? name).getD .null

/-- The item at a place; null if there is none. -/
instance : GetElem Json Nat Json (fun _ _ => True) where
  getElem value place _ :=
    match value with
    | .arr items => (items[place]?).getD .null
    | _ => .null

/-- The items of a list. -/
def items : Json → List Json
  | .arr items => items
  | _ => []

/-- The members of an object. -/
def members : Json → List (String × Json)
  | .obj members => members
  | _ => []

/-- The text itself; empty for any other value. -/
def text : Json → String
  | .str text => text
  | _ => ""

/-- The texts among the items of a list. -/
def texts (value : Json) : List String := value.items.filterMap asText?

/-- The members of an object that are texts. -/
def textMembers (value : Json) : List (String × String) :=
  value.members.filterMap fun member => member.2.asText?.map fun text => (member.1, text)

/-- The whole number itself, if it is one. -/
def int? : Json → Option Int
  | .int number => some number
  | _ => none

/-- The whole number that a flag or a number stands for without its fraction; zero for any other
value. -/
def integer : Json → Int
  | .bool flag => if flag then 1 else 0
  | .int number => number
  | .real x => ((Number.Double.ofFloat x).truncate?).getD 0
  | _ => 0

/-- The double that a number stands for; zero for any other value. -/
def number : Json → Float
  | .real x => x
  | .int n => Number.ofWhole n
  | _ => 0.0

/-- The value unless it is null. -/
def present? : Json → Option Json
  | .null => none
  | value => some value

/-- Whether an object has a member of a name. -/
def has (value : Json) (name : String) : Bool := (value.get? name).isSome

/-- A list of texts. -/
def ofTexts (texts : List String) : Json := .arr (texts.map str)

/-- A text, or null. -/
def ofText? (text : Option String) : Json := (text.map str).getD .null

/-- A whole number, or null. -/
def ofInt? (number : Option Int) : Json := (number.map int).getD .null

/-- A count. -/
def ofNat (count : Nat) : Json := .int (Int.ofNat count)

end WarehouseImport.Json
