import WarehouseImport.Name.Keyed
import WarehouseImport.Number.Double

/-!
# Documents

A document is null, a flag, a whole number, a double, a text, a list, or an object whose members
keep their order. Objects read from text have each name once.
-/

namespace WarehouseImport

/-- A document value. -/
inductive Json where
  | null
  | bool (flag : Bool)
  | int (number : Int)
  | real (number : Float)
  | str (text : String)
  | arr (items : List Json)
  | obj (members : List (String × Json))
  deriving Repr

namespace Json

/-- The members that remain of a list of members in reading order when a repeated name keeps its
first place and its last value. -/
def mergeMembers (members : List (String × Json)) : List (String × Json) :=
  members.foldl (fun merged member => Keyed.put Prod.fst member merged) []

/-- The member of an object with a name; none for any other value. -/
def get? (name : String) : Json → Option Json
  | .obj members => members.lookup name
  | _ => none

/-- Whether a whole number fits a signed or an unsigned 64 bit word. -/
def fitsWord (n : Int) : Bool := -9223372036854775808 ≤ n && n ≤ 18446744073709551615

/-- The text that a value is, if it is one. -/
def asText? : Json → Option String
  | .str text => some text
  | _ => none

/-- Whether a value counts as given: null, false, zero and everything empty do not. -/
def isGiven : Json → Bool
  | .null => false
  | .bool flag => flag
  | .int number => number != 0
  | .real number => !(number == 0.0)
  | .str text => !text.isEmpty
  | .arr items => !items.isEmpty
  | .obj members => !members.isEmpty

/-- The whole number that a flag or a number stands for, if it is whole. -/
def whole? : Json → Option Int
  | .bool flag => some (if flag then 1 else 0)
  | .int number => some number
  | .real number =>
    let double := Number.Double.ofFloat number
    if double.isWhole then double.truncate? else none
  | _ => none

mutual

/-- Whether two values are equal. Flags and numbers are equal when they stand for the same
number, and objects when they have equal members in any order. -/
def same : Json → Json → Bool
  | .null, .null => true
  | .str left, .str right => left == right
  | .arr left, .arr right => sameItems left right
  | .obj left, .obj right => left.length == right.length && sameMembers left right
  | .real left, .real right => left == right
  | left, right =>
    match whole? left, whole? right with
    | some m, some n => m == n
    | _, _ => false

/-- Whether two lists are equal item by item. -/
def sameItems : List Json → List Json → Bool
  | [], [] => true
  | left :: lefts, right :: rights => same left right && sameItems lefts rights
  | _, _ => false

/-- Whether every member has an equal member of the same name in the other list. -/
def sameMembers : List (String × Json) → List (String × Json) → Bool
  | [], _ => true
  | (name, value) :: rest, others =>
    (match others.lookup name with
      | some other => same value other
      | none => false) && sameMembers rest others

end

end Json

end WarehouseImport
