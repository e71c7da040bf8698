import WarehouseImport.Number.Numeral
import WarehouseImport.Text.Word

/-!
# Values that are too long

The service reports a value that does not fit its column as

    Field NAME: TYPE(LENGTH) has maximum length LENGTH but got a value with length LENGTH

The name is the shortest that lets the rest follow, at the first place where any does.
-/

namespace WarehouseImport

open WarehouseImport.Text

/-- The field, its type and the two lengths that a message names. -/
structure Overflow where
  field : String
  type : String
  limit : Nat
  length : Nat
  deriving DecidableEq, Repr

namespace Overflow

/-- The text behind a beginning, if the text has that beginning. -/
def dropHead? : List Char → List Char → Option (List Char)
  | [], text => some text
  | c :: cs, d :: ds => if c = d then dropHead? cs ds else none
  | _ :: _, [] => none

/-- The words between the type's length and the limit. -/
def limitWords : List Char := ") has maximum length ".toList

/-- The words between the limit and the length of the value. -/
def lengthWords : List Char := " but got a value with length ".toList

/-- A non-empty run of characters of a class at the start of a text, as long as possible. -/
def run? (holds : Char → Bool) (text : List Char) : Option (List Char × List Char) :=
  let taken := text.takeWhile holds
  if taken.isEmpty then none else some (taken, text.dropWhile holds)

/-- What a message says behind the name: the type and the digits of its length and of the value's
length. -/
def tail? (text : List Char) : Option (List Char × List Char × List Char) := do
  let text ← dropHead? ": ".toList text
  let (type, text) ← run? isWord text
  let text ← dropHead? ['('] text
  let (limit, text) ← run? isDigit text
  let text ← dropHead? limitWords text
  let (_, text) ← run? isDigit text
  let text ← dropHead? lengthWords text
  let (length, _) ← run? isDigit text
  return (type, limit, length)

/-- The parts of a message whose name starts with the reversed characters `name` and goes on with
`text`. A name is not empty and stays on one line. -/
def named? (name : List Char) :
    List Char → Option (List Char × List Char × List Char × List Char)
  | [] => none
  | c :: rest =>
    if c = '\n' then none
    else
      match tail? rest with
      | some parts => some ((c :: name).reverse, parts)
      | none => named? (c :: name) rest

/-- The parts of the first place in a text that reports a value too long. -/
def search? : List Char → Option (List Char × List Char × List Char × List Char)
  | [] => none
  | c :: rest =>
    match (dropHead? "Field ".toList (c :: rest)).bind (named? []) with
    | some parts => some parts
    | none => search? rest

/-- The overflow that the parts describe, unless a length has too many digits to be read. -/
def ofParts (parts : List Char × List Char × List Char × List Char) : Except Nat Overflow :=
  let (field, type, limit, length) := parts
  if Number.digitLimit < limit.length then .error limit.length
  else if Number.digitLimit < length.length then .error length.length
  else .ok ⟨String.ofList field, String.ofList type, ofDigits limit, ofDigits length⟩

/-- The overflow a message reports, if it reports one; an error gives the number of digits of a
length that is too long to be read. -/
def ofMessage (message : String) : Except Nat (Option Overflow) :=
  match search? message.toList with
  | none => .ok none
  | some parts => (ofParts parts).map some

end Overflow

end WarehouseImport
