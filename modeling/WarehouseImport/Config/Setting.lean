import WarehouseImport.Text.Case
import WarehouseImport.Failure.Basic
import WarehouseImport.Json.Reader

/-!
# Values of settings

Flags and positive numbers may be given as texts. A setting that holds a document is checked to be
an object of plain values.
-/

namespace WarehouseImport.Setting

open WarehouseImport.Text

/-- Whether a text writes a number in digits alone, blanks around them left aside. -/
def isDigits (text : String) : Bool :=
  let characters := (trim text).toList
  !characters.isEmpty && characters.all isDigit

/-- The number that digits write, which must not have too many of them. -/
def digitsValue (text : String) : Except Failure Int :=
  let characters := (trim text).toList
  if Number.digitLimit < characters.length then .error (.tooManyDigits characters.length)
  else .ok (ofDigits characters)

/-- Whether a value is a positive whole number, or a text that writes one; zero counts if it is
allowed. -/
def isPositive (value : Json) (zero : Bool) : Except Failure Bool :=
  match value with
  | .int number => .ok (if zero then 0 ≤ number else 0 < number)
  | .str text =>
    if isDigits text then
      (digitsValue text).map fun number => if zero then 0 ≤ number else 0 < number
    else .ok false
  | _ => .ok false

/-- The flag that a value stands for; any other text is refused with `refusal`. -/
def flag (refusal : String → Failure) (value : Json) : Except Failure Bool :=
  match value with
  | .bool flag => .ok flag
  | .str text =>
    let word := lower (trim text)
    if word = "true" then .ok true
    else if word = "false" then .ok false
    else .error (refusal text)
  | _ => .error .noSuchPart

/-- The positive number that a value stands for, or nothing for null; any other value is refused
with `refusal`. -/
def positive (refusal : String → Failure) (value : Json) (zero : Bool) :
    Except Failure (Option Int) :=
  match value with
  | .null => .ok none
  | _ => do
    if ← isPositive value zero then
      match value with
      | .int number => return some number
      | .str text =>
        match Number.wholeNumber? text with
        | some number => return some number
        | none =>
          throw (.outside .value
            ("invalid literal for int() with base 10: " ++ quoted text))
      | _ => return none
    else throw (refusal value.shown)

/-- Whether a member of a setting's object is a text, a number or a flag. -/
def isPlain : Json → Bool
  | .str _ | .int _ | .real _ | .bool _ => true
  | _ => false

/-- Checks that a text which is not empty holds an object of plain values. -/
def checkObject (option text : String) : Except Failure Unit :=
  if text.isEmpty then .ok ()
  else
    match Json.read? text with
    | none => .error (.settingNotJson option)
    | some (.obj members) =>
      let wrong := members.filter fun member => !isPlain member.2
      if wrong.isEmpty then .ok () else .error (.settingMembers option wrong)
    | some _ => .error (.settingNotObject option)

end WarehouseImport.Setting
