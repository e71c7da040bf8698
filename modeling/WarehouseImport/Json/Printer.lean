import WarehouseImport.Json.Value
import WarehouseImport.Number.Layout

/-!
# Writing documents

Documents are written compactly, members in their order. Texts keep all characters but the quote,
the backslash and the controls below the space. Whole numbers beyond 64 bits and nesting beyond
`depthLimit` lists and objects have no text.
-/

namespace WarehouseImport.Json

/-- The deepest nesting that is written. -/
def depthLimit : Nat := 254

/-- The escape letter of a character that has one. -/
def escapeLetter? (c : Char) : Option Char :=
  match c with
  | '"' => some '"'
  | '\\' => some '\\'
  | '\n' => some 'n'
  | '\r' => some 'r'
  | '\t' => some 't'
  | _ =>
    if c.toNat = 8 then some 'b'
    else if c.toNat = 12 then some 'f'
    else none

/-- A hexadecimal digit in lower case. -/
def hexDigit (n : Nat) : Char :=
  Char.ofNat (if n < 10 then 48 + n else 87 + n)

/-- A character inside a quoted text. -/
def escapeChar (c : Char) : List Char :=
  match escapeLetter? c with
  | some letter => ['\\', letter]
  | none =>
    if c.toNat < 32 then
      ['\\', 'u', '0', '0', hexDigit (c.toNat / 16), hexDigit (c.toNat % 16)]
    else [c]

/-- A quoted text. -/
def quote (text : String) : List Char :=
  '"' :: text.toList.flatMap escapeChar ++ ['"']

/-- The digits of a whole number with its sign. -/
def intText (n : Int) : List Char :=
  if n < 0 then '-' :: Nat.toDigits 10 n.natAbs else Nat.toDigits 10 n.natAbs

mutual

/-- The text of a value within a number of nestings. -/
def write? (depth : Nat) : Json → Option (List Char)
  | .null => some ['n', 'u', 'l', 'l']
  | .bool true => some ['t', 'r', 'u', 'e']
  | .bool false => some ['f', 'a', 'l', 's', 'e']
  | .int n => if fitsWord n then some (intText n) else none
  | .real x => some (Number.Layout.document.write x).toList
  | .str text => some (quote text)
  | .arr items =>
    match depth with
    | 0 => none
    | depth + 1 => (writeItems? depth items).map fun body => '[' :: body ++ [']']
  | .obj members =>
    match depth with
    | 0 => none
    | depth + 1 => (writeMembers? depth members).map fun body => '\x7b' :: body ++ ['\x7d']

/-- The items of a list, joined by commas. -/
def writeItems? (depth : Nat) : List Json → Option (List Char)
  | [] => some []
  | item :: rest =>
    match write? depth item, writeItems? depth rest with
    | some head, some tail => some (if rest.isEmpty then head else head ++ ',' :: tail)
    | _, _ => none

/-- The members of an object, joined by commas. -/
def writeMembers? (depth : Nat) : List (String × Json) → Option (List Char)
  | [] => some []
  | (name, value) :: rest =>
    match write? depth value, writeMembers? depth rest with
    | some text, some tail =>
      let head := quote name ++ ':' :: text
      some (if rest.isEmpty then head else head ++ ',' :: tail)
    | _, _ => none

end

/-- The text of a document, if it has one. -/
def print? (document : Json) : Option String :=
  (write? depthLimit document).map String.ofList

end WarehouseImport.Json
