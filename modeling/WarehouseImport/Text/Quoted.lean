import WarehouseImport.Text.Printable

/-!
# Quoted texts in messages

A text inside a list or an object is shown between apostrophes, or between quotes when it holds an
apostrophe and no quote. Line ends, tabs, backslashes and unprintable characters are escaped.
-/

namespace WarehouseImport.Text

/-- A hexadecimal digit in lower case. -/
def lowerHex (n : Nat) : Char := Char.ofNat (if n < 10 then 48 + n else 87 + n)

/-- A number in hexadecimal, exactly `width` digits. -/
def hexText (width n : Nat) : List Char :=
  (List.range width).reverse.map fun place => lowerHex (n / Nat.pow 16 place % 16)

/-- A character as shown between the given quotes. -/
def shownChar (mark c : Char) : List Char :=
  if c == mark || c == '\\' then ['\\', c]
  else if c == '\n' then ['\\', 'n']
  else if c == '\r' then ['\\', 'r']
  else if c == '\t' then ['\\', 't']
  else if isPrintable c then [c]
  else if c.toNat < 0x100 then ['\\', 'x'] ++ hexText 2 c.toNat
  else if c.toNat < 0x10000 then ['\\', 'u'] ++ hexText 4 c.toNat
  else ['\\', 'U'] ++ hexText 8 c.toNat

/-- A text between the quotes that suit it. -/
def quoted (text : String) : String :=
  let characters := text.toList
  let mark := if characters.contains '\x27' && !characters.contains '"' then '"' else '\x27'
  String.ofList (mark :: characters.flatMap (shownChar mark) ++ [mark])

/-- Texts in brackets, joined by commas. -/
def bracketed (items : List String) : String := "[" ++ String.intercalate ", " items ++ "]"

/-- Texts in brackets, each between quotes. -/
def quotedList (items : List String) : String := bracketed (items.map quoted)

/-- Texts in parentheses, joined by commas; a lone one keeps its comma. -/
def parenthesized (items : List String) : String :=
  match items with
  | [item] => "(" ++ item ++ ",)"
  | _ => "(" ++ String.intercalate ", " items ++ ")"

/-- Named texts in braces. -/
def braced (members : List (String × String)) : String :=
  "\x7b" ++ String.intercalate ", " (members.map fun member => member.1 ++ ": " ++ member.2) ++
    "\x7d"

end WarehouseImport.Text
