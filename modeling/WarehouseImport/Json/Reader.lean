import WarehouseImport.Json.Value
import WarehouseImport.Number.Numeral

/-!
# Reading documents

Reading accepts strict documents only: no comments, no trailing commas, no lone surrogates, no
numbers beyond the range of doubles. A repeated member name keeps its first place and its last
value, and nesting stops below `readDepthLimit` lists and objects. `read?` reads a whole number
outside 64 bits as a double, and `readExact?` keeps whole numbers of any size.
-/

namespace WarehouseImport.Json

open WarehouseImport.Number (nearestDouble)

/-- The nesting at which reading gives up. -/
def readDepthLimit : Nat := 1024

/-- White space between the parts of a document. -/
def isSpace (c : Char) : Bool := c == ' ' || c == '\t' || c == '\n' || c == '\r'

/-- The text behind white space. -/
def skipSpace (text : List Char) : List Char := text.dropWhile isSpace

/-- Whether a character is an ASCII digit. -/
def isDecimal (c : Char) : Bool := '0' ≤ c && c ≤ '9'

/-- The number ASCII digits write. -/
def decimalValue (digits : List Char) : Nat :=
  digits.foldl (fun number c => 10 * number + (c.toNat - 48)) 0

/-- The value of a hexadecimal digit. -/
def hexValue? (c : Char) : Option Nat :=
  if '0' ≤ c && c ≤ '9' then some (c.toNat - 48)
  else if 'a' ≤ c && c ≤ 'f' then some (c.toNat - 87)
  else if 'A' ≤ c && c ≤ 'F' then some (c.toNat - 55)
  else none

/-- The character an escape letter stands for. -/
def unescapeLetter? (c : Char) : Option Nat :=
  match c with
  | '"' => some 34
  | '\\' => some 92
  | '/' => some 47
  | 'b' => some 8
  | 'f' => some 12
  | 'n' => some 10
  | 'r' => some 13
  | 't' => some 9
  | _ => none

/-- The code units of a quoted text up to its closing quote, and the text behind it. An escape
gives one unit and any other character its code point. -/
def readUnits? : List Char → Option (List Nat × List Char)
  | [] => none
  | '"' :: rest => some ([], rest)
  | '\\' :: 'u' :: a :: b :: c :: d :: rest => do
    let a ← hexValue? a
    let b ← hexValue? b
    let c ← hexValue? c
    let d ← hexValue? d
    let (units, tail) ← readUnits? rest
    return ((((a * 16 + b) * 16 + c) * 16 + d) :: units, tail)
  | '\\' :: letter :: rest => do
    let unit ← unescapeLetter? letter
    let (units, tail) ← readUnits? rest
    return (unit :: units, tail)
  | ['\\'] => none
  | c :: rest =>
    if c.toNat < 32 then none
    else (readUnits? rest).map fun (units, tail) => (c.toNat :: units, tail)

/-- The characters of code units. A high surrogate joins the low one behind it; surrogates in any
other place are refused. -/
def joinUnits? : List Nat → Option (List Char)
  | [] => some []
  | unit :: rest =>
    if 0xD800 ≤ unit && unit < 0xDC00 then
      match rest with
      | low :: more =>
        if 0xDC00 ≤ low && low < 0xE000 then
          (joinUnits? more).map
            (Char.ofNat (0x10000 + (unit - 0xD800) * 0x400 + (low - 0xDC00)) :: ·)
        else none
      | [] => none
    else if 0xDC00 ≤ unit && unit < 0xE000 then none
    else (joinUnits? rest).map (Char.ofNat unit :: ·)

/-- A quoted text whose opening quote has been read. -/
def readText? (text : List Char) : Option (String × List Char) := do
  let (units, tail) ← readUnits? text
  let characters ← joinUnits? units
  return (String.ofList characters, tail)

/-- The whole part of a number: zero alone or digits that do not start with zero. -/
def readWhole? (text : List Char) : Option (List Char × List Char) :=
  match text with
  | '0' :: rest => if (rest.head?.map isDecimal).getD false then none else some (['0'], rest)
  | c :: _ =>
    if isDecimal c then some (text.takeWhile isDecimal, text.dropWhile isDecimal) else none
  | [] => none

/-- The digits behind the point, if there is a point. -/
def readFraction? (text : List Char) : Option (Option (List Char) × List Char) :=
  match text with
  | '.' :: rest =>
    let digits := rest.takeWhile isDecimal
    if digits.isEmpty then none else some (some digits, rest.dropWhile isDecimal)
  | _ => some (none, text)

/-- The exponent, if there is one. -/
def readExponent? (text : List Char) : Option (Option Int × List Char) :=
  match text with
  | c :: rest =>
    if c == 'e' || c == 'E' then
      let (negative, body) := Number.signed rest
      let digits := body.takeWhile isDecimal
      if digits.isEmpty then none
      else
        let value := Int.ofNat (decimalValue digits)
        some (some (if negative then -value else value), body.dropWhile isDecimal)
    else some (none, text)
  | [] => some (none, [])

/-- A number without its sign. Whole numbers that are not to be kept are read as doubles. -/
def readMagnitude? (keeps : Int → Bool) (negative : Bool) (text : List Char) :
    Option (Json × List Char) := do
  let (whole, text) ← readWhole? text
  let (fraction, text) ← readFraction? text
  let (exponent, text) ← readExponent? text
  let value := Int.ofNat (decimalValue whole)
  let value := if negative then -value else value
  if fraction.isNone && exponent.isNone && keeps value then
    return (.int value, text)
  else
    let digits := whole ++ fraction.getD []
    let leading := digits.dropWhile (· == '0')
    let places := (fraction.getD []).length
    let x := nearestDouble (decimalValue digits) leading.length (exponent.getD 0 - places)
    if x.isInf then none else return (.real (if negative then -x else x), text)

mutual

/-- A value at the start of the text. The fuel bounds the parts that are read. -/
def readValue? (keeps : Int → Bool) (fuel depth : Nat) (text : List Char) :
    Option (Json × List Char) :=
  match fuel with
  | 0 => none
  | fuel + 1 =>
    match text with
    | 'n' :: 'u' :: 'l' :: 'l' :: rest => some (.null, rest)
    | 't' :: 'r' :: 'u' :: 'e' :: rest => some (.bool true, rest)
    | 'f' :: 'a' :: 'l' :: 's' :: 'e' :: rest => some (.bool false, rest)
    | '"' :: rest => (readText? rest).map fun (value, tail) => (.str value, tail)
    | '-' :: rest => readMagnitude? keeps true rest
    | '[' :: rest =>
      match depth with
      | 0 => none
      | depth + 1 =>
        match skipSpace rest with
        | ']' :: tail => some (.arr [], tail)
        | body => (readItems? keeps fuel depth body).map fun (items, tail) => (.arr items, tail)
    | '\x7b' :: rest =>
      match depth with
      | 0 => none
      | depth + 1 =>
        match skipSpace rest with
        | '\x7d' :: tail => some (.obj [], tail)
        | body =>
          (readMembers? keeps fuel depth body).map fun (members, tail) =>
            (.obj (mergeMembers members), tail)
    | _ => readMagnitude? keeps false text

/-- The items of a list up to its closing bracket. -/
def readItems? (keeps : Int → Bool) (fuel depth : Nat) (text : List Char) :
    Option (List Json × List Char) :=
  match fuel with
  | 0 => none
  | fuel + 1 =>
    match readValue? keeps fuel depth text with
    | none => none
    | some (item, rest) =>
      match skipSpace rest with
      | ']' :: tail => some ([item], tail)
      | ',' :: more =>
        (readItems? keeps fuel depth (skipSpace more)).map fun (items, tail) =>
          (item :: items, tail)
      | _ => none

/-- The members of an object up to its closing brace, repeated names included. -/
def readMembers? (keeps : Int → Bool) (fuel depth : Nat) (text : List Char) :
    Option (List (String × Json) × List Char) :=
  match fuel with
  | 0 => none
  | fuel + 1 =>
    match text with
    | '"' :: rest =>
      match readText? rest with
      | none => none
      | some (name, rest) =>
        match skipSpace rest with
        | ':' :: rest =>
          match readValue? keeps fuel depth (skipSpace rest) with
          | none => none
          | some (value, rest) =>
            match skipSpace rest with
            | '\x7d' :: tail => some ([(name, value)], tail)
            | ',' :: more =>
              (readMembers? keeps fuel depth (skipSpace more)).map fun (members, tail) =>
                ((name, value) :: members, tail)
            | _ => none
        | _ => none
    | _ => none

end

/-- The document a text holds, if it holds exactly one. -/
def readWith? (keeps : Int → Bool) (text : String) : Option Json :=
  let characters := text.toList
  let fuel := 2 * characters.length + 1
  match readValue? keeps fuel (readDepthLimit - 1) (skipSpace characters) with
  | some (value, rest) => if (skipSpace rest).isEmpty then some value else none
  | none => none

/-- The document a text holds; a whole number outside 64 bits is read as a double. -/
def read? (text : String) : Option Json := readWith? fitsWord text

/-- The document a text holds, with all whole numbers as they are. -/
def readExact? (text : String) : Option Json := readWith? (fun _ => true) text

end WarehouseImport.Json
