import WarehouseImport.Text.Blank
import WarehouseImport.Text.Digit

/-!
# Numerals

The number a text writes. Blanks around a numeral are passed over, the separator controls 0x1C to
0x1F excepted; single underscores may stand between digits, and digits of every script count.
Whole numbers have at most 4300 digits.
-/

namespace WarehouseImport.Number

open WarehouseImport.Text

/-- The most digits a whole number may be written with. -/
def digitLimit : Nat := 4300

/-- Whether a character is passed over around a numeral. -/
def isNumeralBlank (c : Char) : Bool :=
  isBlank c && !(28 ≤ c.toNat && c.toNat ≤ 31)

/-- The digits that go on behind a digit and the text behind them. A single underscore may stand
before a digit; one that no digit follows is refused. -/
def moreDigits? : List Char → Option (List Char × List Char)
  | [] => some ([], [])
  | '_' :: c :: rest =>
    if isDigit c then (moreDigits? rest).map fun (digits, tail) => (c :: digits, tail) else none
  | ['_'] => none
  | c :: rest =>
    if isDigit c then (moreDigits? rest).map fun (digits, tail) => (c :: digits, tail)
    else some ([], c :: rest)

/-- A non-empty run of digits and the text behind it. -/
def digitRun? : List Char → Option (List Char × List Char)
  | [] => none
  | c :: rest =>
    if isDigit c then (moreDigits? rest).map fun (digits, tail) => (c :: digits, tail) else none

/-- The sign in front of a numeral, true for a minus, and the text behind it. -/
def signed : List Char → Bool × List Char
  | '-' :: rest => (true, rest)
  | '+' :: rest => (false, rest)
  | text => (false, text)

/-- The whole number a text writes. -/
def wholeNumber? (text : String) : Option Int :=
  let (negative, body) := signed (trimWhere isNumeralBlank text.toList)
  match digitRun? body with
  | some (digits, []) =>
    if digits.length ≤ digitLimit then
      let value : Int := ofDigits digits
      some (if negative then -value else value)
    else none
  | _ => none

/-- The double nearest to `digits * 10 ^ exponent`. Exponents far beyond the range of doubles are
settled without forming the power. -/
def nearestDouble (digits : Nat) (length : Nat) (exponent : Int) : Float :=
  if digits = 0 then 0.0
  else if exponent + length > 400 then 1.0 / 0.0
  else if exponent + length < -400 then 0.0
  else if 0 ≤ exponent then Float.ofScientific digits false exponent.toNat
  else Float.ofScientific digits true (-exponent).toNat

/-- The double nearest to a whole number. -/
def ofWhole (number : Int) : Float :=
  let x := nearestDouble number.natAbs (Nat.toDigits 10 number.natAbs).length 0
  if number < 0 then -x else x

/-- The names of the values that are no numbers. -/
def namedDouble? (body : List Char) : Option Float :=
  let name := String.ofList (body.map Char.toLower)
  if name = "inf" || name = "infinity" then some (1.0 / 0.0)
  else if name = "nan" then some (0.0 / 0.0)
  else none

/-- An exponent part, empty or a mark with a signed run of digits. -/
def exponentPart? : List Char → Option Int
  | [] => some 0
  | c :: rest =>
    if c == 'e' || c == 'E' then
      let (negative, body) := signed rest
      match digitRun? body with
      | some (digits, []) =>
        let value : Int := ofDigits digits
        some (if negative then -value else value)
      | _ => none
    else none

/-- The digits before and after the point of a decimal, of which one side may be empty, and the
text behind them. -/
def pointedDigits? (body : List Char) : Option (List Char × List Char × List Char) :=
  match body with
  | '.' :: rest => (digitRun? rest).map fun (fraction, tail) => ([], fraction, tail)
  | _ =>
    match digitRun? body with
    | none => none
    | some (whole, '.' :: rest) =>
      match digitRun? rest with
      | some (fraction, tail) => some (whole, fraction, tail)
      | none =>
        if (rest.head?.map fun c => isDigit c || c == '_').getD false then none
        else some (whole, [], rest)
    | some (whole, tail) => some (whole, [], tail)

/-- The double a text writes: a decimal, an infinity or the value that is no number. -/
def decimal? (text : String) : Option Float :=
  let (negative, body) := signed (trimWhere isNumeralBlank text.toList)
  let magnitude? :=
    match namedDouble? body with
    | some x => some x
    | none =>
      match pointedDigits? body with
      | none => none
      | some (whole, fraction, tail) =>
        (exponentPart? tail).map fun exponent =>
          let digits := whole ++ fraction
          let leading := digits.dropWhile fun c => digitValue? c == some 0
          nearestDouble (ofDigits digits) leading.length (exponent - fraction.length)
  magnitude?.map fun x => if negative then -x else x

end WarehouseImport.Number
