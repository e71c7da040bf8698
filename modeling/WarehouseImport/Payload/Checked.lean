import WarehouseImport.Failure.Basic
import WarehouseImport.Name.Named
import WarehouseImport.Number.Numeral
import WarehouseImport.Text.Case

/-!
# Reading payloads

A payload is an object whose members are checked one by one. Every wrong member is reported, with
the way to it from the outermost value, in the order in which the fields are declared.

Fields are given by their plain names. The payload name of a field is the camel case form of its
plain name: a field is written under it, and found under either name; the payload name wins.
-/

namespace WarehouseImport

/-- The outcome of checking a value: the value, or everything that is wrong with it. -/
inductive Checked (α : Type) where
  | valid (value : α)
  | invalid (issues : List Issue)
  deriving Repr

namespace Checked

variable {α β : Type}

/-- A single issue with the value itself. -/
def issue (kind : IssueKind) : Checked α := .invalid [⟨[], kind⟩]

/-- Transforms the value. -/
def map (f : α → β) : Checked α → Checked β
  | valid value => valid (f value)
  | invalid issues => invalid issues

/-- Joins two outcomes; the issues of both are kept in order. -/
def seq (f : Checked (α → β)) (x : Unit → Checked α) : Checked β :=
  match f, x () with
  | valid f, valid value => valid (f value)
  | invalid issues, valid _ => invalid issues
  | valid _, invalid issues => invalid issues
  | invalid first, invalid second => invalid (first ++ second)

instance : Applicative Checked where
  pure := valid
  map := map
  seq := seq

/-- Checks the value further. -/
def further (x : Checked α) (check : α → Checked β) : Checked β :=
  match x with
  | valid value => check value
  | invalid issues => invalid issues

/-- The outcome at a place inside a larger value. -/
def under (place : String) : Checked α → Checked α
  | valid value => valid value
  | invalid issues =>
    invalid (issues.map fun issue => { issue with location := place :: issue.location })

/-- The outcome as a result that may fail. -/
def result : Checked α → Except Failure α
  | valid value => .ok value
  | invalid issues => .error (.invalidPayload issues)

end Checked

namespace Payload

variable {α : Type}

/-- The values of fields under their plain names, which differ from each other. -/
structure Fields where
  members : List (String × Json)
  plain : (members.map Prod.fst).all Text.isPlain = true := by simp only [List.map]; decide
  distinct : (members.map Prod.fst).Nodup := by simp only [List.map]; decide

/-- An object of fields, each under its payload name. -/
def object (fields : Fields) : Json :=
  .obj (fields.members.map fun field => (Text.camelCase field.1, field.2))

/-- The name that a field was found under, its payload name or else its plain name, and its
value. -/
def find? (document : Json) (name : String) : Option (String × Json) :=
  match document.get? (Text.camelCase name) with
  | some value => some (Text.camelCase name, value)
  | none => (document.get? name).map fun value => (name, value)

/-- A field that must be there. What is wrong with it is told under the name it was found under. -/
def required (document : Json) (name : String) (read : Json → Checked α) : Checked α :=
  match find? document name with
  | some (found, value) => (read value).under found
  | none => (Checked.issue .missing).under (Text.camelCase name)

/-- A field with a value to fall back on. -/
def optional (document : Json) (name : String) (fallback : α) (read : Json → Checked α) :
    Checked α :=
  match find? document name with
  | some (found, value) => (read value).under found
  | none => .valid fallback

/-- An object whose fields are read by `read`. -/
def model (read : Json → Checked α) (document : Json) : Checked α :=
  match document with
  | .obj _ => read document
  | _ => .issue .notModel

/-- A text. -/
def text : Json → Checked String
  | .str content => .valid content
  | _ => .issue .notText

/-- A value that may be null. -/
def nullable (read : Json → Checked α) : Json → Checked (Option α)
  | .null => .valid none
  | value => (read value).map some

/-- The items of a list, each at its place. -/
def items (read : Json → Checked α) (place : Nat) : List Json → Checked (List α)
  | [] => .valid []
  | item :: rest =>
    List.cons <$> (read item).under (toString place) <*> items read (place + 1) rest

/-- A list. -/
def list (read : Json → Checked α) : Json → Checked (List α)
  | .arr values => items read 0 values
  | _ => .issue .notList

/-- The members of an object, each at its name. -/
def members (read : Json → Checked α) : List (String × Json) → Checked (List (String × α))
  | [] => .valid []
  | (name, value) :: rest =>
    (fun value rest => (name, value) :: rest) <$> (read value).under name <*> members read rest

/-- An object of values under names of any kind. -/
def table (read : Json → Checked α) : Json → Checked (List (String × α))
  | .obj values => members read values
  | _ => .issue .notObject

/-- One of a set of names. -/
def named [Named α] : Json → Checked α
  | .str name =>
    match Named.ofName? name with
    | some value => .valid value
    | none => .issue .notMember
  | _ => .issue .notMember

/-- The text without zeros in front that say nothing; none if it does not start like a number. A
zero stays before a point and where there is nothing else. -/
def withoutLeadingZeros? : List Char → Option (List Char)
  | '0' :: rest => go ['0'] rest
  | c :: rest => if c == '-' || ('1' ≤ c && c ≤ '9') then some (c :: rest) else none
  | [] => none
where
  /-- Passes over zeros and underscores behind a zero; `last` is the character before the rest. -/
  go (last : List Char) : List Char → Option (List Char)
    | [] => some last
    | c :: rest =>
      if c == '0' || c == '_' then go [c] rest
      else if '1' ≤ c && c ≤ '9' then some (c :: rest)
      else if c == '.' then some (last ++ c :: rest)
      else none

/-- The text without a point that only zeros follow. -/
def withoutZeroFraction (text : List Char) : List Char :=
  match text.dropWhile (· != '.') with
  | '.' :: c :: zeros =>
    if (c :: zeros).all (· == '0') then text.takeWhile (· != '.') else text
  | _ => text

/-- The text without underscores, each of which must stand between two other characters. -/
def withoutUnderscores? (text : List Char) : Option (List Char) :=
  if text.head? == some '_' then none else go text
where
  /-- The text without underscores behind some character that is none. -/
  go : List Char → Option (List Char)
    | [] => some []
    | ['_'] => none
    | '_' :: '_' :: _ => none
    | c :: rest => (go rest).map fun kept => if c == '_' then kept else c :: kept

/-- Digits without a zero in front of others. -/
def digits? (text : List Char) : Option Nat :=
  if text.isEmpty || !text.all (fun c => '0' ≤ c && c ≤ '9') then none
  else if 1 < text.length && text.head? == some '0' then none
  else some (Text.ofDigits text)

/-- The whole number that a text in a payload writes. -/
def wholeOfText? (text : String) : Option Int := do
  let unsigned ←
    match Text.trimWhere Number.isNumeralBlank text.toList with
    | '+' :: '-' :: _ => none
    | '+' :: rest => some rest
    | rest => some rest
  let stripped ← withoutLeadingZeros? unsigned
  match ← withoutUnderscores? (withoutZeroFraction stripped) with
  | '-' :: magnitude => (digits? magnitude).map fun n => -(Int.ofNat n)
  | magnitude => (digits? magnitude).map Int.ofNat

/-- A whole number; flags, whole doubles and texts that write one count. -/
def whole : Json → Checked Int
  | .int number => .valid number
  | .bool flag => .valid (if flag then 1 else 0)
  | .real number =>
    let double := Number.Double.ofFloat number
    match double.isWhole, double.truncate? with
    | true, some value => .valid value
    | _, _ => .issue .wholePart
  | .str content =>
    match wholeOfText? content with
    | some value => .valid value
    | none => .issue .wholeText
  | _ => .issue .notWhole

/-- A whole number that is not negative. -/
def count (document : Json) : Checked Int :=
  (whole document).further fun value => if value < 0 then .issue .refused else .valid value

/-- The double that a text in a payload writes: a decimal in plain digits with blanks around it, or
one with underscores and no blanks. -/
def decimalOfText? (text : String) : Option Float := do
  let characters := text.toList
  let kept ←
    if characters.contains '_' then withoutUnderscores? characters
    else some (Text.trimWhere Number.isNumeralBlank characters)
  if kept.all fun c => c.toNat < 128 && !Text.isBlank c then Number.decimal? (String.ofList kept)
  else none

/-- A double; flags, whole numbers and texts that write one count. -/
def number : Json → Checked Float
  | .real value => .valid value
  | .int value => .valid (Number.ofWhole value)
  | .bool flag => .valid (if flag then 1.0 else 0.0)
  | .str content =>
    match decimalOfText? content with
    | some value => .valid value
    | none => .issue .numberText
  | _ => .issue .notNumber

end Payload

end WarehouseImport
