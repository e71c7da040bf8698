import WarehouseImport.Name.Keyed
import WarehouseImport.Text.Blank

/-!
# Environment files

An environment file holds one assignment a line: a name, an equals sign and a value that may stand
in quotes. A line may start with `export` and end with a comment. A name without an equals sign
has no value, and a line of any other form is passed over. Values may refer to variables with a
dollar sign and braces, and may add a default behind the name.
-/

namespace WarehouseImport

open WarehouseImport.Text

/-- The variables of a process, each once. -/
abbrev Environment := List (String × String)

namespace EnvironmentFile

/-- Blank characters other than the ends of a line. -/
def isInlineBlank (c : Char) : Bool := isBlank c && c != '\n' && c != '\r'

/-- Whether a character ends a line. -/
def isLineEnd (c : Char) : Bool := c == '\n' || c == '\r'

/-- A text with every line ended by a line feed alone. -/
def withLineFeeds : List Char → List Char
  | '\r' :: '\n' :: rest => '\n' :: withLineFeeds rest
  | '\r' :: rest => '\n' :: withLineFeeds rest
  | c :: rest => c :: withLineFeeds rest
  | [] => []

/-- The text behind the rest of a line. -/
def skipLine (text : List Char) : List Char :=
  match text.dropWhile fun c => !isLineEnd c with
  | _ :: rest => rest
  | [] => []

/-- The text behind the word that marks an exported variable, if it stands there. -/
def skipExport (text : List Char) : List Char :=
  match text with
  | 'e' :: 'x' :: 'p' :: 'o' :: 'r' :: 't' :: c :: rest =>
    if isInlineBlank c then rest.dropWhile isInlineBlank else text
  | _ => text

/-- A text up to the closing mark, marks behind a backslash included. A backslash before the last
mark of all belongs to the text. -/
def quotedBody (mark : Char) : List Char → Option (List Char × List Char)
  | [] => none
  | '\\' :: c :: rest =>
    if c = mark then
      match quotedBody mark rest with
      | some (body, tail) => some ('\\' :: c :: body, tail)
      | none => some (['\\'], rest)
    else
      match quotedBody mark (c :: rest) with
      | some (body, tail) => some ('\\' :: body, tail)
      | none => none
  | c :: rest =>
    if c = mark then some ([], rest)
    else (quotedBody mark rest).map fun (body, tail) => (c :: body, tail)

/-- A character behind a backslash in a double quoted value. -/
def controlOf? (c : Char) : Option Char :=
  match c with
  | '\\' => some '\\'
  | '\x27' => some '\x27'
  | '"' => some '"'
  | 'a' => some '\x07'
  | 'b' => some '\x08'
  | 'f' => some '\x0c'
  | 'n' => some '\n'
  | 'r' => some '\r'
  | 't' => some '\t'
  | 'v' => some '\x0b'
  | _ => none

/-- A character behind a backslash in a single quoted value. -/
def literalOf? (c : Char) : Option Char :=
  if c = '\\' ∨ c = '\x27' then some c else none

/-- A quoted value with its escapes replaced; an unknown escape stays as it is. -/
def unescape (escapeOf? : Char → Option Char) : List Char → List Char
  | '\\' :: c :: rest =>
    match escapeOf? c with
    | some replaced => replaced :: unescape escapeOf? rest
    | none => '\\' :: unescape escapeOf? (c :: rest)
  | c :: rest => c :: unescape escapeOf? rest
  | [] => []

/-- A value without a comment, which starts at the first blank run before a number sign. -/
def withoutComment : List Char → List Char
  | [] => []
  | c :: rest =>
    if isBlank c && (rest.dropWhile isBlank).head? == some '#' then []
    else c :: withoutComment rest

/-- A value behind its equals sign, and the text behind it. -/
def readValue? (text : List Char) : Option (List Char × List Char) :=
  match text with
  | '\x27' :: rest =>
    (quotedBody '\x27' rest).map fun (body, tail) => (unescape literalOf? body, tail)
  | '"' :: rest => (quotedBody '"' rest).map fun (body, tail) => (unescape controlOf? body, tail)
  | _ =>
    let line := text.takeWhile fun c => !isLineEnd c
    let value := ((withoutComment line).reverse.dropWhile isBlank).reverse
    some (value, text.dropWhile fun c => !isLineEnd c)

/-- A name and the text behind it, or none at a comment. The outer failure marks a line of another
form, with the text from which it is passed over. -/
def readKey? (text : List Char) : Except (List Char) (Option (List Char) × List Char) :=
  match text with
  | '#' :: _ => .ok (none, text)
  | '\x27' :: rest =>
    let name := rest.takeWhile (· != '\x27')
    match rest.dropWhile (· != '\x27') with
    | _ :: tail => if name.isEmpty then .error text else .ok (some name, tail)
    | [] => .error text
  | _ =>
    let inName := fun c => c != '=' && c != '#' && !isBlank c
    let name := text.takeWhile inName
    if name.isEmpty then .error text else .ok (some name, text.dropWhile inName)

/-- One line of a file, when blank lines before it have been passed over: a name with its value,
if it has one, and the text behind the line. -/
def readLine (text : List Char) :
    Except (List Char) (Option (List Char × Option (List Char)) × List Char) := do
  let (name, text) ← readKey? (skipExport text)
  let text := text.dropWhile isInlineBlank
  let (value, text) ←
    match text with
    | '=' :: rest =>
      let rest := rest.dropWhile isInlineBlank
      match readValue? rest with
      | some (value, tail) => .ok (some value, tail)
      | none => .error rest
    | _ => .ok (none, text)
  let text :=
    match text.dropWhile isInlineBlank with
    | '#' :: rest => rest.dropWhile fun c => !isLineEnd c
    | _ => text
  match text.dropWhile isInlineBlank with
  | [] => return (name.map fun name => (name, value), [])
  | c :: rest =>
    if isLineEnd c then return (name.map fun name => (name, value), rest)
    else .error text

/-- The assignments of a text; each line read is one unit of fuel. -/
def readLines : Nat → List Char → List (List Char × Option (List Char))
  | 0, _ => []
  | fuel + 1, text =>
    let text := text.dropWhile isBlank
    if text.isEmpty then []
    else
      match readLine text with
      | .ok (some assignment, rest) => assignment :: readLines fuel rest
      | .ok (none, rest) => readLines fuel rest
      | .error rest => readLines fuel (skipLine rest)

/-- The assignments of a file in order, repeated names included. -/
def read (content : String) : List (String × Option String) :=
  let text := withLineFeeds content.toList
  (readLines (text.length + 1) text).map fun (name, value) =>
    (String.ofList name, value.map String.ofList)

/-- The name and the text to fall back on of a reference whose opening brace has been read. -/
def reference? (text : List Char) : Option (List Char × List Char × List Char) :=
  let name := text.takeWhile fun c => c != '\x7d' && c != ':'
  match text.dropWhile fun c => c != '\x7d' && c != ':' with
  | '\x7d' :: rest => some (name, [], rest)
  | ':' :: '-' :: more =>
    match more.dropWhile (· != '\x7d') with
    | _ :: rest => some (name, more.takeWhile (· != '\x7d'), rest)
    | [] => none
  | _ => none

/-- A value with its references replaced; the fuel bounds the characters that are read. -/
def expand (find? : String → Option String) : Nat → List Char → List Char
  | 0, text => text
  | _ + 1, [] => []
  | fuel + 1, '$' :: '\x7b' :: rest =>
    match reference? rest with
    | some (name, fallback, tail) =>
      ((find? (String.ofList name)).map String.toList).getD fallback ++ expand find? fuel tail
    | none => '$' :: expand find? fuel ('\x7b' :: rest)
  | fuel + 1, c :: rest => c :: expand find? fuel rest

/-- The values of a file with all references replaced. The environment wins over the file, and a
later assignment sees the earlier ones. -/
def resolve (environment : Environment) (assignments : List (String × Option String)) :
    List (String × Option String) :=
  assignments.foldl (fun values (name, value) =>
    let find? := fun wanted =>
      match environment.lookup wanted with
      | some found => some found
      | none => (values.lookup wanted).map (·.getD "")
    Keyed.assign name (value.map fun text =>
      String.ofList (expand find? (text.length + 1) text.toList)) values) []

end EnvironmentFile

namespace Environment

/-- The environment after a file was loaded into it, and whether the file names any variable.
Variables that exist already keep their values. -/
def load (environment : Environment) (content : String) : Bool × Environment :=
  let values := EnvironmentFile.resolve environment (EnvironmentFile.read content)
  (!values.isEmpty,
    values.foldl (fun environment (name, value) =>
      match value with
      | some text =>
        if (environment.lookup name).isSome then environment else environment ++ [(name, text)]
      | none => environment) environment)

/-- The variable that names the home of the installation. -/
def homeVariable : String := "BQDRIVER_HOME"

/-- The place of the environment file: under the home, if there is one. -/
def filePath? (environment : Environment) : Option String :=
  match environment.lookup homeVariable with
  | some home =>
    if home.isEmpty then none
    else some (home ++ (if home.endsWith "/" then "" else "/") ++ "conf/bqdriver.env")
  | none => none

end Environment

end WarehouseImport
