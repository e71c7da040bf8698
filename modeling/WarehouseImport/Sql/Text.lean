/-!
# Statement text

The text of a statement is a list of pieces: plain text and quoted names. A name stands between
backquotes, with a backslash in front of every backquote and backslash in it. `unquote?` reads a
quoted name back; it ends at the first backquote that no backslash takes.
-/

namespace WarehouseImport.Sql

/-- The mark around a quoted name. -/
def backquote : Char := '\x60'

/-- A character of a name inside its quotes. -/
def escapeChar (c : Char) : List Char :=
  if c = '\\' ∨ c = backquote then ['\\', c] else [c]

/-- A name in its quotes. -/
def quoteChars (name : List Char) : List Char :=
  backquote :: name.flatMap escapeChar ++ [backquote]

/-- A name in its quotes. -/
def quoteName (name : String) : String := String.ofList (quoteChars name.toList)

/-- The rest of a name up to the closing quote, and the text behind it. -/
def unquoteRest? : List Char → Option (List Char × List Char)
  | [] => none
  | '\\' :: c :: rest => (unquoteRest? rest).map fun (name, tail) => (c :: name, tail)
  | ['\\'] => none
  | c :: rest =>
    if c = backquote then some ([], rest)
    else (unquoteRest? rest).map fun (name, tail) => (c :: name, tail)

/-- The name that a quoted name at the start of a text spells, and the text behind it. -/
def unquote? : List Char → Option (List Char × List Char)
  | c :: rest => if c = backquote then unquoteRest? rest else none
  | [] => none

/-- A quoted name ends where it was closed, whatever follows, and spells the name. -/
theorem unquote?_quoteChars (name rest : List Char) :
    unquote? (quoteChars name ++ rest) = some (name, rest) := by
  suffices h : unquoteRest? (name.flatMap escapeChar ++ backquote :: rest) = some (name, rest) by
    simpa [quoteChars, unquote?] using h
  induction name with
  | nil => simp [unquoteRest?, backquote]
  | cons c name ih =>
    by_cases h : c = '\\' ∨ c = backquote
    · simp [escapeChar, h, unquoteRest?, ih]
    · have h' : c ≠ '\\' ∧ c ≠ backquote := not_or.mp h
      simp [escapeChar, h', unquoteRest?, ih]

/-- A piece of a statement: plain text or a quoted name. -/
inductive Piece where
  | text (content : String)
  | name (content : String)
  deriving DecidableEq, Repr

/-- A piece as it is sent. -/
def Piece.render : Piece → String
  | text content => content
  | name content => quoteName content

end WarehouseImport.Sql

namespace WarehouseImport

/-- The text of a statement in pieces. -/
abbrev SqlText := List Sql.Piece

namespace SqlText

open WarehouseImport.Sql

/-- The text as it is sent. -/
def render (sql : SqlText) : String := String.join (sql.map Piece.render)

/-- Plain text. -/
def plain (content : String) : SqlText := [.text content]

/-- The plain pieces; what is left when the quoted names are taken out. -/
def outside (sql : SqlText) : List String :=
  sql.filterMap fun
    | .text content => some content
    | .name _ => none

/-- The quoted names in order. -/
def names (sql : SqlText) : List String :=
  sql.filterMap fun
    | .text _ => none
    | .name content => some content

/-- The plain pieces of two texts one after the other. -/
@[simp]
theorem outside_append (left right : SqlText) :
    outside (left ++ right) = outside left ++ outside right := by
  simp [outside]

/-- The quoted names of two texts one after the other. -/
@[simp]
theorem names_append (left right : SqlText) :
    names (left ++ right) = names left ++ names right := by
  simp [names]

/-- Pieces with a separator between them. -/
def joined (separator : String) : List SqlText → SqlText
  | [] => []
  | [sql] => sql
  | sql :: rest => sql ++ .text separator :: joined separator rest

/-- Quoted names joined by commas. -/
def nameList (names : List String) : SqlText := joined ", " (names.map fun name => [.name name])

end SqlText

end WarehouseImport
