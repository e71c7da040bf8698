/-!
# The terminal

Text for the user goes to a terminal, which may be lost after some number of lines: from then on
nothing can be written.
-/

namespace WarehouseImport

/-- A terminal with the text written to it. `remaining` is the number of lines it still takes, if
that is bounded. -/
structure Terminal where
  text : String := ""
  remaining : Option Nat := none
  deriving DecidableEq, Repr

namespace Terminal

/-- What is said about a terminal that is lost. -/
def lostText : String := "stdout lost"

/-- The terminal after a line, unless it is lost. -/
def write? (terminal : Terminal) (line : String) : Option Terminal :=
  match terminal.remaining with
  | none => some { terminal with text := terminal.text ++ line ++ "\n" }
  | some 0 => none
  | some (n + 1) => some { text := terminal.text ++ line ++ "\n", remaining := some n }

end Terminal

end WarehouseImport
