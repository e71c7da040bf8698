/-!
# Summaries

The one-line summary of a value: its named parts in parentheses, sorted by name.
-/

namespace WarehouseImport.Text

/-- Named parts in parentheses. The parts are given in the order of their names. -/
def summary (parts : List (String × String)) : String :=
  "(" ++ String.intercalate ", " (parts.map fun part => part.1 ++ "=" ++ part.2) ++ ")"

end WarehouseImport.Text
