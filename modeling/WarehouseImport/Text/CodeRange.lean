/-!
# Ranges of code points

Character classes beyond ASCII are given as tables of inclusive ranges, in increasing order.
A class is then an ASCII test together with such a table.
-/

namespace WarehouseImport.Text

/-- Inclusive ranges of code points, in increasing order. -/
abbrev CodeRanges := List (Nat × Nat)

/-- Whether some range holds the code point. -/
def CodeRanges.holds (ranges : CodeRanges) (code : Nat) : Bool :=
  ranges.any fun range => range.1 ≤ code && code ≤ range.2

end WarehouseImport.Text
