import WarehouseImport.Text.CodeRange

/-!
# Blank characters

The characters that are trimmed from both ends of a setting, a number or a flag: the Unicode
white space characters together with the four separator controls 0x1C to 0x1F.
-/

namespace WarehouseImport.Text

/-- Blank characters beyond ASCII. -/
def blankRanges : CodeRanges := [
  (0x85, 0x85), (0xA0, 0xA0), (0x1680, 0x1680), (0x2000, 0x200A), (0x2028, 0x2029),
  (0x202F, 0x202F), (0x205F, 0x205F), (0x3000, 0x3000)]

/-- Whether a character is blank. -/
def isBlank (c : Char) : Bool :=
  (9 ≤ c.toNat && c.toNat ≤ 13) || (28 ≤ c.toNat && c.toNat ≤ 32) ||
    (128 ≤ c.toNat && blankRanges.holds c.toNat)

/-- A text without the characters of a class at its two ends. -/
def trimWhere (strip : Char → Bool) (text : List Char) : List Char :=
  ((text.dropWhile strip).reverse.dropWhile strip).reverse

/-- A text without the blank characters at its two ends. -/
def trim (text : String) : String := String.ofList (trimWhere isBlank text.toList)

end WarehouseImport.Text
