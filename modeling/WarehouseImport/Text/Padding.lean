/-!
# Padding

Texts filled up to a width with blanks. A text that is wider stays as it is.
-/

namespace WarehouseImport.Text

/-- The blanks that a text lacks to a width. -/
def blanksTo (width : Nat) (text : String) : String :=
  String.ofList (List.replicate (width - text.length) ' ')

/-- A text with blanks behind it up to a width. -/
def padRight (width : Nat) (text : String) : String := text ++ blanksTo width text

/-- A text with blanks in front of it up to a width. -/
def padLeft (width : Nat) (text : String) : String := blanksTo width text ++ text

end WarehouseImport.Text
