import WarehouseImport.Text.CaseTable

/-!
# Case of texts

Lower, upper and capitalised forms of a text. A letter may become several letters, and the Greek
capital sigma becomes the final form where a word ends. Names are compared in lower case, see
`SameName`.
-/

namespace WarehouseImport.Text

/-- The characters that stand for one character under a table of special forms and a table of
runs. -/
def caseImage (special : List (Nat × List Nat)) (runs : List CaseRun) (c : Char) : List Char :=
  match special.lookup c.toNat with
  | some codes => codes.map Char.ofNat
  | none =>
    match CaseRun.image? runs c.toNat with
    | some code => [Char.ofNat code]
    | none => [c]

/-- The lower case of a character, a capital sigma's surroundings left aside. -/
def lowerChar (c : Char) : List Char :=
  if c.toNat < 128 then [c.toLower] else caseImage lowerSpecial lowerRuns c

/-- The upper case of a character. -/
def upperChar (c : Char) : List Char :=
  if c.toNat < 128 then [c.toUpper] else caseImage upperSpecial upperRuns c

/-- The form a character takes at the start of a capitalised word. -/
def titleChar (c : Char) : List Char :=
  if c.toNat < 128 then [c.toUpper]
  else if (titleSpecial.lookup c.toNat).isSome || (CaseRun.image? titleRuns c.toNat).isSome then
    caseImage titleSpecial titleRuns c
  else upperChar c

/-- Whether a character is a letter that has case. -/
def isCased (c : Char) : Bool :=
  if c.toNat < 128 then c.isAlpha else casedRanges.holds c.toNat

/-- Whether the search for a neighbouring letter passes over a character. -/
def isCaseIgnorable (c : Char) : Bool :=
  if c.toNat < 128 then [0x27, 0x2E, 0x3A, 0x5E, 0x60].contains c.toNat
  else caseIgnorableRanges.holds c.toNat

/-- Whether the first character that is not passed over is a cased letter. -/
def startsCased (text : List Char) : Bool :=
  ((text.dropWhile isCaseIgnorable).head?.map isCased).getD false

/-- The lower case of a text that follows the reversed text `before`. -/
def lowerAfter (before : List Char) : List Char → List Char
  | [] => []
  | c :: rest =>
    let image :=
      if c.toNat = 0x3A3 then
        [if startsCased before && !startsCased rest then 'ς' else 'σ']
      else lowerChar c
    image ++ lowerAfter (c :: before) rest

/-- A text in lower case. -/
def lower (text : String) : String := String.ofList (lowerAfter [] text.toList)

/-- A text in upper case. -/
def upper (text : String) : String := String.ofList (text.toList.flatMap upperChar)

/-- A text with its first letter raised and all others lowered. -/
def capitalize (text : String) : String :=
  match text.toList with
  | [] => ""
  | c :: rest => String.ofList (titleChar c ++ lowerAfter [c] rest)

/-- The camel case name of a name in words joined by underscores: every word but the first is
capitalised and the underscores go. -/
def camelCase (name : String) : String :=
  match name.toList.splitOn '_' with
  | [] => ""
  | first :: rest =>
    String.ofList first ++ String.join (rest.map fun word => capitalize (String.ofList word))

/-- Whether a word has letters, and small ones only. -/
def isSmallWord (word : List Char) : Bool := !word.isEmpty && word.all Char.isLower

/-- Whether a name is made of small words that single underscores join. -/
def isPlain (name : String) : Bool := (name.toList.splitOn '_').all isSmallWord

/-- Two names are the same when they agree in lower case. -/
def SameName (left right : String) : Prop := lower left = lower right

instance (left right : String) : Decidable (SameName left right) :=
  inferInstanceAs (Decidable (lower left = lower right))

end WarehouseImport.Text
