import WarehouseImport.Json.Printer
import WarehouseImport.Json.Reader

/-!
# Quoted texts read back

A quoted text is read as the text that it was made of, whatever characters it has and whatever text
follows. Quotes, backslashes and controls come back out of their escapes, and every other character
stands for itself.
-/

namespace WarehouseImport.Json

/-- A hexadecimal digit is read as the number that it was written for. -/
theorem hexValue?_hexDigit : ∀ n < 16, hexValue? (hexDigit n) = some n := by
  decide

/-- A character with an escape letter is the one that the letter stands for. -/
theorem unescapeLetter?_of_escapeLetter? {c letter : Char} (h : escapeLetter? c = some letter) :
    unescapeLetter? letter = some c.toNat ∧ letter ≠ 'u' := by
  unfold escapeLetter? at h
  split at h
  case h_6 =>
    split at h
    · next hcode => cases h; exact ⟨by rw [hcode]; rfl, by decide⟩
    · split at h
      · next hcode => cases h; exact ⟨by rw [hcode]; rfl, by decide⟩
      · cases h
  all_goals cases h; decide

/-- An escape letter is read as the unit that it stands for. -/
theorem readUnits?_letter {letter : Char} (hletter : letter ≠ 'u') {unit : Nat}
    (hunit : unescapeLetter? letter = some unit) (rest : List Char) :
    readUnits? ('\\' :: letter :: rest) =
      (readUnits? rest).map fun read => (unit :: read.1, read.2) := by
  rw [readUnits?]
  · rw [hunit]
    cases readUnits? rest <;> rfl
  · intro a b c d tail hcontrol _
    exact hletter hcontrol

/-- A control is read as the unit that its digits write. -/
theorem readUnits?_control {code : Nat} (hcode : code < 32) (rest : List Char) :
    readUnits? ('\\' :: 'u' :: '0' :: '0' :: hexDigit (code / 16) :: hexDigit (code % 16) :: rest) =
      (readUnits? rest).map fun read => (code :: read.1, read.2) := by
  have hzero : hexValue? '0' = some 0 := rfl
  rw [readUnits?, hzero, hexValue?_hexDigit _ (by omega), hexValue?_hexDigit _ (by omega)]
  have hvalue : ((0 * 16 + 0) * 16 + code / 16) * 16 + code % 16 = code := by omega
  cases readUnits? rest with
  | none => rfl
  | some read =>
    show some (_ :: read.1, read.2) = some (code :: read.1, read.2)
    rw [hvalue]

/-- A character that needs no escape is read as itself. -/
theorem readUnits?_plain {c : Char} (hletter : escapeLetter? c = none) (hcode : ¬ c.toNat < 32)
    (rest : List Char) :
    readUnits? (c :: rest) = (readUnits? rest).map fun read => (c.toNat :: read.1, read.2) := by
  have hquote : c ≠ '"' := by rintro rfl; cases hletter
  have hbackslash : c ≠ '\\' := by rintro rfl; cases hletter
  rw [readUnits?]
  · rw [if_neg hcode]
  · exact hquote
  · intro a b c' d tail h _
    exact hbackslash h
  · intro letter tail h _
    exact hbackslash h
  · intro h _
    exact hbackslash h

/-- A character is read as itself, escaped or not. -/
theorem readUnits?_escapeChar (c : Char) (rest : List Char) :
    readUnits? (escapeChar c ++ rest) =
      (readUnits? rest).map fun read => (c.toNat :: read.1, read.2) := by
  unfold escapeChar
  cases hletter : escapeLetter? c with
  | some letter =>
    obtain ⟨hunit, hother⟩ := unescapeLetter?_of_escapeLetter? hletter
    exact readUnits?_letter hother hunit rest
  | none =>
    by_cases hcode : c.toNat < 32
    · simp only [if_pos hcode]
      exact readUnits?_control hcode rest
    · simp only [if_neg hcode]
      exact readUnits?_plain hletter hcode rest

/-- The characters of a text are read up to the quote behind them. -/
theorem readUnits?_flatMap (text rest : List Char) :
    readUnits? (text.flatMap escapeChar ++ '"' :: rest) = some (text.map Char.toNat, rest) := by
  induction text with
  | nil => rfl
  | cons c text ih =>
    rw [List.flatMap_cons, List.append_assoc, readUnits?_escapeChar, ih]
    rfl

/-- A unit that is no surrogate gives the character of its code. -/
theorem joinUnits?_cons {unit : Nat} (hunit : unit < 0xD800 ∨ 0xDFFF < unit) (rest : List Nat) :
    joinUnits? (unit :: rest) = (joinUnits? rest).map (Char.ofNat unit :: ·) := by
  rw [joinUnits?.eq_def]
  simp only [Bool.and_eq_true, decide_eq_true_eq]
  rw [if_neg (by omega), if_neg (by omega)]

/-- The code points of characters are no surrogates, so each gives its character. -/
theorem joinUnits?_toNat (text : List Char) : joinUnits? (text.map Char.toNat) = some text := by
  induction text with
  | nil => rfl
  | cons c text ih =>
    have hvalid : c.toNat < 0xD800 ∨ 0xDFFF < c.toNat ∧ c.toNat < 0x110000 := c.valid
    rw [List.map_cons, joinUnits?_cons (by omega), ih, Option.map_some, Char.ofNat_toNat]

/-- A quoted text is read as the text that it was made of. -/
theorem readText?_quote (text : String) (rest : List Char) :
    ∃ tail, quote text ++ rest = '"' :: tail ∧ readText? tail = some (text, rest) := by
  refine ⟨text.toList.flatMap escapeChar ++ '"' :: rest, by simp [quote], ?_⟩
  rw [readText?, readUnits?_flatMap]
  show (do
    let characters ← joinUnits? (text.toList.map Char.toNat)
    return (String.ofList characters, rest)) = some (text, rest)
  rw [joinUnits?_toNat]
  show some (String.ofList text.toList, rest) = some (text, rest)
  rw [String.ofList_toList]

end WarehouseImport.Json
