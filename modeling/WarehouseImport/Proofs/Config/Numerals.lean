import WarehouseImport.Config.Setting
import WarehouseImport.Proofs.Results

/-!
# Numbers that are given in digits

Whether a text writes a positive number is decided by its digits with all blanks around them left
aside. The number is then read as a numeral, around which fewer blanks are passed over. Where both
succeed they see the same digits, so a number that is accepted is positive.
-/

namespace WarehouseImport

open WarehouseImport.Text

namespace Text

/-- No digit is blank. -/
theorem isBlank_of_isDigit {c : Char} (h : isDigit c = true) : isBlank c = false := by
  have hapart : ∀ first ∈ digitZeros, 128 ≤ first ∧
      ∀ range ∈ blankRanges, range.2 < first ∨ first + 10 ≤ range.1 := by decide
  unfold isDigit digitValue? at h
  split at h
  · next hascii =>
    have hlow : 48 ≤ c.toNat ∧ c.toNat ≤ 57 := by
      simpa [Char.le_def, UInt32.le_iff_toNat_le] using hascii
    simp only [isBlank, Bool.or_eq_false_iff, Bool.and_eq_false_iff, decide_eq_false_iff_not]
    omega
  · split at h
    · cases h
    · next hhigh =>
      simp only [Option.isSome_map, List.isSome_find?, List.any_eq_true, Bool.and_eq_true,
        decide_eq_true_eq] at h
      obtain ⟨first, hmem, hfrom, hto⟩ := h
      obtain ⟨-, hranges⟩ := hapart first hmem
      have hnone : blankRanges.holds c.toNat = false := by
        simp only [CodeRanges.holds, List.any_eq_false, Bool.and_eq_true, decide_eq_true_eq]
        intro range hrange
        have := hranges range hrange
        omega
      simp only [isBlank, hnone, Bool.and_false, Bool.or_false, Bool.or_eq_false_iff,
        Bool.and_eq_false_iff, decide_eq_false_iff_not]
      omega

/-- A text is what is left of it between two runs of the characters that are stripped. -/
theorem exists_trimWhere (strip : Char → Bool) (text : List Char) :
    ∃ before behind, text = before ++ trimWhere strip text ++ behind ∧
      (∀ c ∈ before, strip c = true) ∧ ∀ c ∈ behind, strip c = true := by
  have hrun (text : List Char) : ∀ c ∈ text.takeWhile strip, strip c = true :=
    List.all_eq_true.mp List.all_takeWhile
  refine ⟨text.takeWhile strip, ((text.dropWhile strip).reverse.takeWhile strip).reverse, ?_,
    hrun _, fun c hmem => hrun _ c (List.mem_reverse.mp hmem)⟩
  rw [trimWhere, List.append_assoc, ← List.reverse_append, List.takeWhile_append_dropWhile,
    List.reverse_reverse, List.takeWhile_append_dropWhile]

/-- Stripped characters go from around a text that has none of them. -/
theorem trimWhere_append {strip : Char → Bool} {before text behind : List Char}
    (hbefore : ∀ c ∈ before, strip c = true) (htext : ∀ c ∈ text, strip c = false)
    (hbehind : ∀ c ∈ behind, strip c = true) :
    trimWhere strip (before ++ text ++ behind) = text := by
  have hfirst : ∀ (text rest : List Char), text ≠ [] → (∀ c ∈ text, strip c = false) →
      (text ++ rest).dropWhile strip = text ++ rest := by
    intro text rest hne htext
    obtain ⟨c, others, rfl⟩ := List.exists_cons_of_ne_nil hne
    exact List.dropWhile_cons_of_neg (by simp [htext c])
  rw [trimWhere, List.append_assoc, List.dropWhile_append_of_pos hbefore]
  by_cases hne : text = []
  · subst hne
    have hnone : (behind ++ []).dropWhile strip = [] := List.dropWhile_append_of_pos hbehind
    rw [List.append_nil] at hnone
    rw [List.nil_append, hnone]
    rfl
  · have hlast := hfirst text.reverse [] (by simpa using hne) (by simpa using htext)
    rw [List.append_nil] at hlast
    rw [hfirst text behind hne htext, List.reverse_append,
      List.dropWhile_append_of_pos (by simpa using hbehind), hlast, List.reverse_reverse]

end Text

namespace Number

/-- Digits that go on to the end of a text without underscores are its characters. -/
theorem eq_of_moreDigits? {text digits : List Char} (hplain : '_' ∉ text)
    (h : moreDigits? text = some (digits, [])) : digits = text ∧ ∀ c ∈ text, isDigit c = true := by
  induction text using moreDigits?.induct generalizing digits with
  | case1 =>
    cases h
    exact ⟨rfl, by simp⟩
  | case2 c rest _ _ => exact absurd List.mem_cons_self hplain
  | case3 c rest _ => exact absurd List.mem_cons_self hplain
  | case4 => exact absurd List.mem_cons_self hplain
  | case5 c rest hpair hlone hdigit ih =>
    rw [moreDigits?.eq_4 c rest hpair hlone, if_pos hdigit] at h
    obtain ⟨⟨others, tail⟩, hrest, hsame⟩ := Option.map_eq_some_iff.mp h
    cases hsame
    obtain ⟨rfl, hdigits⟩ := ih (fun hmem => hplain (List.mem_cons_of_mem _ hmem)) hrest
    exact ⟨rfl, by simpa [hdigit] using hdigits⟩
  | case6 c rest hpair hlone hdigit =>
    rw [moreDigits?.eq_4 c rest hpair hlone, if_neg hdigit] at h
    cases h

/-- A run of digits to the end of a text without underscores is the text. -/
theorem eq_of_digitRun? {text digits : List Char} (hplain : '_' ∉ text)
    (h : digitRun? text = some (digits, [])) :
    digits = text ∧ ∀ c ∈ text, isDigit c = true := by
  cases text with
  | nil => cases h
  | cons c rest =>
    rw [digitRun?] at h
    split at h
    · next hdigit =>
      obtain ⟨⟨others, tail⟩, hrest, hsame⟩ := Option.map_eq_some_iff.mp h
      cases hsame
      obtain ⟨rfl, hdigits⟩ :=
        eq_of_moreDigits? (fun hmem => hplain (List.mem_cons_of_mem _ hmem)) hrest
      exact ⟨rfl, by simpa [hdigit] using hdigits⟩
    · cases h

/-- A text without a sign is read as it is. -/
theorem signed_of_plain {text : List Char} (hminus : '-' ∉ text) (hplus : '+' ∉ text) :
    signed text = (false, text) := by
  unfold signed
  split
  · exact absurd List.mem_cons_self hminus
  · exact absurd List.mem_cons_self hplus
  · rfl

/-- A text of digits has nothing but digits and blanks. -/
theorem isBlank_or_isDigit {text : String} (h : Setting.isDigits text = true) :
    ∀ c ∈ text.toList, isBlank c = true ∨ isDigit c = true := by
  obtain ⟨-, hall⟩ : trimWhere isBlank text.toList ≠ [] ∧
      ∀ c ∈ trimWhere isBlank text.toList, isDigit c = true := by
    simpa [Setting.isDigits, trim] using h
  obtain ⟨before, behind, hsplit, hbefore, hbehind⟩ := exists_trimWhere isBlank text.toList
  intro c hmem
  rw [hsplit] at hmem
  simp only [List.mem_append] at hmem
  rcases hmem with (hmem | hmem) | hmem
  · exact .inl (hbefore c hmem)
  · exact .inr (hall c hmem)
  · exact .inl (hbehind c hmem)

/-- A text of digits with blanks around it is read as the number that the digits write, if it is
read at all. Not all that is blank is passed over around a numeral. -/
theorem wholeNumber?_of_digits {text : String} {number : Int}
    (hdigits : Setting.isDigits text = true) (h : wholeNumber? text = some number) :
    number = ofDigits (trim text).toList := by
  obtain ⟨before, behind, hsplit, hbefore, hbehind⟩ := exists_trimWhere isNumeralBlank text.toList
  generalize hbody : trimWhere isNumeralBlank text.toList = body at hsplit
  have hother (c : Char) (hblank : isBlank c = false) (hdigit : isDigit c = false) : c ∉ body := by
    intro hmem
    have hkind := isBlank_or_isDigit hdigits c (by rw [hsplit]; simp [hmem])
    simp [hblank, hdigit] at hkind
  have hunsigned := signed_of_plain (hother '-' (by decide) (by decide))
    (hother '+' (by decide) (by decide))
  rw [wholeNumber?, hbody, hunsigned] at h
  dsimp only at h
  split at h
  · next digits hrun =>
    obtain ⟨rfl, hbodyDigits⟩ := eq_of_digitRun? (hother '_' (by decide) (by decide)) hrun
    have hnumeral {c : Char} (hblank : isNumeralBlank c = true) : isBlank c = true :=
      (Bool.and_eq_true_iff.mp hblank).1
    have htrim : trimWhere isBlank text.toList = digits := by
      rw [hsplit]
      exact trimWhere_append (fun c hc => hnumeral (hbefore c hc))
        (fun c hc => isBlank_of_isDigit (hbodyDigits c hc)) fun c hc => hnumeral (hbehind c hc)
    split at h
    · simpa [trim, htrim] using h.symm
    · cases h
  · cases h

end Number

namespace Setting

/-- A text that counts as a positive number is written in digits, which write one. -/
theorem digits_of_isPositive {text : String} (h : isPositive (.str text) false = .ok true) :
    isDigits text = true ∧ 0 < ofDigits (trim text).toList := by
  unfold isPositive at h
  dsimp only at h
  split at h
  · next hdigits =>
    obtain ⟨digits, hvalue, hpositive⟩ := map_eq_ok.mp h
    unfold digitsValue at hvalue
    dsimp only at hvalue
    split at hvalue
    · cases hvalue
    · cases hvalue
      exact ⟨hdigits, by simpa using hpositive⟩
  · cases h

/-- A number that is accepted is positive, since the digits of a text are read as the number that
they were accepted for. -/
theorem pos_of_positive {refusal : String → Failure} {value : Json} {number : Int}
    (h : positive refusal value false = .ok (some number)) : 0 < number := by
  unfold positive at h
  split at h
  · cases h
  · obtain ⟨accepted, haccepted, hread⟩ := bind_eq_ok.mp h
    cases accepted with
    | false => cases hread
    | true =>
      rw [if_pos rfl] at hread
      cases value with
      | int given =>
        cases hread
        simpa [isPositive] using haccepted
      | str text =>
        obtain ⟨hdigits, hpositive⟩ := digits_of_isPositive haccepted
        dsimp only at hread
        split at hread
        · next hnumber =>
          cases hread
          rw [Number.wholeNumber?_of_digits hdigits hnumber]
          exact Int.natCast_pos.mpr hpositive
        · cases hread
      | _ => cases haccepted

end Setting

end WarehouseImport
