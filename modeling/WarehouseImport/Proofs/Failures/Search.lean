import WarehouseImport.Failure.Decoding

/-!
# What is found in error texts

The texts of errors are searched for marks and for a list of types. A mark is found exactly if it
stands somewhere in the text. Types stand behind the first mark of types that a blank and, on the
same line, a point follow; those between them are taken apart at commas.
-/

namespace WarehouseImport

open WarehouseImport.Text

/-- A beginning can be dropped from the texts that have it. -/
theorem Overflow.dropHead?_eq_some {part text rest : List Char} :
    dropHead? part text = some rest ↔ text = part ++ rest := by
  induction part generalizing text with
  | nil => simp [dropHead?, eq_comm]
  | cons c part ih =>
    cases text with
    | nil => simp [dropHead?]
    | cons d text =>
      rw [dropHead?]
      split
      · next hsame => simp [ih, hsame]
      · next hother =>
        simp only [List.cons_append, List.cons.injEq, reduceCtorEq, false_iff, not_and]
        exact fun hsame => absurd hsame.symm hother

namespace Failure

/-- A part occurs in a text if it stands somewhere in it. -/
theorem occursIn_eq_true {part text : List Char} : occursIn part text = true ↔ part <:+: text := by
  induction text with
  | nil => simp [occursIn]
  | cons c text ih =>
    have hbegins : (Overflow.dropHead? part (c :: text)).isSome = true ↔ part <+: c :: text := by
      rw [Option.isSome_iff_exists]
      constructor
      · rintro ⟨rest, h⟩
        exact ⟨rest, (Overflow.dropHead?_eq_some.mp h).symm⟩
      · rintro ⟨rest, h⟩
        exact ⟨rest, Overflow.dropHead?_eq_some.mpr h.symm⟩
    rw [occursIn, Bool.or_eq_true, hbegins, ih, List.infix_cons_iff]

/-- Words stand somewhere in a text. -/
def Contains (text words : String) : Prop := words.toList <:+: text.toList

/-- A text mentions the words that it contains. -/
theorem mentions_eq_true {text words : String} :
    mentions text words = true ↔ Contains text words :=
  occursIn_eq_true

/-- Behind some text a mark of types, a blank, words on one line and a point follow. -/
def NamesTypes (text before words : List Char) : Prop :=
  ∃ blank behind, isBlank blank = true ∧ '.' ∉ words ∧ '\n' ∉ words ∧
    text = before ++ ("types:".toList ++ blank :: (words ++ '.' :: behind))

/-- Words and the point that ends them are told apart. -/
theorem words_eq {words rest : List Char} :
    (rest.takeWhile (fun d => d != '.' && d != '\n') = words ∧
      (rest.dropWhile fun d => d != '.' && d != '\n').head? = some '.') ↔
    '.' ∉ words ∧ '\n' ∉ words ∧ ∃ behind, rest = words ++ '.' :: behind := by
  constructor
  · rintro ⟨rfl, hpoint⟩
    have hkept : ∀ d ∈ rest.takeWhile (fun d => d != '.' && d != '\n'), d ≠ '.' ∧ d ≠ '\n' := by
      intro d hd
      simpa using List.all_eq_true.mp List.all_takeWhile d hd
    obtain ⟨behind, hbehind⟩ : ∃ behind,
        rest.dropWhile (fun d => d != '.' && d != '\n') = '.' :: behind := by
      cases hdropped : rest.dropWhile fun d => d != '.' && d != '\n' with
      | nil => simp [hdropped] at hpoint
      | cons d behind =>
        rw [hdropped] at hpoint
        exact ⟨behind, by rw [Option.some.inj hpoint]⟩
    refine ⟨fun hmem => (hkept _ hmem).1 rfl, fun hmem => (hkept _ hmem).2 rfl, behind, ?_⟩
    rw [← hbehind, List.takeWhile_append_dropWhile]
  · rintro ⟨hpoint, hline, behind, rfl⟩
    have hkept : ∀ d ∈ words, (d != '.' && d != '\n') = true := by
      intro d hd
      have hpoint' : d ≠ '.' := fun hsame => hpoint (hsame ▸ hd)
      have hline' : d ≠ '\n' := fun hsame => hline (hsame ▸ hd)
      simp [hpoint', hline']
    rw [List.takeWhile_append_of_pos hkept, List.dropWhile_append_of_pos hkept]
    simp

/-- Words of types are found at the start of a text if they stand there. -/
theorem typesHere?_eq_some {text words : List Char} :
    typesHere? text = some words ↔ NamesTypes text [] words := by
  constructor
  · intro h
    obtain ⟨tail, hdrop, h⟩ := Option.bind_eq_some_iff.mp h
    cases tail with
    | nil => cases h
    | cons blank rest =>
      dsimp only at h
      split at h
      · next hblank =>
        split at h
        · next hpoint =>
          obtain ⟨hfree, hline, behind, rfl⟩ :=
            words_eq.mp ⟨Option.some.inj h, by simpa using hpoint⟩
          refine ⟨blank, behind, hblank, hfree, hline, ?_⟩
          rw [List.nil_append]
          exact Overflow.dropHead?_eq_some.mp hdrop
        · cases h
      · cases h
  · rintro ⟨blank, behind, hblank, hfree, hline, htext⟩
    rw [List.nil_append] at htext
    obtain ⟨hwords, hpoint⟩ := words_eq.mpr ⟨hfree, hline, behind, rfl⟩
    refine Option.bind_eq_some_iff.mpr ⟨_, Overflow.dropHead?_eq_some.mpr htext, ?_⟩
    dsimp only
    rw [if_pos hblank, hwords, hpoint]
    rfl

/-- Behind its first character a text names types where the rest of it does. -/
theorem namesTypes_cons {c d : Char} {text before words : List Char} :
    NamesTypes (c :: text) (d :: before) words ↔ c = d ∧ NamesTypes text before words := by
  simp only [NamesTypes, List.cons_append, List.cons.injEq]
  grind

/-- The types of a text are those that it names first. -/
def NamesTypesFirst (text words : List Char) : Prop :=
  ∃ before, NamesTypes text before words ∧
    ∀ earlier others, NamesTypes text earlier others → before.length ≤ earlier.length

/-- The types that are found in a text are those that it names first. -/
theorem typesIn?_eq_some {text words : List Char} :
    typesIn? text = some words ↔ NamesTypesFirst text words := by
  induction text with
  | nil =>
    simp [typesIn?, NamesTypesFirst, NamesTypes]
  | cons c text ih =>
    cases hhere : typesHere? (c :: text) with
    | some found =>
      have hfound := typesHere?_eq_some.mp hhere
      rw [typesIn?, hhere]
      constructor
      · intro h
        obtain rfl := Option.some.inj h
        exact ⟨[], hfound, fun earlier others _ => Nat.zero_le _⟩
      · rintro ⟨before, hnames, hfirst⟩
        obtain rfl := List.length_eq_zero_iff.mp (Nat.le_zero.mp (hfirst [] found hfound))
        exact hhere.symm.trans (typesHere?_eq_some.mpr hnames)
    | none =>
      have hlater {before others : List Char} (h : NamesTypes (c :: text) before others) :
          ∃ rest, before = c :: rest ∧ NamesTypes text rest others := by
        cases before with
        | nil =>
          rw [typesHere?_eq_some.mpr h] at hhere
          cases hhere
        | cons d rest =>
          obtain ⟨rfl, hrest⟩ := namesTypes_cons.mp h
          exact ⟨rest, rfl, hrest⟩
      -- Nothing is named here, so the first types are those of the rest.
      rw [typesIn?, hhere, Option.none_or, ih]
      constructor
      · rintro ⟨before, hnames, hfirst⟩
        refine ⟨c :: before, namesTypes_cons.mpr ⟨rfl, hnames⟩, fun earlier others hearlier => ?_⟩
        obtain ⟨rest, rfl, hrest⟩ := hlater hearlier
        exact Nat.succ_le_succ (hfirst rest others hrest)
      · rintro ⟨before, hnames, hfirst⟩
        obtain ⟨rest, rfl, hrest⟩ := hlater hnames
        refine ⟨rest, hrest, fun earlier others hearlier => ?_⟩
        exact Nat.le_of_succ_le_succ
          (hfirst (c :: earlier) others (namesTypes_cons.mpr ⟨rfl, hearlier⟩))

/-- A text has one more part between commas than it has commas. -/
theorem length_splitCommas (words : List Char) :
    (splitCommas words).length = words.count ',' + 1 := by
  induction words with
  | nil => rfl
  | cons c words ih =>
    rw [splitCommas]
    cases hparts : splitCommas words with
    | nil => simp [hparts] at ih
    | cons part parts =>
      rw [hparts, List.length_cons] at ih
      dsimp only
      split
      · next hcomma => simp [hcomma, ih]
      · next hother => simp [List.count_cons_of_ne hother, ih]

end Failure

end WarehouseImport
