import Mathlib
import WarehouseImport.Payload.Checked
import WarehouseImport.Proofs.Payload.Documents

/-!
# Payload names of fields

The plain name of a field is made of words of small letters that single underscores join. In its
payload name the underscores are gone, and the words behind them begin with capitals instead, so
either name can be cut into the same words. No two fields share a payload name, then, and an object
of fields gives back each of them.
-/

namespace WarehouseImport

namespace Text

/-- A word with its first letter raised. -/
def raise : List Char → List Char
  | [] => []
  | c :: rest => c.toUpper :: rest

/-- A small word has a first letter. -/
theorem exists_cons_of_isSmallWord {word : List Char} (h : isSmallWord word) :
    ∃ c rest, word = c :: rest ∧ c.isLower ∧ ∀ d ∈ rest, d.isLower := by
  cases word with
  | nil => cases h
  | cons c rest =>
    have hsmall : ∀ d ∈ c :: rest, d.isLower := List.all_eq_true.mp h
    exact ⟨c, rest, rfl, List.forall_mem_cons.mp hsmall⟩

/-- Small letters are among the first characters of all. -/
theorem toNat_lt_of_isLower {c : Char} (h : c.isLower) : c.toNat < 128 := by
  simp only [Char.isLower, Bool.and_eq_true, decide_eq_true_eq, UInt32.le_iff_toNat_le] at h
  exact Nat.lt_of_le_of_lt h.2 (by decide)

/-- Small letters are told apart when they are raised. -/
theorem eq_of_toUpper_eq {c d : Char} (hc : c.isLower) (hd : d.isLower)
    (h : c.toUpper = d.toUpper) : c = d := by
  have hlower := congrArg Char.toLower h
  rwa [Char.toLower_toUpper_eq_toLower, Char.toLower_toUpper_eq_toLower,
    Char.toLower_eq_of_not_isUpper (Char.not_isUpper_of_isLower hc),
    Char.toLower_eq_of_not_isUpper (Char.not_isUpper_of_isLower hd)] at hlower

/-- Small letters stay as they are in lower case. -/
theorem lowerAfter_of_isLower {before word : List Char} (h : ∀ c ∈ word, c.isLower) :
    lowerAfter before word = word := by
  induction word generalizing before with
  | nil => rfl
  | cons c word ih =>
    obtain ⟨hc, hword⟩ := List.forall_mem_cons.mp h
    have hascii := toNat_lt_of_isLower hc
    have hsigma : c.toNat ≠ 0x3A3 := by omega
    rw [lowerAfter, ih hword, if_neg hsigma, lowerChar, if_pos hascii,
      Char.toLower_eq_of_not_isUpper (Char.not_isUpper_of_isLower hc)]
    rfl

/-- A small word is capitalised by raising its first letter. -/
theorem toList_capitalize {word : List Char} (h : isSmallWord word) :
    (capitalize (String.ofList word)).toList = raise word := by
  obtain ⟨c, rest, rfl, hc, hrest⟩ := exists_cons_of_isSmallWord h
  simp [capitalize, titleChar, toNat_lt_of_isLower hc, lowerAfter_of_isLower hrest, raise]

/-- The camel case form of a plain name in terms of its words. -/
theorem toList_camelCase {name : String} {first : List Char} {rest : List (List Char)}
    (hwords : name.toList.splitOn '_' = first :: rest) (hrest : ∀ word ∈ rest, isSmallWord word) :
    (camelCase name).toList = first ++ rest.flatMap raise := by
  simp only [camelCase, hwords, String.toList_append, String.toList_ofList, String.toList_join,
    List.flatMap_map]
  rw [List.flatMap_congr fun word hword => toList_capitalize (hrest word hword)]

/-- Small letters in front of raised words end where the first word begins. -/
theorem takeWhile_isLower {letters : List Char} {words : List (List Char)}
    (hletters : ∀ c ∈ letters, c.isLower) (hwords : ∀ word ∈ words, isSmallWord word) :
    (letters ++ words.flatMap raise).takeWhile Char.isLower = letters := by
  rw [List.takeWhile_append_of_pos hletters]
  cases words with
  | nil => exact List.append_nil letters
  | cons word words =>
    obtain ⟨c, rest, rfl, -⟩ := exists_cons_of_isSmallWord (hwords word List.mem_cons_self)
    simp [raise]

/-- What stands in front of raised words is told apart from them. -/
theorem append_flatMap_raise_inj {letters others : List Char} {words rest : List (List Char)}
    (hletters : ∀ c ∈ letters, c.isLower) (hwords : ∀ word ∈ words, isSmallWord word)
    (hothers : ∀ c ∈ others, c.isLower) (hrest : ∀ word ∈ rest, isSmallWord word)
    (h : letters ++ words.flatMap raise = others ++ rest.flatMap raise) :
    letters = others ∧ words.flatMap raise = rest.flatMap raise := by
  have hfront : letters = others := by
    rw [← takeWhile_isLower hletters hwords, h, takeWhile_isLower hothers hrest]
  subst hfront
  exact ⟨rfl, List.append_cancel_left h⟩

/-- Raised words are told apart. -/
theorem flatMap_raise_inj {words rest : List (List Char)}
    (hwords : ∀ word ∈ words, isSmallWord word) (hrest : ∀ word ∈ rest, isSmallWord word)
    (h : words.flatMap raise = rest.flatMap raise) : words = rest := by
  induction words generalizing rest with
  | nil =>
    cases rest with
    | nil => rfl
    | cons word rest =>
      obtain ⟨c, letters, rfl, -⟩ := exists_cons_of_isSmallWord (hrest word List.mem_cons_self)
      cases h
  | cons word words ih =>
    obtain ⟨hword, hbehind⟩ := List.forall_mem_cons.mp hwords
    obtain ⟨c, letters, rfl, hc, hletters⟩ := exists_cons_of_isSmallWord hword
    cases rest with
    | nil => cases h
    | cons other rest =>
      obtain ⟨hother, hbehind'⟩ := List.forall_mem_cons.mp hrest
      obtain ⟨d, others, rfl, hd, hothers⟩ := exists_cons_of_isSmallWord hother
      simp only [List.flatMap_cons, raise, List.cons_append, List.cons.injEq] at h
      obtain ⟨hupper, hjoined⟩ := h
      obtain ⟨rfl, hraised⟩ := append_flatMap_raise_inj hletters hbehind hothers hbehind' hjoined
      rw [eq_of_toUpper_eq hc hd hupper, ih hbehind hbehind' hraised]

/-- A plain name is cut into words. -/
theorem exists_words_of_isPlain {name : String} (h : isPlain name) :
    ∃ first rest, name.toList.splitOn '_' = first :: rest ∧
      (∀ c ∈ first, c.isLower) ∧ ∀ word ∈ rest, isSmallWord word := by
  have hsmall : ∀ word ∈ name.toList.splitOn '_', isSmallWord word := List.all_eq_true.mp h
  cases hwords : name.toList.splitOn '_' with
  | nil => exact absurd hwords (List.splitOn_ne_nil _ _)
  | cons first rest =>
    rw [hwords] at hsmall
    obtain ⟨hfirst, hrest⟩ := List.forall_mem_cons.mp hsmall
    obtain ⟨c, letters, rfl, hletters⟩ := exists_cons_of_isSmallWord hfirst
    exact ⟨c :: letters, rest, rfl, List.forall_mem_cons.mpr hletters, hrest⟩

/-- Plain names with the same payload name are the same. -/
theorem camelCase_inj {name other : String} (hname : isPlain name) (hother : isPlain other) :
    camelCase name = camelCase other ↔ name = other := by
  constructor
  · intro h
    obtain ⟨first, words, hcut, hfirst, hwords⟩ := exists_words_of_isPlain hname
    obtain ⟨second, rest, hcut', hsecond, hrest⟩ := exists_words_of_isPlain hother
    have hjoined := congrArg String.toList h
    rw [toList_camelCase hcut hwords, toList_camelCase hcut' hrest] at hjoined
    obtain ⟨rfl, hraised⟩ := append_flatMap_raise_inj hfirst hwords hsecond hrest hjoined
    obtain rfl := flatMap_raise_inj hwords hrest hraised
    -- Both names are the same words with underscores in between.
    apply String.toList_inj.mp
    calc name.toList = ['_'].intercalate (first :: words) := by
          rw [← hcut, List.intercalate_splitOn]
      _ = other.toList := by rw [← hcut', List.intercalate_splitOn]
  · rintro rfl
    rfl

example : camelCase "number_of_ignored_lines" = "numberOfIgnoredLines" := by decide

end Text

namespace Payload

open WarehouseImport.Text

/-- Among fields of plain names a payload name finds what the plain name does. -/
theorem lookup_camelCase {members : List (String × Json)} {name : String}
    (hmembers : ∀ other ∈ members.map Prod.fst, isPlain other) (hname : isPlain name) :
    (members.map fun field => (camelCase field.1, field.2)).lookup (camelCase name) =
      members.lookup name := by
  induction members with
  | nil => rfl
  | cons field members ih =>
    obtain ⟨hfield, hrest⟩ := List.forall_mem_cons.mp hmembers
    have hsame : (camelCase name == camelCase field.1) = (name == field.1) := by
      rw [Bool.eq_iff_iff, beq_iff_eq, beq_iff_eq, camelCase_inj hname hfield]
    rw [List.map_cons, List.lookup_cons, List.lookup_cons, hsame, ih hrest]

/-- Fields have plain names. -/
theorem Fields.isPlain_of_mem (fields : Fields) :
    ∀ name ∈ fields.members.map Prod.fst, isPlain name :=
  List.all_eq_true.mp fields.plain

/-- A field that is written is found under its payload name. -/
@[simp]
theorem find?_object {fields : Fields} {name : String} (h : name ∈ fields.members.map Prod.fst) :
    find? (object fields) name =
      (fields.members.lookup name).map fun value => (camelCase name, value) := by
  have hlookup : (object fields).get? (camelCase name) = fields.members.lookup name :=
    lookup_camelCase fields.isPlain_of_mem (fields.isPlain_of_mem name h)
  have hfound : (fields.members.lookup name).isSome = true := by
    obtain ⟨field, hmem, rfl⟩ := List.mem_map.mp h
    exact List.lookup_isSome_iff.mpr ⟨field, hmem, beq_self_eq_true field.1⟩
  obtain ⟨value, hvalue⟩ := Option.isSome_iff_exists.mp hfound
  rw [find?, hlookup, hvalue]
  rfl

/-- Fields are told apart by their payload names. -/
theorem Fields.nodup_camelCase (fields : Fields) :
    ((fields.members.map Prod.fst).map camelCase).Nodup :=
  fields.distinct.map_on fun name hname other hother hsame =>
    (camelCase_inj (fields.isPlain_of_mem name hname) (fields.isPlain_of_mem other hother)).mp hsame

/-- An object of fields can be written if their values can. -/
theorem writable_object {fields : Fields} {depth : Nat}
    (h : ∀ field ∈ fields.members, Json.Writable depth field.2) :
    Json.Writable (depth + 1) (object fields) := by
  refine .obj ?_ ?_
  · have hnames := fields.nodup_camelCase
    rw [List.map_map] at hnames ⊢
    exact hnames
  · rw [List.forall_mem_map]
    exact h

end Payload

end WarehouseImport
