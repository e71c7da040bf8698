import Mathlib
import WarehouseImport.Proofs.Sql.Conditions
import WarehouseImport.Proofs.Sql.Fields

/-!
# Types in writing

The type of a column is kept as a text. A comma stands between nested fields as well as between
precision and scale, brackets nest to any depth, and a record without fields is written without
brackets. Here the type of a field is a tree, and its text is what the tree is written as. A text is
read in one way only: up to a comma, a closing bracket or the end it settles the tree, and the place
where the text of the tree ends.
-/

namespace WarehouseImport

open WarehouseImport.Sql WarehouseImport.Text

/-- What the type of a field is made of: plain values with the limits they are written with, records
with the names and types of their fields in order, or arrays of elements. -/
inductive FieldType where
  | plain (type : String) (limits : Option (Int × Option Int))
  | record (fields : List (String × FieldType))
  | array (element : FieldType)

namespace FieldType

/-- Limits: a length or a precision alone, or a precision with its scale. -/
def limitsInner : Int × Option Int → String
  | (limit, none) => limit.repr
  | (precision, some scale) => precision.repr ++ "," ++ scale.repr

/-- Limits in parentheses, if there are any. -/
def limitsText : Option (Int × Option Int) → String
  | none => ""
  | some limits => "(" ++ limitsInner limits ++ ")"

/-- The word that the text of a type begins with. -/
def word : FieldType → String
  | plain type _ => type
  | record _ => "STRUCT"
  | array _ => "ARRAY"

mutual

/-- What is written behind the word of a type. -/
def partsText : FieldType → String
  | plain _ limits => limitsText limits
  | record fields => if fields.isEmpty then "" else "<" ++ fieldsText fields ++ ">"
  | array element => "<" ++ (element.word ++ element.partsText) ++ ">"

/-- Fields with their names and types, with commas between them. -/
def fieldsText : List (String × FieldType) → String
  | [] => ""
  | (name, type) :: rest =>
    name ++ " " ++ (type.word ++ type.partsText) ++
      if rest.isEmpty then "" else ", " ++ fieldsText rest

end

/-- The text of a type. -/
def text (type : FieldType) : String := type.word ++ type.partsText

/-! ## Texts are read in one way -/

/-- What may stand behind the text of a type: nothing, a comma or a closing bracket. -/
def Ends (behind : List Char) : Prop := ∀ c ∈ behind.head?, c = ',' ∨ c = '>'

theorem ends_nil : Ends [] := by simp [Ends]

theorem ends_cons {c : Char} (h : c = ',' ∨ c = '>') (behind : List Char) : Ends (c :: behind) := by
  simpa [Ends] using h

/-- Neither parenthesis nor bracket opens behind the text of a type. -/
theorem Ends.ne_cons {c : Char} {behind : List Char} (h : Ends behind)
    (hother : c ≠ ',' ∧ c ≠ '>') (rest : List Char) : behind ≠ c :: rest := by
  rintro rfl
  rcases h c rfl with hc | hc
  · exact hother.1 hc
  · exact hother.2 hc

/-- A text that is a word: letters, digits and underscores, and at least one of them. -/
def IsName (name : String) : Prop := name ≠ "" ∧ ∀ c ∈ name.toList, isWord c = true

mutual

/-- A type can be read: the types of plain values are words of their own, and the names of fields
are words. -/
def Readable : FieldType → Prop
  | plain type _ => IsName type ∧ type ≠ "STRUCT" ∧ type ≠ "ARRAY"
  | record fields => AllReadable fields
  | array element => element.Readable

/-- The names and types of fields can be read. -/
def AllReadable : List (String × FieldType) → Prop
  | [] => True
  | (name, type) :: rest => IsName name ∧ type.Readable ∧ AllReadable rest

end

/-- A run of characters of a class and the text behind it are settled by the whole, where the text
behind it does not go on with the class. -/
theorem eq_of_run_append {holds : Char → Bool} {run run' behind behind' : List Char}
    (hrun : ∀ c ∈ run, holds c = true) (hrun' : ∀ c ∈ run', holds c = true)
    (hbehind : ∀ c ∈ behind.head?, holds c = false)
    (hbehind' : ∀ c ∈ behind'.head?, holds c = false) (h : run ++ behind = run' ++ behind') :
    run = run' ∧ behind = behind' := by
  have htake {run behind : List Char} (hrun : ∀ c ∈ run, holds c = true)
      (hbehind : ∀ c ∈ behind.head?, holds c = false) :
      (run ++ behind).takeWhile holds = run := by
    rw [List.takeWhile_append_of_pos hrun]
    cases behind with
    | nil => simp
    | cons c rest => simp [hbehind c rfl]
  have hsame : run = run' := by rw [← htake hrun hbehind, h, htake hrun' hbehind']
  exact ⟨hsame, List.append_cancel_left (hsame ▸ h)⟩

/-- A number holds neither a comma nor a closing parenthesis. -/
theorem notMem_repr (number : Int) : ',' ∉ number.repr.toList ∧ ')' ∉ number.repr.toList := by
  have hchar : ∀ c ∈ number.repr.toList, c.isDigit = true ∨ c = '-' := by
    intro c hc
    cases number with
    | ofNat count => exact .inl (isDigit_of_mem_repr hc)
    | negSucc count =>
      rw [Int.repr, String.toList_append, List.mem_append] at hc
      rcases hc with hsign | hdigit
      · exact .inr (by simpa using hsign)
      · exact .inl (isDigit_of_mem_repr hdigit)
  constructor
  · intro hmem
    rcases hchar _ hmem with h | h <;> revert h <;> decide
  · intro hmem
    rcases hchar _ hmem with h | h <;> revert h <;> decide

/-- Limits hold no closing parenthesis. -/
theorem notMem_limitsInner (limits : Int × Option Int) : ')' ∉ (limitsInner limits).toList := by
  obtain ⟨limit, _ | scale⟩ := limits <;> simp [limitsInner, notMem_repr]

theorem toList_limitsText_some (limits : Int × Option Int) :
    (limitsText (some limits)).toList = '(' :: ((limitsInner limits).toList ++ [')']) := by
  simp [limitsText]

/-- Limits are not written as nothing. -/
theorem limitsInner_ne_empty (limits : Int × Option Int) : limitsInner limits ≠ "" := by
  have hrepr (number : Int) : number.repr ≠ "" := by
    cases number with
    | ofNat count => exact Nat.repr_ne_empty
    | negSucc count => simp [Int.repr]
  obtain ⟨limit, _ | scale⟩ := limits
  · exact hrepr limit
  · simp [limitsInner]

/-- Limits are told apart in writing. -/
theorem limitsInner_inj {limits limits' : Int × Option Int}
    (h : limitsInner limits = limitsInner limits') : limits = limits' := by
  obtain ⟨limit, scale⟩ := limits
  obtain ⟨limit', scale'⟩ := limits'
  have hcomma (precision scale : Int) : ',' ∈ (limitsInner (precision, some scale)).toList := by
    simp [limitsInner]
  cases scale with
  | none =>
    cases scale' with
    | none => rw [Int.repr_injective h]
    | some scale' =>
      have hmem := hcomma limit' scale'
      rw [← h] at hmem
      exact absurd hmem (notMem_repr limit).1
  | some scale =>
    cases scale' with
    | none =>
      have hmem := hcomma limit scale
      rw [h] at hmem
      exact absurd hmem (notMem_repr limit').1
    | some scale' =>
      have hlist : limit.repr.toList ++ ',' :: scale.repr.toList =
          limit'.repr.toList ++ ',' :: scale'.repr.toList := by
        simpa [limitsInner] using congrArg String.toList h
      obtain ⟨hfirst, hsecond⟩ :=
        SqlText.eq_of_append_mark (notMem_repr limit).1 (notMem_repr limit').1 hlist
      rw [Int.repr_injective (String.toList_inj.mp hfirst),
        Int.repr_injective (String.toList_inj.mp hsecond)]

/-- Limits in writing and the text behind them are settled by the whole. -/
theorem eq_of_limitsText_append {limits limits' : Option (Int × Option Int)}
    {behind behind' : List Char} (hbehind : Ends behind) (hbehind' : Ends behind')
    (h : (limitsText limits).toList ++ behind = (limitsText limits').toList ++ behind') :
    limits = limits' ∧ behind = behind' := by
  have hopens {limits : Int × Option Int} {behind rest : List Char} (hends : Ends behind) :
      behind ≠ (limitsText (some limits)).toList ++ rest := by
    rw [toList_limitsText_some]
    exact hends.ne_cons (by decide) _
  cases limits with
  | none =>
    cases limits' with
    | none => exact ⟨rfl, h⟩
    | some limits' => exact absurd h (hopens hbehind)
  | some limits =>
    cases limits' with
    | none => exact absurd h.symm (hopens hbehind')
    | some limits' =>
      rw [toList_limitsText_some, toList_limitsText_some] at h
      simp only [List.cons_append, List.append_assoc, List.nil_append] at h
      obtain ⟨hsame, hrest⟩ := SqlText.eq_of_append_mark (notMem_limitsInner limits)
        (notMem_limitsInner limits') (List.cons.inj h).2
      exact ⟨congrArg some (limitsInner_inj (String.toList_inj.mp hsame)), hrest⟩

/-- The words of types that are made of others are words. -/
theorem isName_keyword : ∀ keyword ∈ ["STRUCT", "ARRAY"], IsName keyword := by
  have hwords : ∀ keyword ∈ ["STRUCT", "ARRAY"],
      keyword ≠ "" ∧ keyword.toList.all isWord = true := by
    decide +kernel
  exact fun keyword hmem => ⟨(hwords keyword hmem).1, List.all_eq_true.mp (hwords keyword hmem).2⟩

/-- The word of a type that can be read is a word. -/
theorem isName_word {type : FieldType} (h : type.Readable) : IsName type.word := by
  cases type with
  | plain type limits =>
    rw [Readable] at h
    exact h.1
  | record fields => exact isName_keyword _ (by simp [word])
  | array element => exact isName_keyword _ (by simp [word])

/-- Behind the word of a type its text does not go on with the word. -/
theorem head_partsText (type : FieldType) {behind : List Char} (h : Ends behind) :
    ∀ c ∈ (type.partsText.toList ++ behind).head?, isWord c = false := by
  have hends : ∀ c ∈ behind.head?, isWord c = false := by
    intro c hc
    rcases h c hc with rfl | rfl <;> decide
  cases type with
  | plain type limits =>
    cases limits with
    | none => simpa [partsText, limitsText] using hends
    | some limits =>
      rw [partsText, toList_limitsText_some]
      simp; decide
  | record fields =>
    rw [partsText]
    split
    · simpa using hends
    · simp; decide
  | array element =>
    rw [partsText]
    simp; decide

/-- The words of two types are settled by texts that agree, and so is what stands behind them. -/
theorem word_eq_of_text_append {left right : FieldType} {behind behind' : List Char}
    (hleft : left.Readable) (hright : right.Readable) (hbehind : Ends behind)
    (hbehind' : Ends behind') (h : left.text.toList ++ behind = right.text.toList ++ behind') :
    left.word = right.word ∧
      left.partsText.toList ++ behind = right.partsText.toList ++ behind' := by
  rw [text, text, String.toList_append, String.toList_append, List.append_assoc,
    List.append_assoc] at h
  obtain ⟨hword, hrest⟩ := eq_of_run_append (isName_word hleft).2 (isName_word hright).2
    (head_partsText left hbehind) (head_partsText right hbehind') h
  exact ⟨String.toList_inj.mp hword, hrest⟩

/-- Arrays are written with their elements. -/
theorem text_array (element : FieldType) :
    (array element).text = "ARRAY<" ++ element.text ++ ">" := by
  rw [← String.toList_inj]
  simp [text, word, partsText]

/-- The text of a type that is made of others. -/
theorem toList_partsText_array (element : FieldType) :
    (array element).partsText.toList = '<' :: (element.text.toList ++ ['>']) := by
  simp [partsText, text]

theorem toList_partsText_record {field : String × FieldType} {fields : List (String × FieldType)} :
    (record (field :: fields)).partsText.toList =
      '<' :: ((fieldsText (field :: fields)).toList ++ ['>']) := by
  simp [partsText]

/-- What stands behind the type of a field among others, up to the bracket that closes them. -/
def behindField (rest : List (String × FieldType)) (behind : List Char) : List Char :=
  if rest.isEmpty then '>' :: behind
  else ',' :: ' ' :: ((fieldsText rest).toList ++ '>' :: behind)

theorem ends_behindField (rest : List (String × FieldType)) (behind : List Char) :
    Ends (behindField rest behind) := by
  unfold behindField
  split
  · exact ends_cons (.inr rfl) _
  · exact ends_cons (.inl rfl) _

theorem toList_fieldsText_cons (name : String) (type : FieldType)
    (rest : List (String × FieldType)) (behind : List Char) :
    (fieldsText ((name, type) :: rest)).toList ++ '>' :: behind =
      name.toList ++ ' ' :: (type.text.toList ++ behindField rest behind) := by
  rw [fieldsText, behindField, text]
  split <;> simp

/-- A word holds no blank. -/
theorem IsName.no_blank {name : String} (h : IsName name) : ' ' ∉ name.toList := by
  intro hmem
  have hblank := h.2 _ hmem
  revert hblank
  decide +kernel

mutual

/-- The text of a type settles the type and where it ends. -/
theorem eq_of_text_append : (left right : FieldType) → ∀ {behind behind' : List Char},
    left.Readable → right.Readable → Ends behind → Ends behind' →
    left.text.toList ++ behind = right.text.toList ++ behind' → left = right ∧ behind = behind'
  | plain type limits, right, behind, behind', hleft, hright, hbehind, hbehind', h => by
    obtain ⟨hword, hparts⟩ := word_eq_of_text_append hleft hright hbehind hbehind' h
    rw [Readable] at hleft
    cases right with
    | plain type' limits' =>
      rw [partsText, partsText] at hparts
      obtain ⟨hlimits, hrest⟩ := eq_of_limitsText_append hbehind hbehind' hparts
      have htype : type = type' := hword
      exact ⟨by rw [htype, hlimits], hrest⟩
    | record fields => exact absurd hword hleft.2.1
    | array element => exact absurd hword hleft.2.2
  | record fields, right, behind, behind', hleft, hright, hbehind, hbehind', h => by
    obtain ⟨hword, hparts⟩ := word_eq_of_text_append hleft hright hbehind hbehind' h
    cases right with
    | plain type limits =>
      rw [Readable] at hright
      exact absurd hword.symm hright.2.1
    | array element => simp [word] at hword
    | record fields' =>
      rw [Readable] at hleft hright
      have hopens {field : String × FieldType} {fields : List (String × FieldType)}
          {behind rest : List Char} (hends : Ends behind) :
          behind ≠ (record (field :: fields)).partsText.toList ++ rest := by
        rw [toList_partsText_record]
        exact hends.ne_cons (by decide) _
      cases fields with
      | nil =>
        cases fields' with
        | nil => exact ⟨rfl, hparts⟩
        | cons field' fields' => exact absurd hparts (hopens hbehind)
      | cons field fields =>
        cases fields' with
        | nil => exact absurd hparts.symm (hopens hbehind')
        | cons field' fields' =>
          rw [toList_partsText_record, toList_partsText_record] at hparts
          simp only [List.cons_append, List.append_assoc, List.nil_append] at hparts
          obtain ⟨hfields, hrest⟩ := eq_of_fieldsText_append (field :: fields) (field' :: fields')
            hleft hright nofun nofun (List.cons.inj hparts).2
          exact ⟨congrArg record hfields, hrest⟩
  | array element, right, behind, behind', hleft, hright, hbehind, hbehind', h => by
    obtain ⟨hword, hparts⟩ := word_eq_of_text_append hleft hright hbehind hbehind' h
    cases right with
    | plain type limits =>
      rw [Readable] at hright
      exact absurd hword.symm hright.2.2
    | record fields => simp [word] at hword
    | array element' =>
      rw [Readable] at hleft hright
      rw [toList_partsText_array, toList_partsText_array] at hparts
      simp only [List.cons_append, List.append_assoc, List.nil_append] at hparts
      obtain ⟨helement, hrest⟩ := eq_of_text_append element element' hleft hright
        (ends_cons (.inr rfl) _) (ends_cons (.inr rfl) _) (List.cons.inj hparts).2
      exact ⟨congrArg array helement, (List.cons.inj hrest).2⟩

/-- The text of fields up to the bracket that closes them settles their number, order, names and
types. -/
theorem eq_of_fieldsText_append : (fields others : List (String × FieldType)) →
    ∀ {behind behind' : List Char}, AllReadable fields → AllReadable others →
    fields ≠ [] → others ≠ [] →
    (fieldsText fields).toList ++ '>' :: behind = (fieldsText others).toList ++ '>' :: behind' →
    fields = others ∧ behind = behind'
  | [], _, _, _, _, _, hfields, _, _ => absurd rfl hfields
  | _, [], _, _, _, _, _, hothers, _ => absurd rfl hothers
  | (name, type) :: rest, (name', type') :: rest', behind, behind', hleft, hright, _, _, h => by
    rw [AllReadable] at hleft hright
    obtain ⟨hname, htype, hrest⟩ := hleft
    obtain ⟨hname', htype', hrest'⟩ := hright
    rw [toList_fieldsText_cons, toList_fieldsText_cons] at h
    obtain ⟨hnames, hbehind⟩ := SqlText.eq_of_append_mark hname.no_blank hname'.no_blank h
    obtain ⟨rfl, hothers⟩ := eq_of_text_append type type' htype htype' (ends_behindField _ _)
      (ends_behindField _ _) hbehind
    obtain rfl := String.toList_inj.mp hnames
    cases rest with
    | nil =>
      cases rest' with
      | nil => exact ⟨rfl, (List.cons.inj hothers).2⟩
      | cons next' rest' => simp [behindField] at hothers
    | cons next rest =>
      cases rest' with
      | nil => simp [behindField] at hothers
      | cons next' rest' =>
        -- Both lists go on behind a comma and a blank.
        have hcomma := (List.cons.inj (List.cons.inj hothers).2).2
        obtain ⟨hsame, hends⟩ := eq_of_fieldsText_append (next :: rest) (next' :: rest') hrest
          hrest' nofun nofun hcomma
        exact ⟨by rw [hsame], hends⟩

end

/-- Types that can be read are told apart by their texts. -/
theorem text_inj {left right : FieldType} (hleft : left.Readable) (hright : right.Readable) :
    left.text = right.text ↔ left = right := by
  constructor
  · intro h
    exact (eq_of_text_append left right hleft hright ends_nil ends_nil (by rw [h])).1
  · rintro rfl
    rfl

end FieldType

end WarehouseImport
