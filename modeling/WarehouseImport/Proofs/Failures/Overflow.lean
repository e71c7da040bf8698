import WarehouseImport.Proofs.Failures.Search

/-!
# Messages about values that are too long

A message names a field, its type and two lengths. The search for it goes from place to place and
from name to longer name, and takes runs of word characters and digits as long as they are. It finds
something exactly where a sentence of the expected form stands. A name that does not itself speak of
a maximum length is found whole, whatever colons, parentheses or further fields it holds: an earlier
end of the name would put the words about the maximum length inside of it.
-/

namespace WarehouseImport

open WarehouseImport.Text

namespace Overflow

/-! ### The form of a message -/

/-- Some characters, all of one class. -/
def IsRun (holds : Char → Bool) (run : List Char) : Prop :=
  run ≠ [] ∧ run.all holds = true

instance (holds : Char → Bool) (run : List Char) : Decidable (IsRun holds run) :=
  inferInstanceAs (Decidable (_ ∧ _))

/-- What a message says behind the name of the field. -/
structure Detail where
  type : String
  limit : String
  capacity : String
  length : String
  type_run : IsRun isWord type.toList
  limit_run : IsRun isDigit limit.toList
  capacity_run : IsRun isDigit capacity.toList
  length_run : IsRun isDigit length.toList

/-- A sentence about a value that is too long; the name of the field stands on one line. -/
structure Sentence extends Detail where
  name : String
  name_ne : name ≠ ""
  name_line : '\n' ∉ name.toList

/-- The words behind the name. -/
def Detail.text (detail : Detail) : String :=
  ": " ++ detail.type ++ "(" ++ detail.limit ++ ") has maximum length " ++ detail.capacity ++
    " but got a value with length " ++ detail.length

/-- The words of a sentence. -/
def Sentence.text (sentence : Sentence) : String :=
  "Field " ++ sentence.name ++ sentence.toDetail.text

/-- A name has characters. -/
theorem Sentence.toList_name_ne (sentence : Sentence) : sentence.name.toList ≠ [] :=
  fun hnil => sentence.name_ne (String.toList_eq_nil_iff.mp hnil)

/-- The parts of the words behind the name. -/
theorem Detail.toList_text (detail : Detail) :
    detail.text.toList = ": ".toList ++ (detail.type.toList ++ (['('] ++ (detail.limit.toList ++
      (limitWords ++ (detail.capacity.toList ++ (lengthWords ++ detail.length.toList)))))) := by
  have hopen : "(".toList = ['('] := rfl
  have hlimit : limitWords = ") has maximum length ".toList := rfl
  have hlength : lengthWords = " but got a value with length ".toList := rfl
  simp only [Detail.text, String.toList_append, List.append_assoc, hopen, hlimit, hlength]

/-- The parts of a sentence. -/
theorem Sentence.toList_text (sentence : Sentence) :
    sentence.text.toList =
      "Field ".toList ++ (sentence.name.toList ++ sentence.toDetail.text.toList) := by
  simp only [Sentence.text, String.toList_append, List.append_assoc]

/-! ### Runs -/

section Runs

variable {holds : Char → Bool} {run rest text : List Char}

/-- A run does not hold the characters of other classes. -/
theorem IsRun.notMem (h : IsRun holds run) {c : Char} (hc : holds c = false) : c ∉ run := by
  intro hmem
  rw [List.all_eq_true.mp h.2 c hmem] at hc
  cases hc

/-- A run is taken with what goes on with it. -/
theorem run?_append (h : IsRun holds run) (rest : List Char) :
    run? holds (run ++ rest) = some (run ++ rest.takeWhile holds, rest.dropWhile holds) := by
  have hne : (run ++ rest.takeWhile holds).isEmpty = false := by simp [h.1]
  have hall := List.all_eq_true.mp h.2
  rw [run?, List.takeWhile_append_of_pos hall, List.dropWhile_append_of_pos hall]
  simp [hne]

/-- A run that another character ends is taken as it is. -/
theorem run?_append_cons (h : IsRun holds run) {c : Char} (hc : holds c = false)
    (rest : List Char) : run? holds (run ++ c :: rest) = some (run, c :: rest) := by
  simp [run?_append h, hc]

/-- What is taken is a run at the start. -/
theorem eq_append_of_run? (h : run? holds text = some (run, rest)) :
    IsRun holds run ∧ text = run ++ rest := by
  rw [run?] at h
  split at h
  · cases h
  · next hne =>
    cases h
    exact ⟨⟨by simpa using hne, List.all_takeWhile⟩, List.takeWhile_append_dropWhile.symm⟩

end Runs

/-! ### What stands behind a name -/

/-- The words behind a name are read where they stand; the last digits may go on. -/
theorem tail?_append (detail : Detail) (behind : List Char) :
    tail? (detail.text.toList ++ behind) =
      some (detail.type.toList, detail.limit.toList,
        detail.length.toList ++ behind.takeWhile isDigit) := by
  have hhead (part rest : List Char) : dropHead? part (part ++ rest) = some rest :=
    dropHead?_eq_some.mpr rfl
  have htype (rest : List Char) : run? isWord (detail.type.toList ++ (['('] ++ rest)) =
      some (detail.type.toList, ['('] ++ rest) :=
    run?_append_cons detail.type_run (by decide) rest
  have hlimit (rest : List Char) : run? isDigit (detail.limit.toList ++ (limitWords ++ rest)) =
      some (detail.limit.toList, limitWords ++ rest) :=
    run?_append_cons detail.limit_run (by decide) _
  have hcapacity (rest : List Char) :
      run? isDigit (detail.capacity.toList ++ (lengthWords ++ rest)) =
        some (detail.capacity.toList, lengthWords ++ rest) :=
    run?_append_cons detail.capacity_run (by decide) _
  simp only [Detail.toList_text, List.append_assoc, tail?, hhead, htype, hlimit, hcapacity,
    run?_append detail.length_run, Option.bind_eq_bind, Option.bind_some, Option.pure_def]

/-- What is read behind a name stands there. -/
theorem exists_detail_of_tail? {text type limit length : List Char}
    (h : tail? text = some (type, limit, length)) :
    ∃ (detail : Detail) (behind : List Char), text = detail.text.toList ++ behind ∧
      type = detail.type.toList ∧ limit = detail.limit.toList ∧
      length = detail.length.toList := by
  obtain ⟨text₁, h₁, h⟩ := Option.bind_eq_some_iff.mp h
  obtain ⟨⟨type', text₂⟩, htype, h⟩ := Option.bind_eq_some_iff.mp h
  obtain ⟨text₃, h₃, h⟩ := Option.bind_eq_some_iff.mp h
  obtain ⟨⟨limit', text₄⟩, hlimit, h⟩ := Option.bind_eq_some_iff.mp h
  obtain ⟨text₅, h₅, h⟩ := Option.bind_eq_some_iff.mp h
  obtain ⟨⟨capacity, text₆⟩, hcapacity, h⟩ := Option.bind_eq_some_iff.mp h
  obtain ⟨text₇, h₇, h⟩ := Option.bind_eq_some_iff.mp h
  obtain ⟨⟨length', behind⟩, hlength, h⟩ := Option.bind_eq_some_iff.mp h
  cases h
  obtain ⟨htypeRun, rfl⟩ := eq_append_of_run? htype
  obtain ⟨hlimitRun, rfl⟩ := eq_append_of_run? hlimit
  obtain ⟨hcapacityRun, rfl⟩ := eq_append_of_run? hcapacity
  obtain ⟨hlengthRun, rfl⟩ := eq_append_of_run? hlength
  refine ⟨⟨String.ofList type, String.ofList limit, String.ofList capacity, String.ofList length,
    by simpa using htypeRun, by simpa using hlimitRun, by simpa using hcapacityRun,
    by simpa using hlengthRun⟩, behind, ?_, by simp, by simp, by simp⟩
  rw [Detail.toList_text, dropHead?_eq_some.mp h₁, dropHead?_eq_some.mp h₃,
    dropHead?_eq_some.mp h₅, dropHead?_eq_some.mp h₇]
  simp only [String.toList_ofList, List.append_assoc]

/-! ### Names and places -/

section Overlaps

variable {c : Char} {more before behind rest text head : List Char}

/-- Words whose first character does not come again stand at the start of a text and behind its
first characters only if those hold them. -/
theorem infix_of_append_eq (hc : c ∉ more) (hne : before ≠ [])
    (h : before ++ (c :: more ++ rest) = c :: more ++ behind) : c :: more <:+: before := by
  rcases List.append_eq_append_iff.mp h with ⟨left, hword, hrest⟩ | ⟨left, hbefore, -⟩
  · cases left with
    | nil => exact hword.trans (List.append_nil before) ▸ List.infix_rfl
    | cons d left =>
      obtain ⟨b, before, rfl⟩ := List.exists_cons_of_ne_nil hne
      have hd : c = d := (List.cons.inj hrest).1
      have hmore : more = before ++ d :: left := (List.cons.inj hword).2
      exact absurd (by simp [hmore, hd]) hc
  · exact hbefore ▸ (List.prefix_append _ _).isInfix

/-- What stands in front of a text up to a mark, and has no such mark, stands in front of what the
mark ends. -/
theorem prefix_of_append_mark (hmark : c ∉ head) (h : text ++ c :: behind = head ++ rest) :
    head <+: text := by
  rcases List.append_eq_append_iff.mp h with ⟨left, hhead, hrest⟩ | ⟨left, htext, -⟩
  · cases left with
    | nil => exact hhead.trans (List.append_nil text) ▸ List.prefix_rfl
    | cons d left =>
      have hd : c = d := (List.cons.inj hrest).1
      exact absurd (by simp [hhead, hd]) hmark
  · exact ⟨left, htext.symm⟩

end Overlaps

section Places

variable {before name rest text : List Char} {tail : List Char × List Char × List Char}
  {parts : List Char × List Char × List Char × List Char}

/-- A name goes on until something is read behind it. -/
theorem named?_cons {c : Char} (hline : c ≠ '\n') (begun text : List Char) :
    named? begun (c :: text) =
      ((tail? text).map fun tail => ((c :: begun).reverse, tail)).or
        (named? (c :: begun) text) := by
  rw [named?, if_neg hline]
  cases tail? text <;> rfl

/-- The shortest name behind which something is read is the one that is found. -/
theorem named?_append (hne : name ≠ []) (hline : '\n' ∉ name)
    (hshortest : ∀ first last, name = first ++ last → first ≠ [] → last ≠ [] →
      tail? (last ++ rest) = none)
    (htail : tail? rest = some tail) (begun : List Char) :
    named? begun (name ++ rest) = some (begun.reverse ++ name, tail) := by
  induction name generalizing begun with
  | nil => exact absurd rfl hne
  | cons c name ih =>
    have hline' := List.not_mem_of_not_mem_cons hline
    rw [List.cons_append, named?_cons (List.ne_of_not_mem_cons hline).symm]
    cases name with
    | nil => simp [htail]
    | cons d name =>
      have hlater : ∀ first last, d :: name = first ++ last → first ≠ [] → last ≠ [] →
          tail? (last ++ rest) = none := fun first last hsplit _ hlast =>
        hshortest (c :: first) last (by rw [hsplit, List.cons_append]) (List.cons_ne_nil c first)
          hlast
      rw [hshortest [c] (d :: name) rfl (List.cons_ne_nil c []) (List.cons_ne_nil d name),
        Option.map_none, Option.none_or, ih (List.cons_ne_nil d name) hline' hlater]
      simp

/-- A name is found if something is read behind one. -/
theorem isSome_named? (hne : name ≠ []) (hline : '\n' ∉ name) (htail : tail? rest = some tail)
    (begun : List Char) : (named? begun (name ++ rest)).isSome = true := by
  induction name generalizing begun with
  | nil => exact absurd rfl hne
  | cons c name ih =>
    have hline' := List.not_mem_of_not_mem_cons hline
    rw [List.cons_append, named?_cons (List.ne_of_not_mem_cons hline).symm, Option.isSome_or,
      Bool.or_eq_true]
    cases name with
    | nil => simp [htail]
    | cons d name => exact .inr (ih (List.cons_ne_nil d name) hline' _)

/-- Behind a name that is found something is read. -/
theorem exists_name_of_named? {begun : List Char} (h : named? begun text = some parts) :
    ∃ name rest, text = name ++ rest ∧ name ≠ [] ∧ '\n' ∉ name ∧
      parts.1 = begun.reverse ++ name ∧ tail? rest = some parts.2 := by
  induction text generalizing begun with
  | nil => cases h
  | cons c text ih =>
    by_cases hline : c = '\n'
    · rw [named?, if_pos hline] at h
      cases h
    · rw [named?_cons hline, Option.or_eq_some_iff] at h
      rcases h with h | ⟨-, h⟩
      · obtain ⟨tail, htail, rfl⟩ := Option.map_eq_some_iff.mp h
        exact ⟨[c], text, rfl, by simp, by simpa using Ne.symm hline, by simp, htail⟩
      · obtain ⟨name, rest, rfl, -, hline', hparts, htail⟩ := ih h
        exact ⟨c :: name, rest, rfl, by simp,
          List.not_mem_cons_of_ne_of_not_mem (Ne.symm hline) hline', by simp [hparts], htail⟩

/-- The search goes on behind a character where no field is found in front of it. -/
theorem search?_cons (c : Char) (text : List Char) :
    search? (c :: text) =
      ((dropHead? "Field ".toList (c :: text)).bind (named? [])).or (search? text) := by
  rw [search?]
  cases (dropHead? "Field ".toList (c :: text)).bind (named? []) <;> rfl

/-- What is found at the start of a text is found by the search. -/
theorem search?_field (h : named? [] rest = some parts) :
    search? ("Field ".toList ++ rest) = some parts := by
  have hhead : dropHead? "Field ".toList ("Field ".toList ++ rest) = some rest :=
    dropHead?_eq_some.mpr rfl
  obtain ⟨c, text, hcons⟩ : ∃ c text, "Field ".toList ++ rest = c :: text := ⟨_, _, rfl⟩
  rw [hcons] at hhead ⊢
  rw [search?_cons, hhead, Option.bind_some, h, Option.some_or]

/-- Behind words that do not speak of a field the first field is the next one. -/
theorem search?_append (hbefore : ¬"Field ".toList <:+: before)
    (h : named? [] rest = some parts) :
    search? (before ++ ("Field ".toList ++ rest)) = some parts := by
  induction before with
  | nil => exact search?_field h
  | cons c before ih =>
    have hnone : dropHead? "Field ".toList (c :: (before ++ ("Field ".toList ++ rest))) = none := by
      rw [Option.eq_none_iff_forall_ne_some]
      intro behind hdrop
      have hsame : c :: (before ++ ("Field ".toList ++ rest)) = "Field ".toList ++ behind :=
        dropHead?_eq_some.mp hdrop
      exact hbefore (infix_of_append_eq (by decide) (List.cons_ne_nil c before) hsame)
    rw [List.cons_append, search?_cons, hnone, Option.bind_none, Option.none_or]
    exact ih fun hpart => hbefore (hpart.trans (List.suffix_cons c before).isInfix)

/-- The search finds something if a name is found at some place. -/
theorem isSome_search? (h : named? [] rest = some parts) (before : List Char) :
    (search? (before ++ ("Field ".toList ++ rest))).isSome = true := by
  induction before with
  | nil => rw [List.nil_append, search?_field h, Option.isSome_some]
  | cons c before ih =>
    rw [List.cons_append, search?_cons, Option.isSome_or, Bool.or_eq_true]
    exact .inr ih

/-- What the search finds stands at some place. -/
theorem exists_place_of_search? (h : search? text = some parts) :
    ∃ before rest, text = before ++ ("Field ".toList ++ rest) ∧ named? [] rest = some parts := by
  induction text with
  | nil => cases h
  | cons c text ih =>
    rw [search?_cons, Option.or_eq_some_iff] at h
    rcases h with h | ⟨-, h⟩
    · obtain ⟨rest, hdrop, hnamed⟩ := Option.bind_eq_some_iff.mp h
      have hsame : c :: text = "Field ".toList ++ rest := dropHead?_eq_some.mp hdrop
      exact ⟨[], rest, hsame, hnamed⟩
    · obtain ⟨before, rest, rfl, hnamed⟩ := ih h
      exact ⟨c :: before, rest, rfl, hnamed⟩

end Places

/-! ### The search for a sentence -/

/-- Behind the colon stand words without a colon that speak of a maximum length. -/
theorem Detail.exists_words (detail : Detail) :
    ∃ words rest, detail.text.toList = ':' :: (words ++ rest) ∧ ':' ∉ words ∧
      " has maximum length".toList <:+: words := by
  have hcolon : ": ".toList = [':', ' '] := rfl
  have hlimit : limitWords = [')'] ++ (" has maximum length".toList ++ [' ']) := rfl
  refine ⟨[' '] ++ (detail.type.toList ++ (['('] ++ (detail.limit.toList ++ limitWords))),
    detail.capacity.toList ++ (lengthWords ++ detail.length.toList), ?_, ?_, ?_⟩
  · rw [detail.toList_text, hcolon]
    simp only [List.append_assoc, List.cons_append, List.nil_append]
  · have htype : ':' ∉ detail.type.toList := detail.type_run.notMem (by decide)
    have hdigits : ':' ∉ detail.limit.toList := detail.limit_run.notMem (by decide)
    have hwords : ':' ∉ limitWords := by decide
    simp only [List.mem_append, htype, hdigits, hwords, List.mem_singleton, or_false]
    decide
  · rw [hlimit]
    exact ⟨[' '] ++ (detail.type.toList ++ (['('] ++ (detail.limit.toList ++ [')']))), [' '],
      by simp only [List.append_assoc]⟩

/-- Nothing is read inside of a name that does not speak of a maximum length: up to the colon behind
the name there would have to be the words about it. -/
theorem tail?_inside {first last : List Char} (detail : Detail) (behind : List Char)
    (hmark : ¬" has maximum length".toList <:+: first ++ last) (hlast : last ≠ []) :
    tail? (last ++ (detail.text.toList ++ behind)) = none := by
  rw [Option.eq_none_iff_forall_ne_some]
  rintro ⟨type, limit, length⟩ htail
  obtain ⟨other, rest, hsame, -⟩ := exists_detail_of_tail? htail
  obtain ⟨words, rest₁, hother, hcolon, hspeaks⟩ := other.exists_words
  obtain ⟨words₂, rest₂, hdetail, -, -⟩ := detail.exists_words
  obtain ⟨c, last, rfl⟩ := List.exists_cons_of_ne_nil hlast
  rw [hother, hdetail] at hsame
  have htails : last ++ ':' :: (words₂ ++ rest₂ ++ behind) = words ++ (rest₁ ++ rest) :=
    (List.cons.inj hsame).2.trans (List.append_assoc _ _ _)
  have hwords : words <:+: last := (prefix_of_append_mark hcolon htails).isInfix
  have hname : last <:+: first ++ c :: last :=
    ((List.suffix_cons c last).trans (List.suffix_append first _)).isInfix
  exact hmark (hspeaks.trans (hwords.trans hname))

/-- A sentence whose name does not speak of a maximum length is found, and its name is found whole,
where no field is spoken of before it. -/
theorem search?_sentence (sentence : Sentence) {before : List Char} (behind : List Char)
    (hname : ¬" has maximum length".toList <:+: sentence.name.toList)
    (hbefore : ¬"Field ".toList <:+: before) :
    search? (before ++ (sentence.text.toList ++ behind)) =
      some (sentence.name.toList, sentence.type.toList, sentence.limit.toList,
        sentence.length.toList ++ behind.takeWhile isDigit) := by
  rw [sentence.toList_text, List.append_assoc, List.append_assoc]
  refine search?_append hbefore (named?_append sentence.toList_name_ne sentence.name_line
    (fun first last hsplit _ hlast => ?_) (tail?_append sentence.toDetail behind) [])
  exact tail?_inside sentence.toDetail behind (hsplit ▸ hname) hlast

/-- The search finds nothing exactly where no sentence stands. -/
theorem search?_eq_none {text : List Char} :
    search? text = none ↔ ∀ sentence : Sentence, ¬sentence.text.toList <:+: text := by
  constructor
  · rintro hnone sentence ⟨before, behind, rfl⟩
    obtain ⟨parts, hparts⟩ := Option.isSome_iff_exists.mp (isSome_named? sentence.toList_name_ne
      sentence.name_line (tail?_append sentence.toDetail behind) [])
    have hfound := isSome_search? hparts before
    rw [sentence.toList_text] at hnone
    simp only [List.append_assoc] at hnone
    rw [hnone] at hfound
    cases hfound
  · intro hnowhere
    rw [Option.eq_none_iff_forall_ne_some]
    intro parts hparts
    obtain ⟨before, rest, rfl, hnamed⟩ := exists_place_of_search? hparts
    obtain ⟨name, rest, rfl, hne, hline, -, htail⟩ := exists_name_of_named? hnamed
    obtain ⟨detail, behind, rfl, -⟩ := exists_detail_of_tail? htail
    refine hnowhere ⟨detail, String.ofList name, by simpa using hne, by simpa using hline⟩
      ⟨before, behind, ?_⟩
    rw [Sentence.toList_text]
    simp only [String.toList_ofList, List.append_assoc]

end Overflow

namespace Failure

/-- A message about a value that is too long gives exactly the parts of the sentence in it, and none
if no such sentence stands in it: a sentence is read whole if its name does not itself speak of a
maximum length, nothing in front of it speaks of a field, no digit goes on behind it, and its two
lengths have no more digits than a number may have. -/
theorem ofOverflow_sentence :
    (∀ (before behind : String) (sentence : Overflow.Sentence),
      ¬Contains sentence.name " has maximum length" → ¬Contains before "Field " →
      (∀ c, behind.toList.head? = some c → isDigit c = false) →
      sentence.limit.length ≤ Number.digitLimit → sentence.length.length ≤ Number.digitLimit →
      ofOverflow (before ++ sentence.text ++ behind) =
        .ok (.tooLong (before ++ sentence.text ++ behind)
          (some ⟨sentence.name, sentence.type, ofDigits sentence.limit.toList,
            ofDigits sentence.length.toList⟩))) ∧
    ∀ message, ofOverflow message = .ok (.tooLong message none) ↔
      ∀ sentence : Overflow.Sentence, ¬Contains message sentence.text := by
  refine ⟨fun before behind sentence hname hbefore hbehind hlimit hlength => ?_,
    fun message => ?_⟩
  · have hend : behind.toList.takeWhile isDigit = [] := by
      cases hcons : behind.toList with
      | nil => rfl
      | cons c rest => simp [hbehind c (by rw [hcons]; rfl)]
    have hsearch : Overflow.search? (before ++ sentence.text ++ behind).toList =
        some (sentence.name.toList, sentence.type.toList, sentence.limit.toList,
          sentence.length.toList) := by
      rw [String.toList_append, String.toList_append, List.append_assoc,
        Overflow.search?_sentence sentence _ hname hbefore, hend, List.append_nil]
    rw [← String.length_toList] at hlimit hlength
    simp only [ofOverflow, Overflow.ofMessage, hsearch, Overflow.ofParts,
      Nat.not_lt.mpr hlimit, Nat.not_lt.mpr hlength, if_false, Except.map, String.ofList_toList]
  · refine Iff.trans ?_ Overflow.search?_eq_none
    cases hsearch : Overflow.search? message.toList with
    | none => simp [ofOverflow, Overflow.ofMessage, hsearch]
    | some parts =>
      cases hparts : Overflow.ofParts parts <;>
        simp [ofOverflow, Overflow.ofMessage, hsearch, hparts, Except.map]

/-- A sentence whose name holds a colon, parentheses and another field. -/
def nestedSentence : Overflow.Sentence where
  name := "a: b(1) Field c"
  type := "STRING"
  limit := "5"
  capacity := "7"
  length := "12"
  name_ne := by decide
  name_line := by decide
  type_run := by decide
  limit_run := by decide
  capacity_run := by decide
  length_run := by decide

/-- Its name is found whole behind other words. -/
theorem ofOverflow_sentence_nested :
    ofOverflow ("row 3: " ++ nestedSentence.text ++ " there") =
      .ok (.tooLong ("row 3: " ++ nestedSentence.text ++ " there")
        (some ⟨"a: b(1) Field c", "STRING", 5, 12⟩)) := by
  have hname : ¬Contains nestedSentence.name " has maximum length" := fun hmark =>
    absurd (mentions_eq_true.mpr hmark) (by decide)
  have hbefore : ¬Contains "row 3: " "Field " := fun hmark =>
    absurd (mentions_eq_true.mpr hmark) (by decide)
  have hbehind : ∀ c, " there".toList.head? = some c → isDigit c = false := by
    intro c hc
    obtain rfl : ' ' = c := Option.some.inj hc
    rfl
  exact ofOverflow_sentence.1 "row 3: " " there" nestedSentence hname hbefore hbehind
    (by decide) (by decide)

/-- Digits of every script count as digits, and a type has at least one character. -/
theorem ofOverflow_other_words :
    "Field x: STRING(５) has maximum length ５ but got a value with length ６".toList.all
      (fun c => !('0' ≤ c && c ≤ '9')) = true ∧
    ofOverflow "Field x: STRING(５) has maximum length ５ but got a value with length ６" =
      .ok (.tooLong "Field x: STRING(５) has maximum length ５ but got a value with length ６"
        (some ⟨"x", "STRING", 5, 6⟩)) ∧
    ofOverflow "Field x: (5) has maximum length 5 but got a value with length 6" =
      .ok (.tooLong "Field x: (5) has maximum length 5 but got a value with length 6" none) := by
  refine ⟨by decide, ?_, ?_⟩
  · have hfound : Overflow.search?
        "Field x: STRING(５) has maximum length ５ but got a value with length ６".toList =
          some ("x".toList, "STRING".toList, "５".toList, "６".toList) := by decide +kernel
    rw [ofOverflow, Overflow.ofMessage, hfound]
    rfl
  · have hnone : Overflow.search?
        "Field x: (5) has maximum length 5 but got a value with length 6".toList = none := by
      decide +kernel
    rw [ofOverflow, Overflow.ofMessage, hnone]

end Failure

end WarehouseImport
