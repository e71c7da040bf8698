import Mathlib.Data.List.Nodup
import WarehouseImport.Proofs.Payload.Quoting

/-!
# Documents read back

A document without doubles, whose whole numbers fit 64 bits, whose objects have each name once and
whose lists and objects are nested no deeper than is written, has a text, and that text is read as
the document. A value is read back in front of whatever may follow it in a larger document, with
fuel for as many parts as its text has characters.
-/

namespace WarehouseImport

namespace Keyed

variable {α : Type}

/-- Items of distinct keys are all put at the end. -/
theorem foldl_put {key : α → String} {items added : List α}
    (hdistinct : ((items ++ added).map key).Nodup) :
    added.foldl (fun items item => put key item items) items = items ++ added := by
  induction added generalizing items with
  | nil => simp
  | cons item rest ih =>
    have hsplit : items ++ item :: rest = (items ++ [item]) ++ rest := by simp
    have hnew : key item ∉ items.map key := by
      rw [List.map_append, List.map_cons, List.nodup_append] at hdistinct
      exact fun hmem => hdistinct.2.2 _ hmem _ List.mem_cons_self rfl
    rw [List.foldl_cons, put_of_notMem hnew, ih (hsplit ▸ hdistinct), hsplit]

end Keyed

namespace Json

/-- Members of distinct names all remain, in their order. -/
theorem mergeMembers_of_nodup {members : List (String × Json)}
    (hdistinct : (members.map Prod.fst).Nodup) : mergeMembers members = members := by
  rw [mergeMembers, Keyed.foldl_put (by simpa using hdistinct), List.nil_append]

/-- What may stand behind a value: nothing, a comma or a closing bracket. -/
def Closes (rest : List Char) : Prop := ∀ c ∈ rest.head?, c ∈ [',', ']', '\x7d']

/-- Nothing closes a document. -/
theorem closes_nil : Closes [] := by
  simp [Closes]

/-- A comma or a closing bracket closes a value, whatever follows it. -/
theorem closes_cons {c : Char} (h : c ∈ [',', ']', '\x7d']) (rest : List Char) :
    Closes (c :: rest) := by
  simpa [Closes] using h

/-- The first character of a text that closes a value goes on no number. -/
theorem Closes.head_of_cons {c : Char} {rest : List Char} (h : Closes (c :: rest)) :
    isDecimal c = false ∧ c ≠ '.' ∧ (c == 'e' || c == 'E') = false := by
  have hmem := h c rfl
  simp only [List.mem_cons, List.not_mem_nil, or_false] at hmem
  rcases hmem with rfl | rfl | rfl <;> decide

/-! ## Whole numbers -/

/-- The digits of a number are digits. -/
theorem isDecimal_of_mem_toDigits {number : Nat} {c : Char} (h : c ∈ Nat.toDigits 10 number) :
    isDecimal c = true := by
  have hdigit := Nat.isDigit_of_mem_toDigits (by decide) (by decide) h
  simp only [Char.isDigit, Bool.and_eq_true, decide_eq_true_eq] at hdigit
  exact Bool.and_eq_true_iff.mpr ⟨decide_eq_true hdigit.1, decide_eq_true hdigit.2⟩

/-- A number that is not zero does not start with zero. -/
theorem toDigits_eq_cons {number : Nat} (h : 0 < number) :
    ∃ c rest, Nat.toDigits 10 number = c :: rest ∧ c ≠ '0' := by
  induction number using Nat.strongRecOn with
  | ind number ih =>
    rw [Nat.toDigits_eq_if (by decide)]
    by_cases hsmall : number < 10
    · have hdigit : ∀ n < 10, 0 < n → n.digitChar ≠ '0' := by decide
      exact ⟨_, _, if_pos hsmall, hdigit number hsmall h⟩
    · obtain ⟨c, rest, hdigits, hne⟩ := ih (number / 10) (by omega) (by omega)
      rw [if_neg hsmall, hdigits]
      exact ⟨c, _, rfl, hne⟩

/-- The digits of a number are read up to what closes it. -/
theorem readWhole?_toDigits (number : Nat) {rest : List Char} (hrest : Closes rest) :
    readWhole? (Nat.toDigits 10 number ++ rest) = some (Nat.toDigits 10 number, rest) := by
  have hstop : rest.takeWhile isDecimal = [] ∧ rest.dropWhile isDecimal = rest := by
    cases rest with
    | nil => exact ⟨rfl, rfl⟩
    | cons c rest =>
      obtain ⟨hdecimal, -, -⟩ := hrest.head_of_cons
      exact ⟨List.takeWhile_cons_of_neg (by simp [hdecimal]),
        List.dropWhile_cons_of_neg (by simp [hdecimal])⟩
  rcases Nat.eq_zero_or_pos number with rfl | hpos
  · have hhead : (rest.head?.map isDecimal).getD false = false := by
      cases rest with
      | nil => rfl
      | cons c rest => exact hrest.head_of_cons.1
    show (if (rest.head?.map isDecimal).getD false = true then none else some (['0'], rest)) = _
    rw [hhead]
    rfl
  · obtain ⟨c, digits, hdigits, hzero⟩ := toDigits_eq_cons hpos
    have hall : ∀ c ∈ Nat.toDigits 10 number, isDecimal c = true :=
      fun c hmem => isDecimal_of_mem_toDigits hmem
    have htake : (Nat.toDigits 10 number ++ rest).takeWhile isDecimal = Nat.toDigits 10 number := by
      rw [List.takeWhile_append_of_pos hall, hstop.1, List.append_nil]
    have hdrop : (Nat.toDigits 10 number ++ rest).dropWhile isDecimal = rest := by
      rw [List.dropWhile_append_of_pos hall, hstop.2]
    have hfirst : isDecimal c = true := hall c (by rw [hdigits]; exact List.mem_cons_self)
    rw [hdigits, List.cons_append] at htake hdrop ⊢
    unfold readWhole?
    split
    · next heq => cases heq; exact absurd rfl hzero
    · next heq =>
      cases heq
      rw [if_pos hfirst, htake, hdrop]
    · next heq => cases heq

/-- What closes a number holds no fraction and no exponent. -/
theorem readFraction?_closes {rest : List Char} (hrest : Closes rest) :
    readFraction? rest = some (none, rest) ∧ readExponent? rest = some (none, rest) := by
  cases rest with
  | nil => exact ⟨rfl, rfl⟩
  | cons c rest =>
    obtain ⟨-, hpoint, hexponent⟩ := hrest.head_of_cons
    constructor
    · unfold readFraction?
      split
      · next heq => cases heq; exact absurd rfl hpoint
      · rfl
    · simp [readExponent?, hexponent]

/-- The digits of a number that is kept are read as the number. -/
theorem readMagnitude?_toDigits {keeps : Int → Bool} {negative : Bool} {number : Nat}
    (hkeeps : keeps (if negative then -Int.ofNat number else Int.ofNat number) = true)
    {rest : List Char} (hrest : Closes rest) :
    readMagnitude? keeps negative (Nat.toDigits 10 number ++ rest) =
      some (.int (if negative then -Int.ofNat number else Int.ofNat number), rest) := by
  obtain ⟨hfraction, hexponent⟩ := readFraction?_closes hrest
  have hvalue : decimalValue (Nat.toDigits 10 number) = number :=
    Nat.ofDigitChars_toDigits (by decide) (by decide)
  simp only [readMagnitude?, readWhole?_toDigits number hrest, hfraction, hexponent, hvalue,
    Option.bind_eq_bind, Option.bind_some, Option.isNone_none, Bool.true_and, hkeeps, if_true]
  rfl

/-- Nothing is skipped in front of what is no white space. -/
theorem skipSpace_cons {c : Char} (h : isSpace c = false) (rest : List Char) :
    skipSpace (c :: rest) = c :: rest :=
  List.dropWhile_cons_of_neg (by simp [h])

/-- A value that starts with a digit is a number. -/
theorem readValue?_of_isDecimal {keeps : Int → Bool} {fuel depth : Nat} {c : Char}
    {rest : List Char} (hc : isDecimal c = true) :
    readValue? keeps (fuel + 1) depth (c :: rest) = readMagnitude? keeps false (c :: rest) := by
  rw [readValue?]
  all_goals
    intro tail heq
    cases heq
    cases hc

/-! ## Values -/

/-- A document that is written and read back: it holds no doubles, its whole numbers fit 64 bits,
its objects have each name once, and its lists and objects are nested within the depth. -/
inductive Writable : Nat → Json → Prop
  | null {depth : Nat} : Writable depth .null
  | bool {depth : Nat} (flag : Bool) : Writable depth (.bool flag)
  | int {depth : Nat} {number : Int} (fits : fitsWord number = true) : Writable depth (.int number)
  | str {depth : Nat} (text : String) : Writable depth (.str text)
  | arr {depth : Nat} {items : List Json} (inner : ∀ item ∈ items, Writable depth item) :
      Writable (depth + 1) (.arr items)
  | obj {depth : Nat} {members : List (String × Json)}
      (distinct : (members.map Prod.fst).Nodup)
      (inner : ∀ member ∈ members, Writable depth member.2) :
      Writable (depth + 1) (.obj members)

/-- A text of a value: it starts with neither white space nor a closing bracket, and it is read as
the value in front of whatever closes one. -/
structure Recovers (depth : Nat) (value : Json) (text : List Char) : Prop where
  opens : ∃ c rest, text = c :: rest ∧ isSpace c = false ∧ c ≠ ']'
  reads : ∀ fuel nesting rest, text.length ≤ fuel → depth ≤ nesting → Closes rest →
    readValue? fitsWord fuel nesting (text ++ rest) = some (value, rest)

/-- A text recovers its value if, past its first character, there is fuel for every other one. -/
theorem Recovers.of_cons {depth : Nat} {value : Json} {c : Char} {more : List Char}
    (hspace : isSpace c = false) (hbracket : c ≠ ']')
    (hreads : ∀ fuel nesting rest, more.length ≤ fuel → depth ≤ nesting → Closes rest →
      readValue? fitsWord (fuel + 1) nesting (c :: (more ++ rest)) = some (value, rest)) :
    Recovers depth value (c :: more) := by
  refine ⟨⟨c, more, rfl, hspace, hbracket⟩, fun fuel nesting rest hfuel hdepth hrest => ?_⟩
  rw [List.length_cons] at hfuel
  obtain ⟨fuel, rfl⟩ : ∃ n, fuel = n + 1 := ⟨fuel - 1, by omega⟩
  exact hreads fuel nesting rest (by omega) hdepth hrest

/-- The text of a value is read from where it starts. -/
theorem Recovers.skipSpace_append {depth : Nat} {value : Json} {text : List Char}
    (h : Recovers depth value text) (rest : List Char) :
    skipSpace (text ++ rest) = text ++ rest := by
  obtain ⟨c, more, rfl, hspace, -⟩ := h.opens
  exact skipSpace_cons hspace _

/-- A digit is neither white space nor a bracket. -/
theorem not_isSpace_of_isDecimal {c : Char} (hc : isDecimal c = true) :
    isSpace c = false ∧ c ≠ ']' := by
  constructor
  · cases hspace : isSpace c with
    | false => rfl
    | true =>
      simp only [isSpace, Bool.or_eq_true, beq_iff_eq] at hspace
      rcases hspace with ((rfl | rfl) | rfl) | rfl <;> cases hc
  · rintro rfl
    cases hc

/-- A whole number that fits 64 bits is read back. -/
theorem recovers_int {depth : Nat} {number : Int} (hfits : fitsWord number = true) :
    Recovers depth (.int number) (intText number) := by
  cases number with
  | ofNat number =>
    have hkeeps : fitsWord (if false = true then -Int.ofNat number else Int.ofNat number) =
        true := hfits
    obtain ⟨c, more, hdigits⟩ := List.exists_cons_of_ne_nil
      (Nat.toDigits_ne_nil : Nat.toDigits 10 number ≠ [])
    have hc : isDecimal c = true :=
      isDecimal_of_mem_toDigits (by rw [hdigits]; exact List.mem_cons_self)
    have htext : intText (Int.ofNat number) = c :: more := hdigits ▸ if_neg (by simp)
    obtain ⟨hspace, hbracket⟩ := not_isSpace_of_isDecimal hc
    rw [htext]
    refine .of_cons hspace hbracket fun fuel nesting rest _ _ hrest => ?_
    have hread := readMagnitude?_toDigits hkeeps hrest
    rw [if_neg (by decide), hdigits] at hread
    rw [readValue?_of_isDecimal hc]
    exact hread
  | negSucc number =>
    have hkeeps : fitsWord (if true = true then -Int.ofNat (number + 1)
        else Int.ofNat (number + 1)) = true := hfits
    have htext : intText (Int.negSucc number) = '-' :: Nat.toDigits 10 (number + 1) :=
      if_pos (Int.negSucc_lt_zero number)
    rw [htext]
    refine .of_cons (by decide) (by decide) fun fuel nesting rest _ _ hrest => ?_
    have hread := readMagnitude?_toDigits hkeeps hrest
    rw [if_pos rfl] at hread
    rw [readValue?]
    exact hread

/-- A text is read back. -/
theorem recovers_str {depth : Nat} (text : String) : Recovers depth (.str text) (quote text) := by
  refine .of_cons (by decide) (by decide) fun fuel nesting rest _ _ _ => ?_
  obtain ⟨tail, htail, hread⟩ := readText?_quote text rest
  cases htail
  rw [readValue?]
  exact congrArg _ hread

/-- The items of a list that is not empty are read back up to its closing bracket. -/
theorem readItems?_write {depth : Nat} {items : List Json} (hitems : items ≠ [])
    (hinner : ∀ item ∈ items, ∃ text, write? depth item = some text ∧ Recovers depth item text) :
    ∃ body, writeItems? depth items = some body ∧
      (∃ c rest, body = c :: rest ∧ isSpace c = false ∧ c ≠ ']') ∧
      ∀ fuel nesting rest, body.length < fuel → depth ≤ nesting →
        readItems? fitsWord fuel nesting (body ++ ']' :: rest) = some (items, rest) := by
  induction items with
  | nil => exact absurd rfl hitems
  | cons item items ih =>
    obtain ⟨head, hhead, hrecovers⟩ := hinner item List.mem_cons_self
    cases items with
    | nil =>
      refine ⟨head, by simp [writeItems?, hhead], hrecovers.opens,
        fun fuel nesting rest hfuel hdepth => ?_⟩
      obtain ⟨fuel, rfl⟩ : ∃ n, fuel = n + 1 := ⟨fuel - 1, by omega⟩
      rw [readItems?, hrecovers.reads fuel nesting _ (by omega) hdepth (closes_cons (by decide) _)]
      rfl
    | cons next items =>
      obtain ⟨tail, htail, ⟨c, more, hc, hspace, -⟩, hreads⟩ :=
        ih (by simp) fun item hmem => hinner item (List.mem_cons_of_mem _ hmem)
      obtain ⟨first, front, hfirst, hopens⟩ := hrecovers.opens
      refine ⟨head ++ ',' :: tail, by rw [writeItems?, hhead, htail]; rfl,
        ⟨first, front ++ ',' :: tail, by rw [hfirst]; rfl, hopens⟩,
        fun fuel nesting rest hfuel hdepth => ?_⟩
      rw [List.length_append, List.length_cons] at hfuel
      obtain ⟨fuel, rfl⟩ : ∃ n, fuel = n + 1 := ⟨fuel - 1, by omega⟩
      have hskip : skipSpace (tail ++ ']' :: rest) = tail ++ ']' :: rest := by
        rw [hc]
        exact skipSpace_cons hspace _
      rw [List.append_assoc, List.cons_append, readItems?,
        hrecovers.reads fuel nesting _ (by omega) hdepth (closes_cons (by decide) _)]
      show (readItems? fitsWord fuel nesting (skipSpace (tail ++ ']' :: rest))).map _ = _
      rw [hskip, hreads fuel nesting rest (by omega) hdepth]
      rfl

/-- The name and the value of a member are read up to what closes it: a brace ends the object, and
behind a comma the others are read. -/
theorem readMembers?_member {depth fuel nesting : Nat} {name : String} {value : Json}
    {text : List Char} (h : Recovers depth value text) (hfuel : text.length ≤ fuel)
    (hdepth : depth ≤ nesting) (rest : List Char) :
    readMembers? fitsWord (fuel + 1) nesting (quote name ++ ':' :: (text ++ '\x7d' :: rest)) =
        some ([(name, value)], rest) ∧
      readMembers? fitsWord (fuel + 1) nesting (quote name ++ ':' :: (text ++ ',' :: rest)) =
        (readMembers? fitsWord fuel nesting (skipSpace rest)).map fun read =>
          ((name, value) :: read.1, read.2) := by
  have hcolon (behind : List Char) : skipSpace (':' :: behind) = ':' :: behind :=
    skipSpace_cons (by decide) _
  have hbrace : skipSpace ('\x7d' :: rest) = '\x7d' :: rest := skipSpace_cons (by decide) _
  have hcomma : skipSpace (',' :: rest) = ',' :: rest := skipSpace_cons (by decide) _
  constructor
  · obtain ⟨tail, htail, hname⟩ := readText?_quote name (':' :: (text ++ '\x7d' :: rest))
    have hvalue := h.reads fuel nesting ('\x7d' :: rest) hfuel hdepth (closes_cons (by decide) rest)
    rw [htail, readMembers?]
    simp only [hname, hcolon, h.skipSpace_append, hvalue, hbrace]
  · obtain ⟨tail, htail, hname⟩ := readText?_quote name (':' :: (text ++ ',' :: rest))
    have hvalue := h.reads fuel nesting (',' :: rest) hfuel hdepth (closes_cons (by decide) rest)
    rw [htail, readMembers?]
    simp only [hname, hcolon, h.skipSpace_append, hvalue, hcomma]

/-- The members of an object that is not empty are read back up to its closing brace. -/
theorem readMembers?_write {depth : Nat} {members : List (String × Json)} (hmembers : members ≠ [])
    (hinner : ∀ member ∈ members,
      ∃ text, write? depth member.2 = some text ∧ Recovers depth member.2 text) :
    ∃ body, writeMembers? depth members = some body ∧ (∃ rest, body = '"' :: rest) ∧
      ∀ fuel nesting rest, body.length < fuel → depth ≤ nesting →
        readMembers? fitsWord fuel nesting (body ++ '\x7d' :: rest) = some (members, rest) := by
  induction members with
  | nil => exact absurd rfl hmembers
  | cons member members ih =>
    obtain ⟨name, value⟩ := member
    obtain ⟨text, htext, hrecovers⟩ := hinner (name, value) List.mem_cons_self
    cases members with
    | nil =>
      refine ⟨quote name ++ ':' :: text, by rw [writeMembers?, htext]; rfl, ⟨_, rfl⟩,
        fun fuel nesting rest hfuel hdepth => ?_⟩
      rw [List.length_append, List.length_cons] at hfuel
      obtain ⟨fuel, rfl⟩ : ∃ n, fuel = n + 1 := ⟨fuel - 1, by omega⟩
      rw [List.append_assoc, List.cons_append,
        (readMembers?_member hrecovers (by omega) hdepth rest).1]
    | cons next members =>
      obtain ⟨tail, htail, ⟨more, hquote⟩, hreads⟩ :=
        ih (by simp) fun member hmem => hinner member (List.mem_cons_of_mem _ hmem)
      refine ⟨quote name ++ ':' :: text ++ ',' :: tail, by rw [writeMembers?, htext, htail]; rfl,
        ⟨_, rfl⟩, fun fuel nesting rest hfuel hdepth => ?_⟩
      simp only [List.length_append, List.length_cons] at hfuel
      obtain ⟨fuel, rfl⟩ : ∃ n, fuel = n + 1 := ⟨fuel - 1, by omega⟩
      have hskip : skipSpace (tail ++ '\x7d' :: rest) = tail ++ '\x7d' :: rest := by
        rw [hquote]
        exact skipSpace_cons (by decide) _
      simp only [List.append_assoc, List.cons_append]
      rw [(readMembers?_member hrecovers (by omega) hdepth _).2, hskip,
        hreads fuel nesting rest (by omega) hdepth]
      rfl

/-- A list is read back if its items are. -/
theorem recovers_arr {depth : Nat} {items : List Json}
    (hinner : ∀ item ∈ items, ∃ text, write? depth item = some text ∧ Recovers depth item text) :
    ∃ text, write? (depth + 1) (.arr items) = some text ∧
      Recovers (depth + 1) (.arr items) text := by
  by_cases hitems : items = []
  · subst hitems
    refine ⟨['[', ']'], rfl,
      .of_cons (by decide) (by decide) fun fuel nesting rest _ hdepth _ => ?_⟩
    obtain ⟨nesting, rfl⟩ : ∃ n, nesting = n + 1 := ⟨nesting - 1, by omega⟩
    rfl
  · obtain ⟨body, hbody, ⟨c, more, hc, hspace, hbracket⟩, hreads⟩ := readItems?_write hitems hinner
    refine ⟨'[' :: (body ++ [']']), by rw [write?, hbody]; rfl,
      .of_cons (by decide) (by decide) fun fuel nesting rest hfuel hdepth _ => ?_⟩
    rw [List.length_append, List.length_singleton] at hfuel
    obtain ⟨nesting, rfl⟩ : ∃ n, nesting = n + 1 := ⟨nesting - 1, by omega⟩
    have hskip : skipSpace (body ++ ']' :: rest) = body ++ ']' :: rest := by
      rw [hc]
      exact skipSpace_cons hspace _
    have hread := hreads fuel nesting rest (by omega) (by omega)
    rw [List.append_assoc, List.singleton_append, readValue?]
    simp only [hskip]
    split
    · next heq =>
      rw [hc] at heq
      cases heq
      exact absurd rfl hbracket
    · rw [hread]
      rfl

/-- An object of distinct names is read back if its values are. -/
theorem recovers_obj {depth : Nat} {members : List (String × Json)}
    (hdistinct : (members.map Prod.fst).Nodup)
    (hinner : ∀ member ∈ members,
      ∃ text, write? depth member.2 = some text ∧ Recovers depth member.2 text) :
    ∃ text, write? (depth + 1) (.obj members) = some text ∧
      Recovers (depth + 1) (.obj members) text := by
  by_cases hmembers : members = []
  · subst hmembers
    refine ⟨['\x7b', '\x7d'], rfl,
      .of_cons (by decide) (by decide) fun fuel nesting rest _ hdepth _ => ?_⟩
    obtain ⟨nesting, rfl⟩ : ∃ n, nesting = n + 1 := ⟨nesting - 1, by omega⟩
    rfl
  · obtain ⟨body, hbody, ⟨more, hquote⟩, hreads⟩ := readMembers?_write hmembers hinner
    refine ⟨'\x7b' :: (body ++ ['\x7d']), by rw [write?, hbody]; rfl,
      .of_cons (by decide) (by decide) fun fuel nesting rest hfuel hdepth _ => ?_⟩
    rw [List.length_append, List.length_singleton] at hfuel
    obtain ⟨nesting, rfl⟩ : ∃ n, nesting = n + 1 := ⟨nesting - 1, by omega⟩
    have hskip : skipSpace (body ++ '\x7d' :: rest) = body ++ '\x7d' :: rest := by
      rw [hquote]
      exact skipSpace_cons (by decide) _
    have hread := hreads fuel nesting rest (by omega) (by omega)
    rw [List.append_assoc, List.singleton_append, readValue?]
    simp only [hskip]
    split
    · next heq => rw [hquote] at heq; cases heq
    · rw [hread, Option.map_some, mergeMembers_of_nodup hdistinct]

/-- A document that can be written is read back in front of whatever closes it. -/
theorem Writable.recovers {depth : Nat} {value : Json} (h : Writable depth value) :
    ∃ text, write? depth value = some text ∧ Recovers depth value text := by
  induction h with
  | null => exact ⟨_, rfl, .of_cons (by decide) (by decide) fun _ _ _ _ _ _ => rfl⟩
  | bool flag =>
    cases flag <;> exact ⟨_, rfl, .of_cons (by decide) (by decide) fun _ _ _ _ _ _ => rfl⟩
  | int hfits => exact ⟨_, if_pos hfits, recovers_int hfits⟩
  | str text => exact ⟨_, rfl, recovers_str text⟩
  | arr _ ih => exact recovers_arr ih
  | obj hdistinct _ ih => exact recovers_obj hdistinct ih

/-- A document that can be written has a text, which is read as the document. -/
theorem Writable.read?_print? {value : Json} (h : Writable depthLimit value) :
    ∃ text, print? value = some text ∧ read? text = some value := by
  obtain ⟨text, htext, hrecovers⟩ := h.recovers
  refine ⟨String.ofList text, by rw [print?, htext]; rfl, ?_⟩
  have hread := hrecovers.reads (2 * text.length + 1) (readDepthLimit - 1) [] (by omega)
    (by decide) closes_nil
  have hskip := hrecovers.skipSpace_append []
  rw [List.append_nil] at hread hskip
  unfold read? readWith?
  simp only [String.toList_ofList, hskip, hread]
  rfl

end Json

end WarehouseImport
