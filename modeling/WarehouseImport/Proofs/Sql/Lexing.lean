import WarehouseImport.Sql.Text

/-!
# Statement text read back

A quoted name begins at a backquote. A backslash in it takes the next character as it is, and the
name ends at the first backquote that is not taken so. Every character outside of quoted names is
plain. This is how the warehouse tells the names of a statement from the rest of its text.

The text of pieces is read back as the characters of its plain pieces and the names that it was made
of, whatever the names contain and whatever text follows. The plain pieces must not hold a backquote
of their own. What is left of a text without its names is its outline, with a hole for every name.
-/

namespace WarehouseImport.Sql

/-- What a text is read as: plain characters and quoted names. -/
inductive Lexeme where
  | char (c : Char)
  | name (content : String)
  deriving DecidableEq, Repr

/-- The text behind a name is shorter than the text that the name is read from. -/
theorem length_of_unquoteRest? {text name tail : List Char}
    (h : unquoteRest? text = some (name, tail)) : tail.length < text.length := by
  fun_induction unquoteRest? text generalizing name tail with
  | case1 => cases h
  | case2 c rest ih =>
    obtain ⟨⟨inner, behind⟩, hinner, hpair⟩ := Option.map_eq_some_iff.mp h
    obtain ⟨-, rfl⟩ := Prod.mk.inj hpair
    have hshorter := ih hinner
    simp only [List.length_cons]
    omega
  | case3 => cases h
  | case4 c rest =>
    obtain ⟨-, rfl⟩ := Prod.mk.inj (Option.some.inj h)
    simp
  | case5 c rest _ _ hopen ih =>
    obtain ⟨⟨inner, behind⟩, hinner, hpair⟩ := Option.map_eq_some_iff.mp h
    obtain ⟨-, rfl⟩ := Prod.mk.inj hpair
    have hshorter := ih hinner
    simp only [List.length_cons]
    omega

/-- The plain characters and quoted names of a text; none if a name is not closed. -/
def lex : List Char → Option (List Lexeme)
  | [] => some []
  | c :: rest =>
    if c = backquote then
      match h : unquoteRest? rest with
      | some (name, tail) =>
        have := length_of_unquoteRest? h
        (lex tail).map (Lexeme.name (String.ofList name) :: ·)
      | none => none
    else (lex rest).map (Lexeme.char c :: ·)
  termination_by text => text.length

/-- A quoted name is read as the name it was made of. -/
theorem lex_quoteChars (name rest : List Char) :
    lex (quoteChars name ++ rest) = (lex rest).map (Lexeme.name (String.ofList name) :: ·) := by
  have hclosed := unquote?_quoteChars name rest
  rw [quoteChars, List.cons_append, List.cons_append] at hclosed ⊢
  rw [unquote?, if_pos rfl] at hclosed
  rw [lex, if_pos rfl]
  split
  · next name' tail hname =>
    rw [hclosed] at hname
    obtain ⟨rfl, rfl⟩ := Prod.mk.inj (Option.some.inj hname)
    rfl
  · next hnone =>
    rw [hclosed] at hnone
    cases hnone

/-- Characters without a backquote are read as they are. -/
theorem lex_plain {text : List Char} (rest : List Char) (h : backquote ∉ text) :
    lex (text ++ rest) = (lex rest).map (text.map Lexeme.char ++ ·) := by
  induction text with
  | nil => simp
  | cons c text ih =>
    obtain ⟨hc, htext⟩ := not_or.mp fun hmem => h (List.mem_cons.mpr hmem)
    rw [List.cons_append, lex, if_neg fun heq => hc heq.symm, ih htext, Option.map_map]
    rfl

namespace Lexeme

/-- What is left of a text without its names: a hole stands for every name. -/
def outline (lexemes : List Lexeme) : List (Option Char) :=
  lexemes.map fun
    | char c => some c
    | name _ => none

/-- The quoted names in order. -/
def names (lexemes : List Lexeme) : List String :=
  lexemes.filterMap fun
    | char _ => none
    | name content => some content

end Lexeme

/-- What a piece is read as. -/
def Piece.lexemes : Piece → List Lexeme
  | text content => content.toList.map Lexeme.char
  | name content => [.name content]

/-- Whether none of some marks stands in a text. -/
def Lacks (marks : List Char) (text : String) : Prop := ∀ mark ∈ marks, mark ∉ text.toList

instance (marks : List Char) (text : String) : Decidable (Lacks marks text) :=
  List.decidableBAll (fun mark => mark ∉ text.toList) marks

@[simp]
theorem lacks_append {marks : List Char} {left right : String} :
    Lacks marks (left ++ right) ↔ Lacks marks left ∧ Lacks marks right := by
  simp only [Lacks, String.toList_append, List.mem_append, not_or]
  exact ⟨fun h => ⟨fun mark hmark => (h mark hmark).1, fun mark hmark => (h mark hmark).2⟩,
    fun h mark hmark => ⟨h.1 mark hmark, h.2 mark hmark⟩⟩

/-- Fewer marks are lacked as well. -/
theorem Lacks.mono {marks others : List Char} {text : String} (h : Lacks marks text)
    (hsub : others ⊆ marks) : Lacks others text :=
  fun mark hmark => h mark (hsub hmark)

/-- Whether none of some marks stands in a piece outside of its quotes. -/
def Piece.Lacks (marks : List Char) : Piece → Prop
  | text content => Sql.Lacks marks content
  | name _ => True

@[simp]
theorem lacks_text {marks : List Char} {content : String} :
    (Piece.text content).Lacks marks ↔ Lacks marks content := Iff.rfl

@[simp]
theorem lacks_name (marks : List Char) (content : String) : (Piece.name content).Lacks marks :=
  trivial

end WarehouseImport.Sql

namespace WarehouseImport.SqlText

open WarehouseImport.Sql

/-- Whether none of some marks stands in a text outside of its quoted names. -/
def Lacks (marks : List Char) (sql : SqlText) : Prop := ∀ piece ∈ sql, piece.Lacks marks

/-- What a text is read as. -/
def lexemes (sql : SqlText) : List Lexeme := sql.flatMap Piece.lexemes

/-- The plain pieces of a text, with a hole for every name. -/
def holes (sql : SqlText) : List (Option String) :=
  sql.map fun
    | .text content => some content
    | .name _ => none

section

variable {left right : SqlText} {texts others : List SqlText} {separator : String}
  {marks : List Char}

@[simp]
theorem lacks_nil : Lacks marks [] := by simp [Lacks]

@[simp]
theorem lacks_cons {piece : Piece} :
    Lacks marks (piece :: right) ↔ piece.Lacks marks ∧ Lacks marks right :=
  List.forall_mem_cons

@[simp]
theorem lacks_append : Lacks marks (left ++ right) ↔ Lacks marks left ∧ Lacks marks right :=
  List.forall_mem_append

@[simp]
theorem lexemes_cons (piece : Piece) : lexemes (piece :: right) = piece.lexemes ++ lexemes right :=
  rfl

@[simp]
theorem lexemes_append : lexemes (left ++ right) = lexemes left ++ lexemes right := by
  simp [lexemes]

@[simp]
theorem names_text_cons (content : String) : names (.text content :: right) = names right := rfl

@[simp]
theorem names_name_cons (content : String) :
    names (.name content :: right) = content :: names right := rfl

@[simp]
theorem names_nil : names [] = [] := rfl

@[simp]
theorem holes_append : holes (left ++ right) = holes left ++ holes right := by
  simp [holes]

/-- Fewer marks are lacked as well. -/
theorem Lacks.mono {others : List Char} (h : Lacks marks right) (hsub : others ⊆ marks) :
    Lacks others right := by
  intro piece hpiece
  cases piece with
  | text content => exact Sql.Lacks.mono (h _ hpiece) hsub
  | name content => trivial

/-- Between the first of several texts and the others stands the separator. -/
theorem joined_cons_cons (separator : String) (sql next : SqlText) (texts : List SqlText) :
    joined separator (sql :: next :: texts) =
      sql ++ .text separator :: joined separator (next :: texts) := rfl

/-- Texts with a separator between them have no more marks than they have on their own. -/
theorem Lacks.joined (hseparator : Sql.Lacks marks separator)
    (h : ∀ sql ∈ texts, Lacks marks sql) : Lacks marks (joined separator texts) := by
  induction texts with
  | nil => exact lacks_nil
  | cons sql rest ih =>
    have hsql := h sql (by simp)
    cases rest with
    | nil => exact hsql
    | cons next rest =>
      rw [joined_cons_cons, lacks_append, lacks_cons]
      exact ⟨hsql, hseparator, ih fun other hother => h other (List.mem_cons_of_mem _ hother)⟩

/-- They have the names of all of them. -/
theorem names_joined (separator : String) (texts : List SqlText) :
    names (joined separator texts) = texts.flatMap names := by
  induction texts with
  | nil => rfl
  | cons sql rest ih =>
    cases rest with
    | nil => simp [joined]
    | cons next rest =>
      rw [joined_cons_cons, names_append, List.flatMap_cons, ← ih]
      rfl

/-- Where their plain pieces agree, so do those of the whole. -/
theorem holes_joined (h : texts.map holes = others.map holes) :
    holes (joined separator texts) = holes (joined separator others) := by
  induction texts generalizing others with
  | nil =>
    obtain rfl := List.map_eq_nil_iff.mp h.symm
    rfl
  | cons sql rest ih =>
    obtain ⟨other, others, rfl, hfirst, hrest⟩ := List.map_eq_cons_iff.mp h.symm
    have hbehind := ih hrest.symm
    cases rest with
    | nil =>
      obtain rfl := List.map_eq_nil_iff.mp hrest
      exact hfirst.symm
    | cons next rest =>
      obtain ⟨next', others, rfl, -, -⟩ := List.map_eq_cons_iff.mp hrest
      rw [joined_cons_cons, joined_cons_cons, holes_append, holes_append, hfirst]
      exact congrArg (holes sql ++ some separator :: ·) hbehind

end

/-- Of two lists with as many members, both are empty or none is. -/
theorem isEmpty_eq_of_length_eq {α β : Type} {left : List α} {right : List β}
    (h : left.length = right.length) : left.isEmpty = right.isEmpty := by
  rw [Bool.eq_iff_iff, List.isEmpty_iff_length_eq_zero, List.isEmpty_iff_length_eq_zero, h]

/-- A list of names opens no quotes but theirs. -/
theorem lacks_nameList (columns : List String) : Lacks [backquote] (nameList columns) := by
  apply Lacks.joined (by decide)
  intro sql hsql
  obtain ⟨column, -, rfl⟩ := List.mem_map.mp hsql
  simp

/-- It has the names in their order. -/
theorem names_nameList (columns : List String) : names (nameList columns) = columns := by
  rw [nameList, names_joined, List.flatMap_map]
  exact List.flatMap_singleton' columns

/-- It looks alike for as many names. -/
theorem holes_nameList {columns others : List String} (h : columns.length = others.length) :
    holes (nameList columns) = holes (nameList others) := by
  apply holes_joined
  rw [List.map_map, List.map_map]
  change columns.map (fun _ => [none]) = others.map fun _ => [none]
  rw [List.map_const', List.map_const', h]

/-- The names that a text is read to have are those it was made of. -/
theorem names_lexemes (sql : SqlText) : Lexeme.names sql.lexemes = sql.names := by
  induction sql with
  | nil => rfl
  | cons piece rest ih =>
    rw [lexemes_cons, Lexeme.names, List.filterMap_append]
    cases piece with
    | text content =>
      have hnone : (content.toList.map Lexeme.char).filterMap (fun lexeme : Lexeme =>
          match lexeme with
          | .char _ => none
          | .name content => some content) = [] := by
        simp [List.filterMap_map]
      exact (congrArg (· ++ _) hnone).trans ih
    | name content => exact congrArg (content :: ·) ih

/-- Its outline is settled by its plain pieces. -/
theorem outline_lexemes (sql : SqlText) :
    Lexeme.outline sql.lexemes = sql.holes.flatMap fun
      | some content => content.toList.map some
      | none => [none] := by
  induction sql with
  | nil => rfl
  | cons piece rest ih =>
    rw [lexemes_cons, Lexeme.outline, List.map_append]
    cases piece with
    | text content =>
      have hchars : (content.toList.map Lexeme.char).map (fun lexeme : Lexeme =>
          match lexeme with
          | .char c => some c
          | .name _ => none) = content.toList.map some := by
        simp [Function.comp_def]
      exact (congrArg (· ++ _) hchars).trans (congrArg (_ ++ ·) ih)
    | name content => exact congrArg (none :: ·) ih

/-- A text that opens no quotes but those of its names is read as its pieces, whatever text follows
it. -/
theorem lex_render {sql : SqlText} (h : sql.Lacks [backquote]) (rest : List Char) :
    lex (sql.render.toList ++ rest) = (lex rest).map (sql.lexemes ++ ·) := by
  induction sql with
  | nil =>
    change lex rest = (lex rest).map id
    rw [Option.map_id_fun]
    rfl
  | cons piece sql ih =>
    obtain ⟨hpiece, hsql⟩ := lacks_cons.mp h
    have hrender : (render (piece :: sql)).toList = piece.render.toList ++ (render sql).toList := by
      simp [render, String.toList_join]
    rw [hrender, List.append_assoc]
    cases piece with
    | text content =>
      rw [Piece.render, lex_plain _ (hpiece _ (by simp)), ih hsql, Option.map_map]
      congr 1
      funext lexemes
      simp [Piece.lexemes]
    | name content =>
      rw [Piece.render, quoteName, String.toList_ofList, lex_quoteChars, ih hsql, Option.map_map,
        String.ofList_toList]
      rfl

end WarehouseImport.SqlText
