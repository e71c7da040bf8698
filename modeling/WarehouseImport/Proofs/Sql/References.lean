import WarehouseImport.Proofs.Sql.Conditions
import Mathlib.Data.List.Nodup

/-!
# Values and the parameters that stand for them

The values of filters are bound to parameters and never stand in the text of a selection. The text
refers to a parameter by a mark and its name, outside of quoted names; here the references of a text
are read back, each with the quoted name that stands before it. A selection refers to one parameter
for each of its filters, in their order and behind the column that the filter is about, and it has a
binding of that name for the values of that filter. Other values, as long as one stays one and
several stay several, give the same text.
-/

namespace WarehouseImport.Sql

/-- Whether a character goes on with the name of a parameter. -/
def isParameterChar (c : Char) : Bool := c.isAlphanum || c == '_'

namespace Lexeme

/-- The name of a parameter at the start of a text. -/
def parameterChars : List Lexeme → List Char
  | .char c :: rest => if isParameterChar c then c :: parameterChars rest else []
  | _ => []

/-- The parameters that a text refers to, each with the quoted name that stands before it. -/
def references (last : String) : List Lexeme → List (String × String)
  | [] => []
  | .name content :: rest => references content rest
  | .char c :: rest =>
    if c = parameterMark then (last, String.ofList (parameterChars rest)) :: references last rest
    else references last rest

variable {last : String} {text : List Char} {rest : List Lexeme}

/-- Characters without a mark refer to nothing. -/
theorem references_chars (h : parameterMark ∉ text) :
    references last (text.map char ++ rest) = references last rest := by
  induction text with
  | nil => rfl
  | cons c text ih =>
    obtain ⟨hc, htext⟩ := not_or.mp fun hmem => h (List.mem_cons.mpr hmem)
    rw [List.map_cons, List.cons_append, references, if_neg fun heq => hc heq.symm, ih htext]

/-- The name of a parameter ends where the text goes on with another character. -/
theorem parameterChars_append (hname : ∀ c ∈ text, isParameterChar c = true)
    (hrest : parameterChars rest = []) : parameterChars (text.map char ++ rest) = text := by
  induction text with
  | nil => exact hrest
  | cons c text ih =>
    have hc := hname c (by simp)
    have htext := ih fun other hmem => hname other (List.mem_cons_of_mem _ hmem)
    rw [List.map_cons, List.cons_append, parameterChars, if_pos hc, htext]

/-- A mark with a name behind it is a reference. -/
theorem references_mark (hname : ∀ c ∈ text, isParameterChar c = true)
    (hrest : parameterChars rest = []) :
    references last (char parameterMark :: (text.map char ++ rest)) =
      (last, String.ofList text) :: references last rest := by
  have hmark : parameterMark ∉ text := fun hmem => absurd (hname _ hmem) (by decide)
  rw [references, if_pos rfl, parameterChars_append hname hrest, references_chars hmark]

end Lexeme

/-- The name of a parameter consists of characters that go on with it. -/
theorem isParameterChar_of_mem {number : Nat} {c : Char}
    (h : c ∈ (FilterClause.parameterName number).toList) : isParameterChar c = true := by
  have hfixed : ∀ c ∈ "dcValue".toList, isParameterChar c = true :=
    List.all_eq_true.mp (by decide)
  rw [FilterClause.parameterName, String.toList_append] at h
  rcases List.mem_append.mp h with hmem | hmem
  · exact hfixed c hmem
  · have hdigit := isDigit_of_mem_repr hmem
    simp [isParameterChar, Char.isAlphanum, hdigit]

end WarehouseImport.Sql

namespace WarehouseImport

open WarehouseImport.Sql

/-- A text without the mark of parameters leaves the references behind it, and its last name stands
before the first of them. -/
theorem SqlText.Lacks.references {sql : SqlText} {last : String}
    (h : sql.Lacks [parameterMark]) (rest : List Lexeme) :
    Lexeme.references last (sql.lexemes ++ rest) =
      Lexeme.references (sql.names.getLastD last) rest := by
  induction sql generalizing last with
  | nil => rfl
  | cons piece sql ih =>
    obtain ⟨hpiece, hsql⟩ := SqlText.lacks_cons.mp h
    rw [SqlText.lexemes_cons, List.append_assoc]
    cases piece with
    | text content =>
      have hcontent : parameterMark ∉ content.toList := hpiece _ (by simp)
      rw [Piece.lexemes, Lexeme.references_chars hcontent, ih hsql, SqlText.names_text_cons]
    | name content =>
      rw [SqlText.names_name_cons, List.getLastD_cons, ← ih hsql]
      rfl

namespace FilterClause

/-- The parameter that a condition refers to, if any, with the column it is compared with. -/
def references : FilterClause → List (String × String)
  | recent _ => []
  | compare column _ _ _ number => [(column, parameterName number)]

variable {table last : String} {clause : FilterClause} {clauses : List FilterClause}
  {rest : List Lexeme}

/-- Behind a text without marks stands the reference to a parameter, in parentheses for a list. -/
theorem references_parameter {before : String} (hbefore : Lacks marks before) (several : Bool)
    (number : Nat) (hrest : Lexeme.parameterChars rest = []) :
    Lexeme.references last ((Piece.text (before ++ if several
        then "UNNEST(" ++ ("@" ++ parameterName number) ++ ")"
        else "@" ++ parameterName number)).lexemes ++ rest) =
      (last, parameterName number) :: Lexeme.references last rest := by
  have hmark {text : String} (h : Lacks marks text) : parameterMark ∉ text.toList :=
    h _ (by simp [marks])
  have hname : ∀ c ∈ (parameterName number).toList, isParameterChar c = true :=
    fun _ => isParameterChar_of_mem
  cases several with
  | false =>
    have htext : (Piece.text (before ++ ("@" ++ parameterName number))).lexemes ++ rest =
        before.toList.map Lexeme.char ++ (Lexeme.char parameterMark ::
          ((parameterName number).toList.map Lexeme.char ++ rest)) := by
      simp [Piece.lexemes, parameterMark]
    rw [if_neg (by simp), htext, Lexeme.references_chars (hmark hbefore),
      Lexeme.references_mark hname hrest, String.ofList_toList]
  | true =>
    have hopened : Lacks marks (before ++ "UNNEST(") := lacks_append.mpr ⟨hbefore, by decide⟩
    have htext : (Piece.text (before ++
          ("UNNEST(" ++ ("@" ++ parameterName number) ++ ")"))).lexemes ++ rest =
        (before ++ "UNNEST(").toList.map Lexeme.char ++ (Lexeme.char parameterMark ::
          ((parameterName number).toList.map Lexeme.char ++ (Lexeme.char ')' :: rest))) := by
      simp [Piece.lexemes, parameterMark]
    rw [if_pos rfl, htext, Lexeme.references_chars (hmark hopened),
      Lexeme.references_mark hname rfl, String.ofList_toList]
    rfl

/-- The text of a condition has the references of the condition. -/
theorem Tame.references (h : clause.Tame) (hrest : Lexeme.parameterChars rest = []) :
    Lexeme.references last ((clause.sql table).lexemes ++ rest) =
      clause.references ++ Lexeme.references clause.column rest := by
  have hsub : [parameterMark] ⊆ marks := by simp [marks]
  cases clause with
  | recent seconds =>
    rw [((lacks_recent table seconds).mono hsub).references]
    rfl
  | compare column cast symbol several number =>
    obtain ⟨hcast, hsymbol⟩ := h
    have hcolumn : (SqlText.names (compared table column cast)).getLastD last = column := by
      cases cast <;> rfl
    have hbefore : Lacks marks (" " ++ symbol ++ " ") := by simp +decide [hsymbol]
    rw [sql_compare, SqlText.lexemes_append, List.append_assoc,
      ((lacks_compared hcast).mono hsub).references, hcolumn, SqlText.lexemes_cons,
      List.append_assoc]
    exact references_parameter hbefore several number hrest

/-- Conditions with a separator between them have the references of all of them, where the text
behind them has none. -/
theorem references_joined (h : ∀ clause ∈ clauses, clause.Tame)
    (hstop : Lexeme.parameterChars rest = []) (hrest : ∀ last, Lexeme.references last rest = []) :
    Lexeme.references last
        ((SqlText.joined "\nAND    " (clauses.map (sql table))).lexemes ++ rest) =
      clauses.flatMap references := by
  induction clauses generalizing last with
  | nil => exact hrest last
  | cons clause clauses ih =>
    have hclause := h clause (by simp)
    cases clauses with
    | nil =>
      rw [List.flatMap_singleton, ← List.append_nil clause.references, ← hrest clause.column]
      exact hclause.references hstop
    | cons next clauses =>
      have hseparator : parameterMark ∉ "\nAND    ".toList := by decide
      have hrest' : ∀ other ∈ next :: clauses, other.Tame :=
        fun other hmem => h other (List.mem_cons_of_mem _ hmem)
      rw [List.map_cons, List.map_cons, SqlText.joined_cons_cons, SqlText.lexemes_append,
        List.append_assoc, hclause.references (by rfl), SqlText.lexemes_cons, List.append_assoc,
        Piece.lexemes, Lexeme.references_chars hseparator, ← List.map_cons, ih hrest']
      rfl

end FilterClause

namespace FilterQuery

/-- The conditions of a selection refer to their parameters. -/
theorem references_condition {table last : String} {clauses : List FilterClause}
    {rest : List Lexeme} (h : ∀ clause ∈ clauses, clause.Tame)
    (hstop : Lexeme.parameterChars rest = []) (hrest : ∀ last, Lexeme.references last rest = []) :
    Lexeme.references last ((condition table clauses).lexemes ++ rest) =
      clauses.flatMap FilterClause.references := by
  rw [condition]
  split
  · next hnone =>
    rw [List.map_eq_nil_iff.mp (List.isEmpty_iff.mp hnone)]
    exact hrest last
  · have hwhere : parameterMark ∉ "\nWHERE  ".toList := by decide
    rw [SqlText.lexemes_cons, List.append_assoc, Piece.lexemes, Lexeme.references_chars hwhere]
    exact FilterClause.references_joined h hstop hrest

/-- A selection refers to the parameters of its conditions. -/
theorem references_sql {query : FilterQuery} (h : ∀ clause ∈ query.clauses, clause.Tame)
    (columns : List String) (limit : Int) :
    Lexeme.references "" (SqlText.lexemes (query.sql columns limit)) =
      query.clauses.flatMap FilterClause.references := by
  have hsub : [parameterMark] ⊆ marks := by simp [marks]
  have hfront : SqlText.Lacks [parameterMark]
      ([.text "SELECT "] ++ projection query.table.table columns ++
        [.text "\nFROM   ", .name query.table.dataset, .text ".", .name query.table.table]) := by
    simp +decide [lacks_projection.mono hsub]
  have hstop : Lexeme.parameterChars (SqlText.lexemes (ending limit)) = [] := by
    rw [ending]
    split
    · simp [Piece.lexemes, Lexeme.parameterChars, isParameterChar]
    · rfl
  have hending (last : String) :
      Lexeme.references last (SqlText.lexemes (ending limit)) = [] := by
    rw [← List.append_nil (SqlText.lexemes (ending limit)),
      ((lacks_ending limit).mono hsub).references]
    rfl
  rw [sql_eq, List.append_assoc, SqlText.lexemes_append, hfront.references, SqlText.lexemes_append]
  exact references_condition h hstop hending

end FilterQuery

namespace FilterSpec

/-- Two filters that differ in their values only, and both have one value or both another number of
them. -/
structure SameButValues (spec other : FilterSpec) : Prop where
  column : spec.column = other.column
  operator : spec.operator = other.operator
  type : spec.type = other.type
  one : spec.values.length = 1 ↔ other.values.length = 1

/-- A binding for a filter: it has the type of the filter's data type and its value converted to it,
or a list of its values. -/
inductive Binds (spec : FilterSpec) (binding : Binding) : Prop where
  | one {column : String} {type : FilterType} {value bound : Json}
      (hcolumn : spec.column = some column)
      (htype : spec.type.asText?.bind Named.ofName? = some type) (hvalues : spec.values = [value])
      (hbound : type.convert column value = .ok bound) (hkind : binding.type = type.bound)
      (hvalue : binding.value = .one bound)
  | several {column : String} {type : FilterType} {bounds : List Json}
      (hcolumn : spec.column = some column)
      (htype : spec.type.asText?.bind Named.ofName? = some type) (hvalues : 1 < spec.values.length)
      (hbounds : spec.values.mapM (type.convert column) = .ok bounds)
      (hkind : binding.type = type.bound) (hvalue : binding.value = .many bounds)

end FilterSpec

namespace FilterStep

/-- The filter of a step, if it has one. -/
def spec? : FilterStep → Option FilterSpec
  | recent _ => none
  | filter spec => some spec

/-- What a filter gives binds its values. -/
theorem binds_of_gives {spec : FilterSpec} {filter : WhereFilter} {number : Nat}
    {clause : FilterClause} {binding : Binding} (hcheck : spec.check = .ok filter)
    (h : filter.Gives number clause binding) : spec.Binds binding := by
  obtain ⟨hcolumn, -, hgiven, -, -, htype⟩ := FilterSpec.check_eq_ok.mp hcheck
  cases h with
  | one hvalues hcast hbound =>
    exact .one hcolumn htype (hgiven.trans hvalues) hbound rfl rfl
  | several hvalues hsymbol hcast hbound =>
    rw [← hgiven] at hvalues hbound
    exact .several hcolumn htype hvalues hbound rfl rfl

namespace Gathers

variable {count : Nat} {steps : List FilterStep} {clauses : List FilterClause}
  {bindings : List Binding}

/-- There is one binding for each filter, in their order. -/
theorem binds (h : Gathers count steps clauses bindings) :
    List.Forall₂ FilterSpec.Binds (steps.filterMap spec?) bindings := by
  induction h with
  | nil => exact .nil
  | cons hstep _ ih =>
    cases hstep with
    | recent seconds => exact ih
    | filter hcheck hgives => exact .cons (binds_of_gives hcheck hgives) ih

/-- Bindings have the names of parameters with successive numbers. -/
theorem names_of_bindings (h : Gathers count steps clauses bindings) :
    bindings.map Binding.name =
      (List.range' (count + 1) bindings.length).map FilterClause.parameterName := by
  induction h with
  | nil => rfl
  | cons hstep _ ih =>
    cases hstep with
    | recent seconds => exact ih
    | filter hcheck hgives =>
      cases hgives <;>
        exact congrArg (FilterClause.parameterName _ :: ·) ih

/-- Conditions refer to the bindings in their order. -/
theorem references_snd (h : Gathers count steps clauses bindings) :
    (clauses.flatMap FilterClause.references).map Prod.snd = bindings.map Binding.name := by
  induction h with
  | nil => rfl
  | cons hstep _ ih =>
    rw [List.flatMap_append, List.map_append, List.map_append, ih]
    congr 1
    cases hstep with
    | recent seconds => split <;> rfl
    | filter hcheck hgives => cases hgives <;> rfl

/-- Each reference stands behind the column of its filter. -/
theorem references_fst (h : Gathers count steps clauses bindings) :
    (clauses.flatMap FilterClause.references).map (fun reference => some reference.1) =
      (steps.filterMap spec?).map FilterSpec.column := by
  induction h with
  | nil => rfl
  | cons hstep _ ih =>
    rw [List.flatMap_append, List.map_append, ih]
    cases hstep with
    | recent seconds =>
      split <;> rfl
    | filter hcheck hgives =>
      obtain ⟨hcolumn, -⟩ := FilterSpec.check_eq_ok.mp hcheck
      cases hgives <;>
        exact congrArg (· :: _) hcolumn.symm

end Gathers

end FilterStep

/-- Parameters of two numbers have two names. -/
theorem FilterClause.parameterName_injective : Function.Injective FilterClause.parameterName := by
  intro number other h
  have hdigits : Nat.toDigits 10 number = Nat.toDigits 10 other := by
    have hlist := congrArg String.toList h
    rw [parameterName, parameterName, String.toList_append, String.toList_append] at hlist
    simpa [Nat.repr_eq_ofList_toDigits] using List.append_cancel_left hlist
  have hnumber := congrArg (Nat.ofDigitChars 10 · 0) hdigits
  simpa using hnumber

/-- Steps whose filters differ in their values only gather the same conditions. -/
theorem FilterStep.Gathers.eq_of_sameButValues {count : Nat} {steps others : List FilterStep}
    {clauses moreClauses : List FilterClause} {bindings moreBindings : List Binding}
    (hagree : List.Forall₂ (Like FilterSpec.SameButValues) steps others)
    (h : Gathers count steps clauses bindings)
    (hother : Gathers count others moreClauses moreBindings) : clauses = moreClauses := by
  rw [← List.forall₂_eq_eq_eq]
  refine Gathers.forall₂ (fun _ => rfl) ?_ hagree h hother
  intro spec other filter otherFilter number clause clause' binding binding' hrelated hcheck hcheck'
    hgives hgives'
  obtain ⟨hcolumn, -, hvalues, -, hoperator, htype⟩ := FilterSpec.check_eq_ok.mp hcheck
  obtain ⟨hcolumn', -, hvalues', -, hoperator', htype'⟩ := FilterSpec.check_eq_ok.mp hcheck'
  rw [hrelated.column, hcolumn'] at hcolumn
  rw [hrelated.operator, hoperator'] at hoperator
  rw [hrelated.type, htype'] at htype
  have hone := hrelated.one
  rw [hvalues, hvalues'] at hone
  apply FilterClause.eq_of_unnamed_eq
  · exact hgives.unnamed_eq (Option.some.inj hoperator).symm (Option.some.inj htype).symm hone
      hgives'
  · rw [hgives.column_eq, hgives'.column_eq, Option.some.inj hcolumn]

/-- Values cannot change the text of a selection. Filters that differ in their values only give one
text. It refers, outside of its quoted names, to one parameter for each filter, in their order and
each behind the column of its filter; and the bindings have the names of these parameters, all
different, with the converted values. -/
theorem FilterQuery.values_stay_bound {table : TableName} {columns : List String}
    {filters others : List FilterSpec} {seconds limit : Int} {sql sql' : SqlText}
    {bindings bindings' : List Binding}
    (hagree : List.Forall₂ FilterSpec.SameButValues filters others)
    (h : FilterQuery.select table columns filters seconds limit = .ok (sql, bindings))
    (hother : FilterQuery.select table columns others seconds limit = .ok (sql', bindings')) :
    sql.render = sql'.render ∧
    bindings.map Binding.name =
      (List.range' 1 filters.length).map FilterClause.parameterName ∧
    (bindings.map Binding.name).Nodup ∧
    List.Forall₂ FilterSpec.Binds filters bindings ∧
    ∃ lexemes : List Lexeme, lex sql.render.toList = some lexemes ∧
      (Lexeme.references "" lexemes).map Prod.snd = bindings.map Binding.name ∧
      (Lexeme.references "" lexemes).map (fun reference => some reference.1) =
        filters.map FilterSpec.column := by
  obtain ⟨query, hquery, rfl, rfl⟩ := FilterQuery.select_eq_ok.mp h
  obtain ⟨query', hquery', rfl, rfl⟩ := FilterQuery.select_eq_ok.mp hother
  obtain ⟨hgathers, htable⟩ := FilterQuery.build_eq_ok.mp hquery
  obtain ⟨hgathers', htable'⟩ := FilterQuery.build_eq_ok.mp hquery'
  have hspecs : (FilterStep.recent seconds :: filters.map .filter).filterMap FilterStep.spec? =
      filters := by
    rw [List.filterMap_cons_none rfl, List.filterMap_map]
    exact List.filterMap_some
  have hbinds := hgathers.binds
  rw [hspecs] at hbinds
  have hsteps : List.Forall₂ (FilterStep.Like FilterSpec.SameButValues)
      (.recent seconds :: filters.map .filter) (.recent seconds :: others.map .filter) := by
    refine .cons (.recent seconds) ?_
    rw [List.forall₂_map_left_iff, List.forall₂_map_right_iff]
    exact hagree.imp fun _ _ => .filter
  have hclauses : query.clauses = query'.clauses :=
    FilterStep.Gathers.eq_of_sameButValues hsteps hgathers hgathers'
  refine ⟨?_, ?_, ?_, hbinds, ?_⟩
  · rw [FilterQuery.sql_eq, FilterQuery.sql_eq, hclauses, htable, htable']
  · rw [hgathers.names_of_bindings, ← hbinds.length_eq]
  · rw [hgathers.names_of_bindings]
    exact List.Nodup.map FilterClause.parameterName_injective List.nodup_range'
  · refine ⟨SqlText.lexemes (query.sql columns limit), ?_, ?_, ?_⟩
    · simpa [lex] using SqlText.lex_render (FilterQuery.lacks_sql hgathers.tame columns limit) []
    · rw [FilterQuery.references_sql hgathers.tame, hgathers.references_snd]
    · rw [FilterQuery.references_sql hgathers.tame, hgathers.references_fst, hspecs]

/-- Filters of which one has a value that would end a quoted text of the statement. -/
def quotingFilters : List FilterSpec :=
  [⟨some "a", .str "eq", [.str "\x27 OR 1 = 1 --"], .str "STRING"⟩,
    ⟨some "b", .str "ne", [.str "1", .str "2"], .str "INTEGER"⟩]

/-- The same filters with other values. -/
def plainFilters : List FilterSpec :=
  [⟨some "a", .str "eq", [.str "v"], .str "STRING"⟩,
    ⟨some "b", .str "ne", [.str "3", .str "4", .str "5"], .str "INTEGER"⟩]

/-- A value that would end a quoted text of the statement is bound as it is, and the text is the one
that a plain value gives. -/
theorem FilterQuery.values_stay_bound_quotes :
    ∃ sql sql' : SqlText, ∃ bindings bindings' : List Binding,
      FilterQuery.select ⟨"data", "sales"⟩ ["a"] quotingFilters 60 5 = .ok (sql, bindings) ∧
      FilterQuery.select ⟨"data", "sales"⟩ ["a"] plainFilters 60 5 = .ok (sql', bindings') ∧
      sql.render = sql'.render ∧ bindings.map Binding.name = ["dcValue1", "dcValue2"] := by
  have hagree : List.Forall₂ FilterSpec.SameButValues quotingFilters plainFilters :=
    .cons ⟨rfl, rfl, rfl, by simp⟩ (.cons ⟨rfl, rfl, rfl, by simp⟩ .nil)
  obtain ⟨sql, bindings, hselect⟩ : ∃ sql bindings,
      FilterQuery.select ⟨"data", "sales"⟩ ["a"] quotingFilters 60 5 = .ok (sql, bindings) :=
    ⟨_, _, rfl⟩
  obtain ⟨sql', bindings', hselect'⟩ : ∃ sql bindings,
      FilterQuery.select ⟨"data", "sales"⟩ ["a"] plainFilters 60 5 = .ok (sql, bindings) :=
    ⟨_, _, rfl⟩
  obtain ⟨hsame, hnames, -⟩ := FilterQuery.values_stay_bound hagree hselect hselect'
  exact ⟨sql, sql', bindings, bindings', hselect, hselect', hsame, hnames⟩

end WarehouseImport
