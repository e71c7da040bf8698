import WarehouseImport.Proofs.Sql.Building
import WarehouseImport.Proofs.Sql.Lexing

/-!
# The text of conditions

A condition of a selection names the table and one column, and around them stand texts that the
program has fixed: an operator, a type to cast to, a number of seconds or the number of a parameter.
None of these holds a mark that opens a name or a parameter, so the only marks in a condition are
those the program puts there.
-/

namespace WarehouseImport.Sql

/-- The mark in front of the name of a parameter. -/
def parameterMark : Char := '@'

/-- The marks that a text of the program's own must not hold where it stands among names and
parameters. -/
def marks : List Char := [backquote, parameterMark]

/-- The digits of a number are digits. -/
theorem isDigit_of_mem_repr {number : Nat} {c : Char} (h : c ∈ number.repr.toList) :
    c.isDigit = true := by
  rw [Nat.repr_eq_ofList_toDigits, String.toList_ofList] at h
  exact Nat.isDigit_of_mem_toDigits (by decide) (by decide) h

/-- A number holds no marks. -/
@[simp]
theorem lacks_repr (number : Nat) : Lacks marks number.repr := by
  have hmarks : ∀ mark ∈ marks, (!mark.isDigit) = true := List.all_eq_true.mp (by decide)
  intro mark hmark hmem
  have hdigit := isDigit_of_mem_repr hmem
  have hother := hmarks mark hmark
  rw [hdigit] at hother
  cases hother

/-- A number with a sign holds no marks. -/
@[simp]
theorem lacks_int (number : Int) : Lacks marks number.repr := by
  cases number with
  | ofNat number => exact lacks_repr number
  | negSucc number => exact lacks_append.mpr ⟨by decide, lacks_repr (number + 1)⟩

/-- The name of a parameter holds no marks. -/
@[simp]
theorem lacks_parameterName (number : Nat) : Lacks marks (FilterClause.parameterName number) :=
  lacks_append.mpr ⟨by decide, lacks_repr number⟩

end WarehouseImport.Sql

namespace WarehouseImport

open WarehouseImport.Sql

namespace FilterClause

/-- The column that a condition is about. -/
def column : FilterClause → String
  | recent _ => timestampColumn
  | compare column .. => column

/-- Whether the texts that a condition is made of hold no marks. -/
def Tame : FilterClause → Prop
  | recent _ => True
  | compare _ cast symbol _ _ => (∀ type ∈ cast, Lacks marks type) ∧ Lacks marks symbol

/-- The condition without its column. -/
def unnamed : FilterClause → FilterClause
  | recent seconds => recent seconds
  | compare _ cast symbol several number => compare "" cast symbol several number

variable {table : String} {clause other : FilterClause}

/-- A condition is its column and what is left without it. -/
theorem eq_of_unnamed_eq (h : clause.unnamed = other.unnamed)
    (hcolumn : clause.column = other.column) : clause = other := by
  cases clause <;> cases other <;> simp_all [unnamed, column]

/-- A condition names its table and its column. -/
theorem names_sql : SqlText.names (clause.sql table) = [table, clause.column] := by
  cases clause with
  | recent seconds => rfl
  | compare column cast symbol several number => cases cast <;> rfl

/-- The names that stand in a condition leave no other trace in it. -/
theorem holes_sql (clause : FilterClause) (table other : String) :
    SqlText.holes (clause.sql table) = SqlText.holes (clause.unnamed.sql other) := by
  cases clause with
  | recent seconds => rfl
  | compare column cast symbol several number => cases cast <;> rfl

/-- The column of a condition as it is compared. -/
def compared (table column : String) : Option String → SqlText
  | some type => [.text "SAFE_CAST("] ++ columnOf table column ++ [.text (" AS " ++ type ++ ")")]
  | none => columnOf table column

/-- The text of a comparison in its two parts. -/
theorem sql_compare (table column : String) (cast : Option String) (symbol : String)
    (several : Bool) (number : Nat) :
    (compare column cast symbol several number).sql table =
      compared table column cast ++
        [.text (" " ++ symbol ++ " " ++
          if several then "UNNEST(" ++ ("@" ++ parameterName number) ++ ")"
          else "@" ++ parameterName number)] := by
  cases cast <;> rfl

theorem lacks_columnOf (table column : String) : SqlText.Lacks marks (columnOf table column) := by
  simp +decide [columnOf]

theorem lacks_compared {table column : String} {cast : Option String}
    (hcast : ∀ type ∈ cast, Lacks marks type) :
    SqlText.Lacks marks (compared table column cast) := by
  cases cast with
  | none => exact lacks_columnOf table column
  | some type =>
    have htype := hcast type rfl
    simp +decide [compared, lacks_columnOf, htype]

theorem lacks_recent (table : String) (seconds : Int) :
    SqlText.Lacks marks ((recent seconds).sql table) := by
  simp +decide [sql, lacks_columnOf]

/-- A condition opens no quotes but those of its names. -/
theorem Tame.lacks (h : clause.Tame) : SqlText.Lacks [backquote] (clause.sql table) := by
  have hsub : [backquote] ⊆ marks := by simp [marks]
  cases clause with
  | recent seconds => exact (lacks_recent table seconds).mono hsub
  | compare column cast symbol several number =>
    obtain ⟨hcast, hsymbol⟩ := h
    have hcompared : SqlText.Lacks [backquote] (compared table column cast) :=
      (lacks_compared hcast).mono hsub
    have hname := (lacks_parameterName number).mono hsub
    rw [sql_compare]
    cases several <;> simp +decide [hcompared, hsymbol.mono hsub, hname]

end FilterClause

namespace FilterType

/-- A data type casts columns to a type whose name holds no marks. -/
theorem lacks_of_cast {type : FilterType} {cast : Option String} (h : type.cast? = .ok cast) :
    ∀ name ∈ cast, Lacks marks name := by
  cases type <;> simp [cast?] at h <;> subst h <;> simp +decide

end FilterType

namespace FilterOperator

/-- An operator holds no marks. -/
theorem lacks_single (operator : FilterOperator) : Lacks marks operator.single := by
  cases operator <;> decide

/-- Nor does an operator before a list. -/
theorem lacks_several {operator : FilterOperator} {symbol : String}
    (h : operator.several? = some symbol) : Lacks marks symbol := by
  cases operator <;> simp [several?] at h <;> subst h <;> decide

end FilterOperator

namespace WhereFilter.Gives

variable {filter other : WhereFilter} {number : Nat} {clause clause' : FilterClause}
  {binding binding' : Binding}

/-- What a filter adds is made of texts without marks. -/
theorem tame (h : filter.Gives number clause binding) : clause.Tame := by
  cases h with
  | one _ hcast _ => exact ⟨FilterType.lacks_of_cast hcast, filter.operator.lacks_single⟩
  | several _ hsymbol hcast _ =>
    exact ⟨FilterType.lacks_of_cast hcast, FilterOperator.lacks_several hsymbol⟩

/-- It is about the filter's column. -/
theorem column_eq (h : filter.Gives number clause binding) : clause.column = filter.column := by
  cases h <;> rfl

/-- Filters with one operator and one data type, which both compare with one value or both with
several, add conditions that differ in their columns only. -/
theorem unnamed_eq (hoperator : filter.operator = other.operator) (htype : filter.type = other.type)
    (hone : filter.values.length = 1 ↔ other.values.length = 1)
    (h : filter.Gives number clause binding) (h' : other.Gives number clause' binding') :
    clause.unnamed = clause'.unnamed := by
  cases h with
  | one hvalues hcast hbound =>
    cases h' with
    | one hvalues' hcast' hbound' =>
      rw [htype, hcast'] at hcast
      cases hcast
      rw [hoperator]
      rfl
    | several hvalues' hsymbol' hcast' hbound' =>
      have hlength := hone.mp (by rw [hvalues]; rfl)
      omega
  | several hvalues hsymbol hcast hbound =>
    cases h' with
    | one hvalues' hcast' hbound' =>
      have hlength := hone.mpr (by rw [hvalues']; rfl)
      omega
    | several hvalues' hsymbol' hcast' hbound' =>
      rw [htype, hcast'] at hcast
      rw [hoperator, hsymbol'] at hsymbol
      cases hcast
      cases hsymbol
      rfl

end WhereFilter.Gives

namespace FilterStep

variable {count : Nat} {steps : List FilterStep} {clauses : List FilterClause}
  {bindings : List Binding}

/-- What steps gather is made of texts without marks. -/
theorem Gathers.tame (h : Gathers count steps clauses bindings) :
    ∀ clause ∈ clauses, clause.Tame := by
  induction h with
  | nil => simp
  | cons hstep _ ih =>
    intro clause hmem
    rcases List.mem_append.mp hmem with hfirst | hrest
    · cases hstep with
      | recent seconds =>
        split at hfirst
        · rw [List.mem_singleton.mp hfirst]
          trivial
        · cases hfirst
      | filter hcheck hgives =>
        rw [List.mem_singleton.mp hfirst]
        exact hgives.tame
    · exact ih clause hrest

end FilterStep

namespace FilterQuery

/-- What a selection reads of its table. -/
def projection (table : String) (columns : List String) : SqlText :=
  if columns.isEmpty then [.name table, .text ".*"]
  else SqlText.joined ", " (columns.map (FilterClause.columnOf table))

/-- The conditions of a selection, if it has any. -/
def condition (table : String) (clauses : List FilterClause) : SqlText :=
  if (clauses.map (FilterClause.sql table)).isEmpty then []
  else .text "\nWHERE  " :: SqlText.joined "\nAND    " (clauses.map (FilterClause.sql table))

/-- The limit of a selection, if it has one. -/
def ending (limit : Int) : SqlText :=
  if 0 < limit then [.text ("\nLIMIT  " ++ toString limit)] else []

/-- The text of a selection in its parts. -/
theorem sql_eq (query : FilterQuery) (columns : List String) (limit : Int) :
    query.sql columns limit =
      [.text "SELECT "] ++ projection query.table.table columns ++
        [.text "\nFROM   ", .name query.table.dataset, .text ".", .name query.table.table] ++
        condition query.table.table query.clauses ++ ending limit := rfl

variable {query : FilterQuery} {table other : String} {columns others : List String}
  {clauses moreClauses : List FilterClause}

theorem lacks_projection : SqlText.Lacks marks (projection table columns) := by
  rw [projection]
  split
  · simp +decide
  · apply SqlText.Lacks.joined (by decide)
    intro sql hsql
    obtain ⟨column, -, rfl⟩ := List.mem_map.mp hsql
    exact FilterClause.lacks_columnOf table column

theorem lacks_condition (h : ∀ clause ∈ clauses, clause.Tame) :
    SqlText.Lacks [backquote] (condition table clauses) := by
  rw [condition]
  split
  · simp
  · have hclauses : SqlText.Lacks [backquote]
        (SqlText.joined "\nAND    " (clauses.map (FilterClause.sql table))) := by
      apply SqlText.Lacks.joined (by decide)
      intro sql hsql
      obtain ⟨clause, hclause, rfl⟩ := List.mem_map.mp hsql
      exact (h clause hclause).lacks
    simp +decide [hclauses]

theorem lacks_ending (limit : Int) : SqlText.Lacks marks (ending limit) := by
  rw [ending]
  split
  · simp +decide
  · simp

/-- A selection whose conditions are made of texts without marks opens no quotes but those of its
names. -/
theorem lacks_sql (h : ∀ clause ∈ query.clauses, clause.Tame) (columns : List String)
    (limit : Int) : SqlText.Lacks [backquote] (query.sql columns limit) := by
  have hsub : [backquote] ⊆ marks := by simp [marks]
  have hending := (lacks_ending limit).mono hsub
  simp +decide [sql_eq, lacks_projection.mono hsub, lacks_condition h, hending]

/-- The names that stand in a projection. -/
theorem names_projection : SqlText.names (projection table columns) =
    if columns = [] then [table] else columns.flatMap fun column => [table, column] := by
  rw [projection]
  split
  · next hnone =>
    rw [if_pos (List.isEmpty_iff.mp hnone)]
    rfl
  · next hsome =>
    rw [if_neg (by simpa using hsome), SqlText.names_joined, List.flatMap_map]
    rfl

/-- The names that stand in conditions. -/
theorem names_condition : SqlText.names (condition table clauses) =
    clauses.flatMap fun clause => [table, clause.column] := by
  have hnames : SqlText.names (SqlText.joined "\nAND    " (clauses.map (FilterClause.sql table))) =
      clauses.flatMap fun clause => [table, clause.column] := by
    rw [SqlText.names_joined, List.flatMap_map]
    exact List.flatMap_congr fun clause _ => FilterClause.names_sql
  rw [condition]
  split
  · next hnone =>
    rw [List.map_eq_nil_iff.mp (List.isEmpty_iff.mp hnone)]
    rfl
  · exact hnames

/-- The names of a selection in their order. -/
theorem names_sql (query : FilterQuery) (columns : List String) (limit : Int) :
    SqlText.names (query.sql columns limit) =
      (if columns = [] then [query.table.table]
        else columns.flatMap fun column => [query.table.table, column]) ++
      [query.table.dataset, query.table.table] ++
      query.clauses.flatMap fun clause => [query.table.table, clause.column] := by
  have hending : SqlText.names (ending limit) = [] := by
    rw [ending]
    split <;> rfl
  simp only [sql_eq, SqlText.names_append, names_projection, names_condition, hending]
  simp [SqlText.names]

theorem holes_projection (h : columns.length = others.length) :
    SqlText.holes (projection table columns) = SqlText.holes (projection other others) := by
  rw [projection, projection, SqlText.isEmpty_eq_of_length_eq h]
  split
  · rfl
  · apply SqlText.holes_joined
    rw [List.map_map, List.map_map]
    change columns.map (fun _ => [none, some ".", none]) =
      others.map fun _ => [none, some ".", none]
    rw [List.map_const', List.map_const', h]

theorem holes_condition
    (h : clauses.map FilterClause.unnamed = moreClauses.map FilterClause.unnamed) :
    SqlText.holes (condition table clauses) = SqlText.holes (condition other moreClauses) := by
  have hholes (clauses : List FilterClause) (table : String) :
      (clauses.map (FilterClause.sql table)).map SqlText.holes =
        (clauses.map FilterClause.unnamed).map fun clause => SqlText.holes (clause.sql "") := by
    rw [List.map_map, List.map_map]
    exact List.map_congr_left fun clause _ => clause.holes_sql table ""
  have hempty : (clauses.map (FilterClause.sql table)).isEmpty =
      (moreClauses.map (FilterClause.sql other)).isEmpty := by
    have hlength := congrArg List.length h
    rw [List.length_map, List.length_map] at hlength
    exact SqlText.isEmpty_eq_of_length_eq (by rw [List.length_map, List.length_map, hlength])
  rw [condition, condition, hempty]
  split
  · rfl
  · have hconditions := (hholes clauses table).trans
      ((congrArg _ h).trans (hholes moreClauses other).symm)
    exact congrArg (some "\nWHERE  " :: ·) (SqlText.holes_joined hconditions)

/-- Selections look alike if they read as many columns, up to one limit, under conditions that
differ in their columns only. -/
theorem holes_sql {query other : FilterQuery} (hcolumns : columns.length = others.length)
    (hclauses :
      query.clauses.map FilterClause.unnamed = other.clauses.map FilterClause.unnamed)
    (limit : Int) :
    SqlText.holes (query.sql columns limit) = SqlText.holes (other.sql others limit) := by
  have hprojection : SqlText.holes (projection query.table.table columns) =
      SqlText.holes (projection other.table.table others) := holes_projection hcolumns
  have hcondition : SqlText.holes (condition query.table.table query.clauses) =
      SqlText.holes (condition other.table.table other.clauses) := holes_condition hclauses
  simp only [sql_eq, SqlText.holes_append, hprojection, hcondition]
  rfl

end FilterQuery

end WarehouseImport
