import WarehouseImport.Proofs.Sql.Conditions
import WarehouseImport.Sql.Statement

/-!
# Names and the wording of statements

The wording of a statement is what it says about any names: its kind, how many columns and keys
there are, and the operators, types and values of its filters. The names are quoted, so they can be
told from the wording whatever they contain. Two texts of one wording differ in their quoted names
only, and these are the given names, with those of the columns that every import has, in an order
that belongs to the wording.
-/

namespace WarehouseImport

open WarehouseImport.Sql

/-- The description of a filter without its column. -/
def FilterSpec.unnamed (spec : FilterSpec) : FilterSpec := { spec with column := none }

namespace FilterStep

/-- The step without the column of its filter. -/
def unnamed : FilterStep → FilterStep
  | recent seconds => recent seconds
  | filter spec => filter spec.unnamed

/-- The names that a step adds to a selection from a table. -/
def tokens (table : String) : FilterStep → List String
  | recent seconds => if 0 < seconds then [table, timestampColumn] else []
  | filter spec => [table, spec.column.getD ""]

/-- Whether a step names the column that it filters. -/
def Named : FilterStep → Prop
  | recent _ => True
  | filter spec => ∃ column, spec.column = some column ∧ column ≠ ""

variable {count : Nat} {steps others : List FilterStep} {clauses moreClauses : List FilterClause}
  {bindings moreBindings : List Binding}

/-- The conditions that steps gather have the names that the steps add. -/
theorem Gathers.names_eq (table : String) (h : Gathers count steps clauses bindings) :
    (clauses.flatMap fun clause => [table, clause.column]) = steps.flatMap (tokens table) := by
  induction h with
  | nil => rfl
  | cons hstep _ ih =>
    rw [List.flatMap_append, List.flatMap_cons, ih]
    congr 1
    cases hstep with
    | recent seconds =>
      rw [tokens]
      split <;> rfl
    | filter hcheck hgives =>
      obtain ⟨hcolumn, -⟩ := FilterSpec.check_eq_ok.mp hcheck
      simp [tokens, hcolumn, hgives.column_eq]

/-- Steps that differ in their columns only are alike one by one. -/
theorem forall₂_of_unnamed (h : steps.map unnamed = others.map unnamed) :
    List.Forall₂ (Like fun spec other => spec.unnamed = other.unnamed) steps others := by
  induction steps generalizing others with
  | nil =>
    obtain rfl := List.map_eq_nil_iff.mp h.symm
    exact .nil
  | cons step steps ih =>
    obtain ⟨other, others, rfl, hstep, hsteps⟩ := List.map_eq_cons_iff.mp h.symm
    refine .cons ?_ (ih hsteps.symm)
    cases step with
    | recent seconds =>
      cases other with
      | recent seconds' =>
        cases hstep
        exact .recent seconds
      | filter spec => cases hstep
    | filter spec =>
      cases other with
      | recent seconds => cases hstep
      | filter other => exact .filter (FilterStep.filter.inj hstep).symm

/-- Filters that differ in their columns only come from descriptions that do. -/
theorem alike_of_unnamed {spec other : FilterSpec} {filter otherFilter : WhereFilter}
    (h : spec.unnamed = other.unnamed) (hcheck : spec.check = .ok filter)
    (hcheck' : other.check = .ok otherFilter) :
    filter.operator = otherFilter.operator ∧ filter.values = otherFilter.values ∧
      filter.type = otherFilter.type := by
  obtain ⟨-, hoperator, hvalues, htype⟩ := FilterSpec.mk.inj h
  obtain ⟨-, -, hgiven, -, hfound, hkind⟩ := FilterSpec.check_eq_ok.mp hcheck
  obtain ⟨-, -, hgiven', -, hfound', hkind'⟩ := FilterSpec.check_eq_ok.mp hcheck'
  rw [hoperator] at hfound
  rw [htype] at hkind
  exact ⟨Option.some.inj (hfound.symm.trans hfound'), hgiven.symm.trans (hvalues.trans hgiven'),
    Option.some.inj (hkind.symm.trans hkind')⟩

/-- Steps that differ in their columns only gather conditions that do. -/
theorem Gathers.unnamed_eq (hunnamed : steps.map unnamed = others.map unnamed)
    (h : Gathers count steps clauses bindings)
    (hother : Gathers count others moreClauses moreBindings) :
    clauses.map FilterClause.unnamed = moreClauses.map FilterClause.unnamed := by
  have halike : List.Forall₂ (fun clause clause' : FilterClause => clause.unnamed = clause'.unnamed)
      clauses moreClauses := by
    refine Gathers.forall₂ (fun _ => rfl) ?_ (forall₂_of_unnamed hunnamed) h hother
    intro spec other filter otherFilter number clause clause' binding binding' hrelated hcheck
      hcheck' hgives hgives'
    obtain ⟨hoperator, hvalues, htype⟩ := alike_of_unnamed hrelated hcheck hcheck'
    exact hgives.unnamed_eq hoperator htype (by rw [hvalues]) hgives'
  rwa [← List.forall₂_eq_eq_eq, List.forall₂_map_left_iff, List.forall₂_map_right_iff]

/-- A filter gives another column the same binding. -/
theorem exists_gives {filter : WhereFilter} {number : Nat} {clause : FilterClause}
    {binding : Binding} (h : filter.Gives number clause binding) (column : String) :
    ∃ clause', WhereFilter.Gives { filter with column := column } number clause' binding := by
  let renamed : WhereFilter := { filter with column := column }
  have hconvert {value bound : Json} (h : filter.type.convert filter.column value = .ok bound) :
      filter.type.convert column value = .ok bound := by
    unfold FilterType.convert at h ⊢
    dsimp only at h ⊢
    split at h
    · exact h
    · cases h
  cases h with
  | one hvalues hcast hbound =>
    have hvalues' : renamed.values = _ := hvalues
    have hcast' : renamed.type.cast? = .ok _ := hcast
    exact ⟨_, .one hvalues' hcast' (hconvert hbound)⟩
  | several hvalues hsymbol hcast hbound =>
    have hsymbol' : renamed.operator.several? = some _ := hsymbol
    have hcast' : renamed.type.cast? = .ok _ := hcast
    have hall : renamed.values.mapM (renamed.type.convert column) = .ok _ :=
      mapM_eq_ok_of (fun _ _ => hconvert) hbound
    exact ⟨_, .several hvalues hsymbol' hcast' hall⟩

/-- Steps for other columns gather as much as the steps they differ from, with the same bindings. -/
theorem Gathers.exists_of_unnamed (hunnamed : steps.map unnamed = others.map unnamed)
    (hnamed : ∀ step ∈ others, step.Named) (h : Gathers count steps clauses bindings) :
    ∃ moreClauses, Gathers count others moreClauses bindings := by
  induction h generalizing others with
  | nil count =>
    obtain rfl := List.map_eq_nil_iff.mp hunnamed.symm
    exact ⟨[], .nil count⟩
  | @cons count step steps clauses moreClauses bindings moreBindings hstep hsteps ih =>
    obtain ⟨other, others, rfl, hother, hothers⟩ := List.map_eq_cons_iff.mp hunnamed.symm
    have hnamedRest : ∀ step ∈ others, step.Named :=
      fun step hmem => hnamed step (List.mem_cons_of_mem _ hmem)
    obtain ⟨rest, hrest⟩ := ih hothers.symm hnamedRest
    have hnamedFirst := hnamed other (by simp)
    cases hstep with
    | recent seconds =>
      cases other with
      | recent seconds' =>
        cases hother
        exact ⟨_, .cons (.recent seconds) hrest⟩
      | filter spec => cases hother
    | @filter spec filter clause binding hcheck hgives =>
      cases other with
      | recent seconds => cases hother
      | filter other =>
        obtain ⟨column, hcolumn, hgiven⟩ := hnamedFirst
        obtain ⟨clause', hclause'⟩ := exists_gives hgives column
        have hcheck' : other.check = .ok { filter with column := column } := by
          obtain ⟨-, hoperator, hvalues, htype⟩ := FilterSpec.mk.inj (FilterStep.filter.inj hother)
          obtain ⟨-, -, hfirst, hsome, hfound, hkind⟩ := FilterSpec.check_eq_ok.mp hcheck
          exact FilterSpec.check_eq_ok.mpr ⟨hcolumn, hgiven, hvalues.trans hfirst, hsome,
            by rw [hoperator, hfound], by rw [htype, hkind]⟩
        exact ⟨_, .cons (.filter hcheck' hclause') hrest⟩

end FilterStep

/-- What a statement says about any names: everything but the names themselves. -/
inductive Wording where
  | drop (kind : ObjectKind) (ifExists : Bool)
  | createView
  | cloneTable
  | createTableAs
  | copyTable
  | keyedCopy (columns keys : Nat)
  | insertTargets (columns : Nat)
  | mappedSelect (columns : Nat) (cast : Bool)
  | mappedClause (columns : Nat)
  | selection (columns : Nat) (steps : List FilterStep) (limit : Int)

/-- The texts of a wording, each with the names that stand in it, in order. Of an insertion this is
the text in front of the selection. -/
inductive Wording.Writes : Wording → List String → SqlText → Prop where
  | drop (kind : ObjectKind) (target : TableName) (ifExists : Bool) :
      Writes (.drop kind ifExists) [target.dataset, target.table]
        (Statement.drop kind target ifExists).sql
  | createView (view source : TableName) :
      Writes .createView [view.dataset, view.table, source.dataset, source.table]
        (Statement.createView view source).sql
  | cloneTable (target source : TableName) :
      Writes .cloneTable [target.dataset, target.table, source.dataset, source.table]
        (Statement.cloneTable target source).sql
  | createTableAs (target source : TableName) :
      Writes .createTableAs [target.dataset, target.table, source.dataset, source.table]
        (Statement.createTableAs target source).sql
  | copyTable (target source : TableName) :
      Writes .copyTable [target.dataset, target.table, source.dataset, source.table]
        (Statement.copyTable target source).sql
  | keyedCopy {copy : KeyedCopy} {statement : Statement} {columns keys : Nat}
      (hcolumns : copy.columns.length = columns) (hkeys : copy.keys.length = keys)
      (hstatement : Statement.keyedCopy copy = .ok statement) :
      Writes (.keyedCopy columns keys)
        ([copy.target.dataset, copy.target.table] ++ copy.columns ++ copy.columns ++ copy.keys ++
          copy.keys ++ [rowNumberColumn, copy.target.dataset, copy.source, rowNumberColumn])
        statement.sql
  | insertTargets {target : TableName} {names : List String} {select : String}
      {statement : Statement} {head : SqlText} {columns : Nat} (hcolumns : names.length = columns)
      (hstatement : Statement.selectInsert target names select = .ok statement)
      (hhead : statement.sql = head ++ SqlText.plain select) :
      Writes (.insertTargets columns) ([target.dataset, target.table] ++ names) head
  | mappedTargets {target : TableName} {select : MappedSelect} {cast : Bool}
      {statement : Statement} {head : SqlText} {columns : Nat}
      (hcolumns : select.mappings.length = columns)
      (hstatement : Statement.mappedInsert target select cast = .ok statement)
      (hhead : statement.sql = head ++ select.sql cast) :
      Writes (.insertTargets columns) ([target.dataset, target.table] ++ select.columnNames) head
  | mappedSelect {select : MappedSelect} {base : TableName} {columns : Nat}
      (hcolumns : select.mappings.length = columns) (hbase : select.base = .table base)
      (cast : Bool) :
      Writes (.mappedSelect columns cast)
        ((select.mappings.flatMap fun mapping =>
          [base.table, mapping.source, mapping.destination]) ++ [base.dataset, base.table])
        (select.sql cast)
  | mappedClause {select : MappedSelect} {base : TableName} {columns : Nat}
      (hcolumns : select.mappings.length = columns) (hbase : select.base = .table base) :
      Writes (.mappedClause columns)
        ((select.mappings.flatMap fun mapping =>
          [base.table, mapping.source, mapping.destination]) ++ [base.dataset, base.table])
        select.clause
  | selection {table : TableName} {query : FilterQuery} {names : List String}
      {given steps : List FilterStep} {columns : Nat} (hcolumns : names.length = columns)
      (hsteps : given.map FilterStep.unnamed = steps)
      (hquery : FilterQuery.build table given = .ok query) (limit : Int) :
      Writes (.selection columns steps limit)
        ((if names = [] then [table.table]
          else names.flatMap fun column => [table.table, column]) ++
          [table.dataset, table.table] ++ given.flatMap (FilterStep.tokens table.table))
        (query.sql names limit)

namespace Statement

/-- The statement of a keyed copy that is not refused. -/
theorem eq_of_keyedCopy {copy : KeyedCopy} {statement : Statement}
    (h : keyedCopy copy = .ok statement) : statement = .createKeyedCopy copy := by
  rw [keyedCopy] at h
  split at h
  · cases h
  · exact (Except.ok.inj h).symm

/-- The text of an insertion in front of its selection. -/
def insertHead (target : TableName) (columns : List String) : SqlText :=
  [.text "INSERT INTO "] ++ target.sql ++ [.text " ("] ++ SqlText.nameList columns ++
    [.text ")\n"]

variable {target : TableName} {columns others : List String} {statement : Statement}
  {head : SqlText}

/-- An insertion that is not refused begins with its head. -/
theorem head_of_selectInsert {select : String}
    (hstatement : selectInsert target columns select = .ok statement)
    (hhead : statement.sql = head ++ SqlText.plain select) : head = insertHead target columns := by
  rw [selectInsert] at hstatement
  split at hstatement
  · cases hstatement
  · rw [← Except.ok.inj hstatement] at hhead
    exact (List.append_cancel_right hhead).symm

/-- So does an insertion of mapped columns. -/
theorem head_of_mappedInsert {select : MappedSelect} {cast : Bool}
    (hstatement : mappedInsert target select cast = .ok statement)
    (hhead : statement.sql = head ++ select.sql cast) :
    head = insertHead target select.columnNames := by
  rw [mappedInsert] at hstatement
  split at hstatement
  · cases hstatement
  · rw [← Except.ok.inj hstatement] at hhead
    exact (List.append_cancel_right hhead).symm

theorem lacks_insertHead : SqlText.Lacks [backquote] (insertHead target columns) := by
  simp +decide [insertHead, TableName.sql, SqlText.lacks_nameList]

theorem names_insertHead :
    SqlText.names (insertHead target columns) = [target.dataset, target.table] ++ columns := by
  simp [insertHead, TableName.sql, SqlText.names_nameList]

theorem holes_insertHead {other : TableName} (h : columns.length = others.length) :
    SqlText.holes (insertHead target columns) = SqlText.holes (insertHead other others) := by
  simp only [insertHead, SqlText.holes_append, SqlText.holes_nameList h]
  rfl

end Statement

namespace MappedSelect

variable {select other : MappedSelect} {base base' : TableName} {cast : Bool}

/-- The text of a selection from a table. -/
theorem sql_of_table (h : select.base = .table base) :
    select.sql cast =
      (if select.mappings.isEmpty then [.text "SELECT * FROM "]
        else [.text "SELECT "] ++
          SqlText.joined ", " (select.mappings.map (column base.table cast)) ++
          [.text " FROM "]) ++ base.sql := by
  rw [sql, h]
  split <;> rfl

theorem lacks_sql (h : select.base = .table base) :
    SqlText.Lacks [backquote] (select.sql cast) := by
  have hcolumns : SqlText.Lacks [backquote]
      (SqlText.joined ", " (select.mappings.map (column base.table cast))) := by
    apply SqlText.Lacks.joined (by decide)
    intro sql hsql
    obtain ⟨mapping, -, rfl⟩ := List.mem_map.mp hsql
    cases cast <;> simp +decide [column]
  rw [sql_of_table h]
  split <;> simp +decide [TableName.sql, hcolumns]

theorem names_sql (h : select.base = .table base) :
    SqlText.names (select.sql cast) =
      (select.mappings.flatMap fun mapping =>
        [base.table, mapping.source, mapping.destination]) ++ [base.dataset, base.table] := by
  have hcolumns :
      SqlText.names (SqlText.joined ", " (select.mappings.map (column base.table cast))) =
        select.mappings.flatMap fun mapping =>
          [base.table, mapping.source, mapping.destination] := by
    rw [SqlText.names_joined, List.flatMap_map]
    refine List.flatMap_congr fun mapping _ => ?_
    cases cast <;> rfl
  rw [sql_of_table h]
  split
  · next hnone => simp [TableName.sql, List.isEmpty_iff.mp hnone]
  · simp [TableName.sql, hcolumns]

theorem holes_sql (h : select.base = .table base) (hother : other.base = .table base')
    (hlength : select.mappings.length = other.mappings.length) :
    SqlText.holes (select.sql cast) = SqlText.holes (other.sql cast) := by
  have hempty : select.mappings.isEmpty = other.mappings.isEmpty :=
    SqlText.isEmpty_eq_of_length_eq hlength
  have hcolumns :
      SqlText.holes (SqlText.joined ", " (select.mappings.map (column base.table cast))) =
        SqlText.holes (SqlText.joined ", " (other.mappings.map (column base'.table cast))) := by
    have hsame (mappings : List ColumnMapping) (table : String) :
        (mappings.map (column table cast)).map SqlText.holes =
          List.replicate mappings.length (SqlText.holes (column "" cast ⟨"", ""⟩)) := by
      rw [List.map_map, ← List.map_const']
      refine List.map_congr_left fun mapping _ => ?_
      cases cast <;> rfl
    exact SqlText.holes_joined ((hsame _ _).trans (by rw [hlength, hsame]))
  rw [sql_of_table h, sql_of_table hother, hempty, SqlText.holes_append, SqlText.holes_append]
  congr 1
  split
  · rfl
  · simp only [SqlText.holes_append, hcolumns]

end MappedSelect

namespace Wording

variable {wording : Wording} {tokens others : List String} {sql other : SqlText}

/-- A text opens no quotes but those of its names. -/
theorem Writes.lacks (h : wording.Writes tokens sql) : SqlText.Lacks [backquote] sql := by
  cases h with
  | drop kind target ifExists =>
    cases kind <;> cases ifExists <;> simp +decide [Statement.sql, TableName.sql]
  | createView view source => simp +decide [Statement.sql, TableName.sql]
  | cloneTable target source => simp +decide [Statement.sql, TableName.sql]
  | createTableAs target source => simp +decide [Statement.sql, TableName.sql]
  | copyTable target source => simp +decide [Statement.sql, TableName.sql]
  | keyedCopy hcolumns hkeys hstatement =>
    rw [Statement.eq_of_keyedCopy hstatement]
    simp +decide [Statement.sql, TableName.sql, SqlText.lacks_nameList]
  | insertTargets hcolumns hstatement hhead =>
    rw [Statement.head_of_selectInsert hstatement hhead]
    exact Statement.lacks_insertHead
  | mappedTargets hcolumns hstatement hhead =>
    rw [Statement.head_of_mappedInsert hstatement hhead]
    exact Statement.lacks_insertHead
  | mappedSelect hcolumns hbase cast => exact MappedSelect.lacks_sql hbase
  | mappedClause hcolumns hbase => simp +decide [MappedSelect.clause, MappedSelect.lacks_sql hbase]
  | selection hcolumns hsteps hquery limit =>
    obtain ⟨hgathers, -⟩ := FilterQuery.build_eq_ok.mp hquery
    exact FilterQuery.lacks_sql hgathers.tame _ limit

/-- It has the names that the wording says. -/
theorem Writes.names (h : wording.Writes tokens sql) : SqlText.names sql = tokens := by
  cases h with
  | drop kind target ifExists =>
    cases kind <;> cases ifExists <;> simp [Statement.sql, TableName.sql]
  | createView view source => simp [Statement.sql, TableName.sql]
  | cloneTable target source => simp [Statement.sql, TableName.sql]
  | createTableAs target source => simp [Statement.sql, TableName.sql]
  | copyTable target source => simp [Statement.sql, TableName.sql]
  | keyedCopy hcolumns hkeys hstatement =>
    rw [Statement.eq_of_keyedCopy hstatement]
    simp [Statement.sql, TableName.sql, SqlText.names_nameList, TableName.sibling]
  | insertTargets hcolumns hstatement hhead =>
    rw [Statement.head_of_selectInsert hstatement hhead, Statement.names_insertHead]
  | mappedTargets hcolumns hstatement hhead =>
    rw [Statement.head_of_mappedInsert hstatement hhead, Statement.names_insertHead]
  | mappedSelect hcolumns hbase cast => exact MappedSelect.names_sql hbase
  | mappedClause hcolumns hbase => simp [MappedSelect.clause, MappedSelect.names_sql hbase]
  | selection hcolumns hsteps hquery limit =>
    obtain ⟨hgathers, rfl⟩ := FilterQuery.build_eq_ok.mp hquery
    rw [FilterQuery.names_sql, hgathers.names_eq]

/-- Two texts of one wording are alike but for their names. -/
theorem Writes.holes_eq (h : wording.Writes tokens sql) (hother : wording.Writes others other) :
    SqlText.holes sql = SqlText.holes other := by
  cases h with
  | drop kind target ifExists =>
    cases hother
    cases kind <;> cases ifExists <;> rfl
  | createView view source => cases hother; rfl
  | cloneTable target source => cases hother; rfl
  | createTableAs target source => cases hother; rfl
  | copyTable target source => cases hother; rfl
  | keyedCopy hcolumns hkeys hstatement =>
    cases hother with
    | keyedCopy hcolumns' hkeys' hstatement' =>
      rw [Statement.eq_of_keyedCopy hstatement, Statement.eq_of_keyedCopy hstatement']
      simp only [Statement.sql, SqlText.holes_append,
        SqlText.holes_nameList (hcolumns.trans hcolumns'.symm),
        SqlText.holes_nameList (hkeys.trans hkeys'.symm)]
      rfl
  | insertTargets hcolumns hstatement hhead =>
    rw [Statement.head_of_selectInsert hstatement hhead]
    cases hother with
    | insertTargets hcolumns' hstatement' hhead' =>
      rw [Statement.head_of_selectInsert hstatement' hhead']
      exact Statement.holes_insertHead (hcolumns.trans hcolumns'.symm)
    | mappedTargets hcolumns' hstatement' hhead' =>
      rw [Statement.head_of_mappedInsert hstatement' hhead']
      exact Statement.holes_insertHead (by simp [MappedSelect.columnNames, hcolumns, hcolumns'])
  | mappedTargets hcolumns hstatement hhead =>
    rw [Statement.head_of_mappedInsert hstatement hhead]
    cases hother with
    | insertTargets hcolumns' hstatement' hhead' =>
      rw [Statement.head_of_selectInsert hstatement' hhead']
      exact Statement.holes_insertHead (by simp [MappedSelect.columnNames, hcolumns, hcolumns'])
    | mappedTargets hcolumns' hstatement' hhead' =>
      rw [Statement.head_of_mappedInsert hstatement' hhead']
      exact Statement.holes_insertHead (by simp [MappedSelect.columnNames, hcolumns, hcolumns'])
  | mappedSelect hcolumns hbase cast =>
    cases hother with
    | mappedSelect hcolumns' hbase' =>
      exact MappedSelect.holes_sql hbase hbase' (hcolumns.trans hcolumns'.symm)
  | mappedClause hcolumns hbase =>
    cases hother with
    | mappedClause hcolumns' hbase' =>
      simp only [MappedSelect.clause, SqlText.holes_append,
        MappedSelect.holes_sql hbase hbase' (hcolumns.trans hcolumns'.symm)]
  | selection hcolumns hsteps hquery limit =>
    cases hother with
    | selection hcolumns' hsteps' hquery' =>
      obtain ⟨hgathers, -⟩ := FilterQuery.build_eq_ok.mp hquery
      obtain ⟨hgathers', -⟩ := FilterQuery.build_eq_ok.mp hquery'
      exact FilterQuery.holes_sql (hcolumns.trans hcolumns'.symm)
        (hgathers.unnamed_eq (hsteps.trans hsteps'.symm) hgathers') limit

/-- Every text of a wording has one outline. -/
theorem exists_outline (wording : Wording) :
    ∃ outline : List (Option Char), ∀ (tokens : List String) (sql : SqlText),
      wording.Writes tokens sql → Lexeme.outline sql.lexemes = outline := by
  by_cases h : ∃ tokens sql, wording.Writes tokens sql
  · obtain ⟨tokens, sql, hwrites⟩ := h
    refine ⟨Lexeme.outline sql.lexemes, fun others other hother => ?_⟩
    rw [SqlText.outline_lexemes, SqlText.outline_lexemes, hother.holes_eq hwrites]
  · exact ⟨[], fun tokens sql hwrites => absurd ⟨tokens, sql, hwrites⟩ h⟩

end Wording

/-- Names stay in their quotes. A quoted name is read back as itself whatever text follows it; the
texts of one wording differ in their quoted names only, which are the given ones in their order; and
a selection that is built can be built for other names. -/
theorem names_stay_quoted :
    (∀ (name : String) (rest : List Char),
      unquote? ((quoteName name).toList ++ rest) = some (name.toList, rest)) ∧
    (∀ wording : Wording, ∃ outline : List (Option Char),
      ∀ (tokens : List String) (sql : SqlText), wording.Writes tokens sql →
        ∃ lexemes : List Lexeme,
          Lexeme.outline lexemes = outline ∧ Lexeme.names lexemes = tokens ∧
            ∀ rest : List Char,
              lex (sql.render.toList ++ rest) = (lex rest).map (lexemes ++ ·)) ∧
    (∀ (table other : TableName) (steps others : List FilterStep) (query : FilterQuery),
      FilterQuery.build table steps = .ok query →
        steps.map FilterStep.unnamed = others.map FilterStep.unnamed →
          (∀ step ∈ others, step.Named) →
            ∃ query', FilterQuery.build other others = .ok query' ∧
              query'.bindings = query.bindings) := by
  refine ⟨fun name rest => ?_, fun wording => ?_, ?_⟩
  · rw [quoteName, String.toList_ofList]
    exact unquote?_quoteChars name.toList rest
  · obtain ⟨outline, houtline⟩ := wording.exists_outline
    refine ⟨outline, fun tokens sql hwrites => ⟨sql.lexemes, houtline tokens sql hwrites, ?_, ?_⟩⟩
    · rw [SqlText.names_lexemes, hwrites.names]
    · exact SqlText.lex_render hwrites.lacks
  · intro table other steps others query hquery hunnamed hnamed
    obtain ⟨hgathers, -⟩ := FilterQuery.build_eq_ok.mp hquery
    obtain ⟨clauses, hclauses⟩ := hgathers.exists_of_unnamed hunnamed hnamed
    exact ⟨⟨other, clauses, query.bindings⟩, FilterQuery.build_eq_ok.mpr ⟨hclauses, rfl⟩, rfl⟩

/-- A table whose name would end its quotes and begin a comment is dropped by that name, and a
filter is kept for a column whose name is as bad. -/
theorem names_stay_quoted_dropped :
    (∃ lexemes : List Lexeme, Lexeme.names lexemes = ["a\x60; --", "b\\"] ∧
      lex (Statement.drop .table ⟨"a\x60; --", "b\\"⟩ true).text.toList = some lexemes) ∧
    ∃ query, FilterQuery.build ⟨"a\x60; --", "b\\"⟩
      [.filter ⟨some "c\x60 = 1 --", .str "eq", [.str "v"], .str "STRING"⟩] = .ok query ∧
        query.bindings.map Binding.name = ["dcValue1"] := by
  constructor
  · obtain ⟨outline, houtline⟩ := names_stay_quoted.2.1 (.drop .table true)
    obtain ⟨lexemes, -, hnames, hlex⟩ :=
      houtline _ _ (.drop .table ⟨"a\x60; --", "b\\"⟩ true)
    exact ⟨lexemes, hnames, by simpa [lex, Statement.text] using hlex []⟩
  · obtain ⟨query, hquery, hbindings⟩ := names_stay_quoted.2.2 ⟨"data", "sales"⟩
      ⟨"a\x60; --", "b\\"⟩ [.filter ⟨some "c", .str "eq", [.str "v"], .str "STRING"⟩]
      [.filter ⟨some "c\x60 = 1 --", .str "eq", [.str "v"], .str "STRING"⟩]
      _ rfl rfl (by
        intro step hstep
        rw [List.mem_singleton.mp hstep]
        exact ⟨_, rfl, by decide⟩)
    exact ⟨query, hquery, by rw [hbindings]; rfl⟩

end WarehouseImport
