import WarehouseImport.Proofs.Routing.Insertions
import WarehouseImport.Proofs.Routing.Subqueries
import WarehouseImport.Proofs.Validation.Reconciliation

/-!
# Columns of the table of keys

The statement that makes the table of keys selects from an inner selection, which projects the
staged columns and numbers the rows of each key in one column more. That column has a fixed name. A
staged column may have the same name, since a staging table takes the names of its columns from a
command or a file; the inner selection then projects two columns that agree in lower case, and
neither the staged column nor the number of a row can be told from the other.
-/

namespace WarehouseImport

open WarehouseImport.Sql WarehouseImport.Text

namespace SqlText

/-- Texts one behind the other are sent so. -/
theorem render_append (left right : SqlText) :
    (left ++ right).render = left.render ++ right.render := by
  rw [render, List.map_append, String.join_append]
  rfl

/-- So are the pieces of a text. -/
theorem render_cons (piece : Piece) (rest : SqlText) :
    render (piece :: rest) = piece.render ++ rest.render := by
  rw [render, List.map_cons, String.join_cons]
  rfl

/-- A text without pieces is empty. -/
theorem render_nil : render [] = "" := rfl

end SqlText

namespace KeyedCopy

/-- The number of a row within its key, under its name. -/
def numbering (copy : KeyedCopy) : SqlText :=
  [.text "ROW_NUMBER() OVER (PARTITION BY "] ++ SqlText.nameList copy.keys ++
    [.text " ORDER BY "] ++ SqlText.nameList copy.keys ++ [.text ") AS ", .name rowNumberColumn]

/-- The inner selection of the statement: the columns, and the number of each row behind them. -/
def innerSelection (copy : KeyedCopy) : SqlText :=
  [.text "SELECT "] ++ SqlText.nameList copy.columns ++ [.text "\n       ,      "] ++
    copy.numbering ++ [.text "\n       FROM   "] ++ (copy.target.sibling copy.source).sql

/-- The columns that the inner selection projects. -/
def projection (copy : KeyedCopy) : List String := copy.columns ++ [rowNumberColumn]

/-- The text of the statement selects from the inner selection. -/
theorem text_createKeyedCopy (copy : KeyedCopy) :
    (Statement.createKeyedCopy copy).text =
      "CREATE TABLE " ++ copy.target.sql.render ++ " AS\nSELECT " ++
        (SqlText.nameList copy.columns).render ++ "\nFROM   (\n       " ++
        copy.innerSelection.render ++ "\n       )\nWHERE  " ++ quoteName rowNumberColumn ++
        " = 1" := by
  have hselects : "\nFROM   (\n       SELECT " = "\nFROM   (\n       " ++ "SELECT " := rfl
  have hnumbers : "\n       ,      ROW_NUMBER() OVER (PARTITION BY " =
      "\n       ,      " ++ "ROW_NUMBER() OVER (PARTITION BY " := rfl
  simp only [Statement.text, Statement.sql, innerSelection, numbering, SqlText.render_append,
    SqlText.render_cons, SqlText.render_nil, Piece.render, String.append_empty]
  rw [hselects, hnumbers]
  simp only [String.append_assoc]

/-- The name of the number is in lower case. -/
theorem lower_rowNumberColumn : lower rowNumberColumn = rowNumberColumn := by decide

/-- The names that the inner selection projects differ by more than case if the columns do and none
of them has the name of the number. -/
theorem nodup_projection_iff {copy : KeyedCopy} (h : (copy.columns.map lower).Nodup) :
    (copy.projection.map lower).Nodup ↔ rowNumberColumn ∉ copy.columns.map lower := by
  rw [projection, Text.nodup_lower_append_iff, lower_rowNumberColumn]
  exact and_iff_right h

/-- A name refers to the columns that agree with it, and to the number if it has the name of this. -/
theorem referredColumns_projection (copy : KeyedCopy) (name : String) :
    referredColumns copy.projection name = (copy.columns.map lower).count (lower name) +
      if lower name = rowNumberColumn then 1 else 0 := by
  rw [projection, referredColumns_eq_count, List.map_append, List.count_append, List.map_singleton,
    lower_rowNumberColumn, List.count_singleton]
  by_cases hname : lower name = rowNumberColumn
  · simp [hname]
  · have hother : ¬ rowNumberColumn = lower name := fun hsame => hname hsame.symm
    simp [hname, hother]

end KeyedCopy

namespace Writing

open WarehouseImport.Action Exchange Trace

variable {warehouse : Warehouse} {mode : WriteMode} {staging destination : TableDefinition}
  {options : TransferOptions} {session after : Session} {exchanges : List Exchange}
  {keeping : Exchange} {copy : KeyedCopy} {outcome : Except Failure ImportResult}

/-- The number has the name of a staged column if it has that of a column of the staging table. -/
theorem rowNumberColumn_mem_iff (staging : TableDefinition) :
    rowNumberColumn ∈ (stagedColumns staging).map lower ↔
      staging.columns.contains rowNumberColumn = true := by
  have htime : rowNumberColumn ≠ timestampColumn := by decide
  rw [ColumnCollection.contains_iff, KeyedCopy.lower_rowNumberColumn]
  constructor
  · intro hmem
    obtain ⟨name, hname, hlower⟩ := List.mem_map.mp hmem
    obtain ⟨column, hcolumn, rfl⟩ := List.mem_map.mp (mem_stagedColumns.mp hname).1
    exact ⟨column, hcolumn, hlower⟩
  · rintro ⟨column, hcolumn, hlower⟩
    exact List.mem_map.mpr ⟨column.name,
      mem_stagedColumns.mpr ⟨List.mem_map_of_mem hcolumn, hlower ▸ htime⟩, hlower⟩

/-- The table of keys takes its columns from an inner selection that projects the staged columns and
the number of each row. The names that it projects differ by more than case exactly if no column of
the staging table has the name of the number. What stands outside the inner selection refers to one
column of it, but for that name where a column has it as well: then it refers to two. -/
theorem keyed_references
    (hrun : Runs (finish warehouse mode staging destination options) session exchanges outcome
      after)
    (hmem : keeping ∈ exchanges) (hsent : keeping.statement? = some (.createKeyedCopy copy)) :
    copy.columns = stagedColumns staging ∧ copy.keys = keys staging destination ∧
    (Statement.createKeyedCopy copy).text =
      "CREATE TABLE " ++ copy.target.sql.render ++ " AS\nSELECT " ++
        (SqlText.nameList copy.columns).render ++ "\nFROM   (\n       " ++
        copy.innerSelection.render ++ "\n       )\nWHERE  " ++ quoteName rowNumberColumn ++
        " = 1" ∧
    ((copy.projection.map lower).Nodup ↔
      staging.columns.contains rowNumberColumn = false) ∧
    ∀ name ∈ copy.columns ++ [rowNumberColumn], referredColumns copy.projection name =
      if lower name = rowNumberColumn ∧ staging.columns.contains rowNumberColumn then 2 else 1 := by
  have hcopy := (fits_writes (follows_finish _ _ _ _ _ hrun).1 _ hmem).keeps _ hsent
  have hcolumns : copy.columns = stagedColumns staging := by rw [hcopy]; rfl
  have hdistinct := nodup_stagedColumns staging
  have hnumber := rowNumberColumn_mem_iff staging
  rw [← hcolumns] at hdistinct hnumber
  refine ⟨hcolumns, by rw [hcopy]; rfl, copy.text_createKeyedCopy, ?_, fun name hname => ?_⟩
  · rw [KeyedCopy.nodup_projection_iff hdistinct, hnumber, Bool.not_eq_true]
  · rw [KeyedCopy.referredColumns_projection, hdistinct.count]
    by_cases hsame : lower name = rowNumberColumn
    · rw [hsame, if_pos rfl]
      by_cases hcontains : staging.columns.contains rowNumberColumn = true
      · rw [if_pos (hnumber.mpr hcontains), if_pos ⟨rfl, hcontains⟩]
      · rw [if_neg (mt hnumber.mp hcontains), if_neg fun h => hcontains h.2]
    · have hstaged : name ∈ copy.columns := by
        rcases List.mem_append.mp hname with hstaged | hrow
        · exact hstaged
        · rw [List.mem_singleton.mp hrow, KeyedCopy.lower_rowNumberColumn] at hsame
          exact absurd rfl hsame
      rw [if_pos (List.mem_map_of_mem hstaged), if_neg hsame, if_neg fun h => hsame h.1]

/-- The exchanges of writing a keyed destination from a staging table of this layout. -/
def numberedExchanges (staging : TableDefinition) : List Exchange :=
  (finish ⟨"project", false, none⟩ .replace staging (datedTable "w" "dst") {}).against Session.plain
    (Script.obliging fun _ => .ok (ReflectedTable.ofNames ["a"] ["a"]))

/-- A staging table may have a column of the name of the number, in any case. The statement that is
sent then projects two columns of this name, and filters on one that is not told from the other. -/
theorem keyed_references_captured : ∃ layout staging,
    Staging.Layout.ofNames (datedTable "w" "dst") ["a", "_ROW_number_"] = .ok layout ∧
    layout.define (datedTable "w" "dst") "stg" = .ok staging ∧
    ∃ keeping ∈ numberedExchanges staging, ∃ copy,
      keeping.statement? = some (.createKeyedCopy copy) ∧
      copy.projection = ["a", "_ROW_number_", "_row_number_"] ∧
      ¬ (copy.projection.map lower).Nodup ∧
      referredColumns copy.projection "_ROW_number_" = 2 ∧
      referredColumns copy.projection rowNumberColumn = 2 := by
  obtain ⟨layout, staging, hlayout, hdefine, hcontains, keeping, hmem, copy, hsent, hprojection⟩ :
      ∃ layout staging,
        Staging.Layout.ofNames (datedTable "w" "dst") ["a", "_ROW_number_"] = .ok layout ∧
        layout.define (datedTable "w" "dst") "stg" = .ok staging ∧
        staging.columns.contains rowNumberColumn = true ∧
        ∃ keeping ∈ numberedExchanges staging, ∃ copy,
          keeping.statement? = some (.createKeyedCopy copy) ∧
          copy.projection = ["a", "_ROW_number_", "_row_number_"] :=
    ⟨_, _, rfl, rfl, rfl, _, List.mem_cons_self, _, rfl, rfl⟩
  obtain ⟨outcome, after, hrun⟩ := runs_against
    (finish ⟨"project", false, none⟩ .replace staging (datedTable "w" "dst") {}) Session.plain
    (Script.obliging fun _ => .ok (ReflectedTable.ofNames ["a"] ["a"]))
  obtain ⟨-, -, -, hnodup, hrefers⟩ := keyed_references hrun hmem hsent
  have hnames : copy.columns ++ [rowNumberColumn] = ["a", "_ROW_number_", "_row_number_"] :=
    hprojection
  refine ⟨layout, staging, hlayout, hdefine, keeping, hmem, copy, hsent, hprojection, ?_, ?_, ?_⟩
  · rw [hnodup, hcontains]
    decide
  · rw [hrefers _ (by simp [hnames]), if_pos ⟨by decide, hcontains⟩]
  · rw [hrefers _ (by simp), if_pos ⟨by decide, hcontains⟩]

end Writing

end WarehouseImport
