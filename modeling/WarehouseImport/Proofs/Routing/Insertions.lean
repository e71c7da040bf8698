import WarehouseImport.Proofs.Routing.Assignment
import WarehouseImport.Proofs.Safety.KeptTable
import WarehouseImport.Proofs.Sql.Lexing

/-!
# Insertions into the destination

The columns that a final insertion lists, the values that it selects, the columns of the table of
keys and the keys in it are computed one by one from the staging table, from the destination and
from the options. They fit together: each target has a value, no two targets are the same, each
value reads a staged column, and the time column is a target where it is asked for.

An insertion looks for its source beside the destination, while the table of keys is made beside the
staging table. Both are the same place for a staging table that is made for its destination; where
they differ, nothing provides what the insertion reads.
-/

namespace WarehouseImport

open WarehouseImport.Text

namespace StagedInsert

/-- Each staged value reads its column and nothing else, and the time reads no column. -/
theorem names_expressions (insert : StagedInsert) :
    insert.expressions.map SqlText.names =
      insert.columns.map (fun column => [column]) ++ if insert.stamped then [[]] else [] := by
  have hstaged : (insert.columns.map insert.expression).map SqlText.names =
      insert.columns.map fun column => [column] := by
    rw [List.map_map]
    refine List.map_congr_left fun column _ => ?_
    change (insert.expression column).names = _
    unfold expression
    split <;> rfl
  unfold expressions
  cases insert.stamped with
  | false => simpa using hstaged
  | true =>
    dsimp only
    rw [if_pos rfl, if_pos rfl, List.map_append, hstaged]
    rfl

end StagedInsert

namespace Writing

open WarehouseImport.Action Exchange Trace

variable {warehouse : Warehouse} {mode : WriteMode} {staging destination : TableDefinition}
  {options : TransferOptions} {insert : StagedInsert} {session after : Session}
  {exchanges before behind : List Exchange} {writing : Exchange} {name : String}
  {outcome : Except Failure ImportResult}

/-- A staged column is a column of the staging table, and not the time column. -/
theorem mem_stagedColumns :
    name ∈ stagedColumns staging ↔ name ∈ staging.columnNames ∧ lower name ≠ timestampColumn := by
  simp [stagedColumns]

/-- No two staged columns agree in lower case. -/
theorem nodup_stagedColumns (staging : TableDefinition) :
    ((stagedColumns staging).map lower).Nodup :=
  staging.columns.nodup_lower_names.sublist (List.filter_sublist.map lower)

/-- The time column is not staged. -/
theorem timestampColumn_notMem (staging : TableDefinition) :
    timestampColumn ∉ (stagedColumns staging).map lower := by
  intro hmem
  obtain ⟨name, hname, hlower⟩ := List.mem_map.mp hmem
  exact (mem_stagedColumns.mp hname).2 hlower

/-- An insertion lists the staged columns, and the time column behind them where it is asked for. -/
theorem targets_insertion (staging destination : TableDefinition) (options : TransferOptions)
    (source : String) :
    (insertion staging destination options source).targets =
      stagedColumns staging ++ if options.stamped then [timestampColumn] else [] := by
  rw [StagedInsert.targets]
  cases hstamped : options.stamped <;> simp [insertion, hstamped]

/-- No two columns that an insertion lists agree in lower case. -/
theorem nodup_targets (staging destination : TableDefinition) (options : TransferOptions)
    (source : String) :
    ((insertion staging destination options source).targets.map lower).Nodup := by
  have htime : lower timestampColumn = timestampColumn := by decide
  rw [targets_insertion]
  cases options.stamped with
  | false => simpa using nodup_stagedColumns staging
  | true =>
    rw [if_pos rfl, Text.nodup_lower_append_iff, htime]
    exact ⟨nodup_stagedColumns staging, timestampColumn_notMem staging⟩

/-- The values of an insertion read staged columns only. -/
theorem mem_stagedColumns_of_names {source : String} {expression : SqlText}
    (hmem : expression ∈ (insertion staging destination options source).expressions)
    (hname : name ∈ expression.names) : name ∈ stagedColumns staging := by
  have hlisted : expression.names ∈
      (insertion staging destination options source).expressions.map SqlText.names :=
    List.mem_map_of_mem hmem
  rw [StagedInsert.names_expressions, List.mem_append] at hlisted
  rcases hlisted with hlisted | hlisted
  · obtain ⟨column, hcolumn, hreads⟩ := List.mem_map.mp hlisted
    rw [← hreads, List.mem_singleton] at hname
    exact hname ▸ hcolumn
  · split at hlisted
    · rw [List.mem_singleton.mp hlisted] at hname
      cases hname
    · cases hlisted

/-- The name of the table that the destination is written from. -/
def readName (staging destination : TableDefinition) : String :=
  if (keys staging destination).isEmpty then staging.name.table
  else (keyedCopy staging destination).target.table

/-- What the exchanges of an import provide beside the columns of the staging table: each table that
is created from it holds the columns that its statement projects. -/
inductive Provides (staging : TableDefinition) (exchanges : List Exchange) :
    TableName → List String → Prop where
  | staged : Provides staging exchanges staging.name staging.columnNames
  | kept {copy : KeyedCopy} {exchange : Exchange} (hmem : exchange ∈ exchanges)
      (hsent : exchange.statement? = some (.createKeyedCopy copy)) (hdone : exchange.Done) :
      Provides staging exchanges copy.target copy.columns

/-- The exchange writes no insertion but the one of two tables, and creates no table of keys but
theirs. -/
structure Fits (staging destination : TableDefinition) (options : TransferOptions)
    (exchange : Exchange) : Prop where
  writes : ∀ insert, exchange.writes? = some insert →
    insert = insertion staging destination options (readName staging destination)
  keeps : ∀ copy, exchange.statement? = some (.createKeyedCopy copy) →
    copy = keyedCopy staging destination

/-- The insertion of two tables fits them. -/
theorem fits_writesFrom :
    Every (writesFrom warehouse mode
        (insertion staging destination options (readName staging destination)))
      (Fits staging destination options) := by
  refine (every_once ?_).skippedIf _
  rintro exchange ⟨written, hwritten, hsent⟩
  constructor
  · intro insert hwrites
    rw [writes?, hsent] at hwrites
    cases mode <;> cases hwritten <;> exact (Option.some.inj hwrites).symm
  · intro copy hcopy
    rw [hsent] at hcopy
    cases mode <;> cases hwritten <;> cases hcopy

/-- All that is sent to write the destination fits. -/
theorem fits_writes :
    Every (writes warehouse mode staging destination options)
      (Fits staging destination options) := by
  have hinserts := @fits_writesFrom warehouse mode staging destination options
  unfold writes
  split
  · next hkeys =>
    rw [readName, if_pos hkeys] at hinserts
    exact hinserts
  · next hkeys =>
    rw [readName, if_neg hkeys] at hinserts
    refine (every_sends fun exchange hsent =>
      ⟨fun insert hwrites => ?_, fun copy hcopy => ?_⟩).andThen
        (hinserts.closedBy (every_sends fun exchange hsent =>
          ⟨fun insert hwrites => ?_, fun copy hcopy => ?_⟩).attempt)
    · rw [writes?, hsent] at hwrites
      cases hwrites
    · rw [hsent] at hcopy
      cases hcopy
      rfl
    · rw [writes?, hsent] at hwrites
      cases hwrites
    · rw [hsent] at hcopy
      cases hcopy

/-- Statements that only go to the log are quiet. -/
theorem quiet_run_of_dryRun (hdry : warehouse.dryRun = true) (statement : Statement) :
    Quiet (warehouse.run statement) := by
  refine (Warehouse.quiet_logStatement _ _ _).bind fun _ => ?_
  rw [if_pos hdry]
  exact quiet_pure _

/-- A drop that only goes to the log is quiet, too. -/
theorem quiet_drop_of_dryRun (hdry : warehouse.dryRun = true) (kind : ObjectKind)
    (target : TableName) (mayMiss : Bool) : Quiet (warehouse.drop kind target mayMiss) := by
  refine (quiet_run_of_dryRun hdry _).tryCatch fun failure => ?_
  cases failure with
  | backend e =>
    change Quiet (if _ then _ else _)
    split
    · exact (Warehouse.quiet_log _ _).bind fun _ => quiet_pure _
    · exact quiet_throw _
  | _ => exact quiet_throw _

/-- Without statements that are sent, writing the destination is quiet. -/
theorem quiet_finish_of_dryRun (hdry : warehouse.dryRun = true) :
    Quiet (finish warehouse mode staging destination options) := by
  have htimed {α : Type} {action : Action α} (name : String) (haction : Quiet action) :
      Quiet (timed name action) :=
    (quiet_startTimer name).bind fun _ => haction.bind fun _ =>
      (quiet_stopTimer name).bind fun _ => quiet_pure _
  have hwrite (source : String) :
      Quiet (writeFrom warehouse mode staging destination options source) :=
    (htimed _ ((quiet_ofExcept _).bind fun _ => quiet_run_of_dryRun hdry _)).bind fun _ =>
      quiet_pure _
  have hkeep : Quiet (deduplicate warehouse staging destination) :=
    (htimed _ ((quiet_ofExcept _).bind fun _ => quiet_run_of_dryRun hdry _)).bind fun _ =>
      quiet_pure _
  refine (quiet_ofExcept _).bind fun _ => Quiet.bind ?_ fun _ =>
    (quiet_setColumns _).bind fun _ => quiet_progress.bind fun _ => quiet_pure _
  unfold write
  split
  · exact hwrite _
  · refine hkeep.bind fun kept session exchanges outcome after h => ?_
    obtain ⟨first, result, middle, rest, cleaned, rfl, hfirst, hlast, -⟩ := runs_afterwards.mp h
    obtain ⟨rfl, hmiddle⟩ := hwrite _ hfirst
    obtain ⟨rfl, hafter⟩ :=
      ((quiet_drop_of_dryRun hdry .table kept true).bind fun _ => quiet_pure ()) hlast
    exact ⟨rfl, hafter.trans hmiddle⟩

/-- What was sent before the destination is written provides the table that is read, beside the
staging table. -/
theorem provides_read
    (hrun : Runs (finish warehouse mode staging destination options) session exchanges outcome
      after)
    (hsplit : exchanges = before ++ writing :: behind) (hwrites : writing.writes? = some insert) :
    ∃ columns,
      Provides staging before (staging.name.sibling (readName staging destination)) columns := by
  cases hdry : warehouse.dryRun with
  | true =>
    obtain ⟨hnone, -⟩ := quiet_finish_of_dryRun hdry hrun
    rw [hnone] at hsplit
    simp at hsplit
  | false =>
    obtain ⟨keeping, written, dropping, hphases, -, haside, hwritten⟩ :=
      split_of_writes hdry (follows_finish _ _ _ _ _ hrun).1
    have hnone : ∀ exchange ∈ keeping ++ dropping, exchange.writes? = none :=
      fun exchange hmem => (haside exchange hmem).1
    rw [hphases] at hsplit
    rcases hwritten with rfl | ⟨write, _, rfl, -, -, -, hkeyed⟩
    · have hmem : writing ∈ keeping ++ dropping := by
        rw [List.nil_append] at hsplit
        simp [hsplit]
      rw [hnone _ hmem] at hwrites
      cases hwrites
    obtain ⟨rfl, rfl, rfl⟩ := eq_of_split hsplit
      (fun exchange hmem => hnone exchange (List.mem_append_left _ hmem))
      (fun exchange hmem => hnone exchange (List.mem_append_right _ hmem)) (by simp [hwrites])
    unfold readName
    split
    · exact ⟨_, .staged⟩
    · next hkeys =>
      obtain ⟨-, keep, rfl, hdone, hsent⟩ := hkeyed (by simpa using hkeys)
      exact ⟨_, .kept List.mem_cons_self hsent hdone⟩

/-- Whatever is provided stands in the dataset of the staging table and holds the staged columns. -/
theorem of_provides
    (hrun : Runs (finish warehouse mode staging destination options) session exchanges outcome
      after)
    (hbefore : ∀ exchange ∈ before, exchange ∈ exchanges) {table : TableName}
    {columns : List String} (h : Provides staging before table columns) :
    table.dataset = staging.name.dataset ∧ ∀ name ∈ stagedColumns staging, name ∈ columns := by
  cases h with
  | staged => exact ⟨rfl, fun name hname => (mem_stagedColumns.mp hname).1⟩
  | kept hmem hsent hdone =>
    have hfits := fits_writes (follows_finish _ _ _ _ _ hrun).1 _ (hbefore _ hmem)
    rw [hfits.keeps _ hsent]
    exact ⟨rfl, fun name hname => hname⟩

/-- The insertion into a destination fits the staging table that it is made for. Whatever the
columns and keys of both tables and the options, an insertion that is sent has as many values as
targets, and no two targets agree in lower case. The time column is the last of the targets and
among no others where it is asked for, and it is none of them where it is not. The table that is
read is there before exactly if the staging table is in the dataset of its destination, and then
every column that a value names is one of its columns. The keys of a table of keys are columns of
the staging table. -/
theorem insertion_agrees
    (hrun : Runs (finish warehouse mode staging destination options) session exchanges outcome
      after)
    (hsplit : exchanges = before ++ writing :: behind) (hwrites : writing.writes? = some insert)
    (hcolumn : ∃ name ∈ staging.columnNames, lower name ≠ timestampColumn) :
    insert.targets ≠ [] ∧ insert.targets.length = insert.expressions.length ∧
    (insert.targets.map lower).Nodup ∧
    (options.stamped = true → ∃ staged, insert.targets = staged ++ [timestampColumn] ∧
      timestampColumn ∉ staged.map lower) ∧
    (options.stamped = false → timestampColumn ∉ insert.targets.map lower) ∧
    (staging.name.dataset = destination.name.dataset ↔
      ∃ columns, Provides staging before (insert.target.sibling insert.source) columns) ∧
    (∀ columns, Provides staging before (insert.target.sibling insert.source) columns →
      ∀ expression ∈ insert.expressions, ∀ name ∈ expression.names, name ∈ columns) ∧
    ∀ keeping ∈ exchanges, ∀ copy, keeping.statement? = some (.createKeyedCopy copy) →
      ∀ key ∈ copy.keys, staging.columns.contains key = true := by
  have hmem : writing ∈ exchanges := by simp [hsplit]
  have hbefore : ∀ exchange ∈ before, exchange ∈ exchanges := fun exchange h => by simp [hsplit, h]
  have hfits := fits_writes (follows_finish _ _ _ _ _ hrun).1
  have hinsert := (hfits _ hmem).writes _ hwrites
  subst hinsert
  refine ⟨?_, ?_, nodup_targets _ _ _ _, fun hstamped => ?_, fun hstamped => ?_,
    ⟨fun hdataset => ?_, ?_⟩, fun columns hprovides expression hexpression name hname => ?_,
    fun keeping hkeeping copy hsent key hkey => ?_⟩
  · obtain ⟨name, hname⟩ := hcolumn
    rw [targets_insertion]
    exact List.ne_nil_of_mem (List.mem_append_left _ (mem_stagedColumns.mpr hname))
  · rw [StagedInsert.targets_eq, StagedInsert.expressions_eq, List.length_map, List.length_map]
  · rw [targets_insertion, hstamped]
    exact ⟨_, rfl, timestampColumn_notMem staging⟩
  · rw [targets_insertion, hstamped]
    simpa using timestampColumn_notMem staging
  · have hbeside : destination.name.sibling (readName staging destination) =
        staging.name.sibling (readName staging destination) := by
      rw [TableName.sibling, TableName.sibling, hdataset]
    obtain ⟨columns, hprovides⟩ := provides_read hrun hsplit hwrites
    exact ⟨columns, hbeside.symm ▸ hprovides⟩
  · rintro ⟨columns, hprovides⟩
    exact (of_provides hrun hbefore hprovides).1.symm
  · exact (of_provides hrun hbefore hprovides).2 name (mem_stagedColumns_of_names hexpression hname)
  · rw [(hfits _ hkeeping).keeps _ hsent] at hkey
    exact (List.mem_filter.mp hkey).2

/-- A table of two columns and the time, whose key is the first of them. -/
def datedTable (dataset table : String) : TableDefinition where
  name := ⟨dataset, table⟩
  columns := ⟨[⟨"a", "INT64", none, .flag true, none, none⟩,
    ⟨"b", "STRING", none, .flag true, none, none⟩,
    ⟨"_Timestamp", "TIMESTAMP", none, .flag true, none, none⟩], by decide⟩
  primaryKeys := ["A"]
  temporary := false
  rows := none
  bytes := none
  keys_known := by decide

/-- Writing such a table from one in a dataset, with the time of the import and a column whose empty
texts become null. -/
def datedFinish (dataset : String) : Action ImportResult :=
  finish ⟨"project", false, none⟩ .replace (datedTable dataset "stg") (datedTable "w" "dst")
    { stamped := true, emptyToNull := ["B"] }

/-- The exchanges of this where all jobs are done. -/
def datedExchanges (dataset : String) : List Exchange :=
  (datedFinish dataset).against Session.plain
    (Script.obliging fun _ => .ok (ReflectedTable.ofNames ["a", "b"] ["a"]))

/-- Beside its destination a staging table is followed through a table of keys. The insertion lists
the time column once and reads the two columns that the table of keys has. -/
theorem insertion_agrees_dated : ∃ before writing behind insert,
    datedExchanges "w" = before ++ writing :: behind ∧ writing.writes? = some insert ∧
    (∃ name ∈ (datedTable "w" "stg").columnNames, lower name ≠ timestampColumn) ∧
    insert.targets = ["a", "b", "_timestamp"] ∧ (insert.targets.map lower).Nodup ∧
    insert.targets.length = insert.expressions.length ∧
    ∃ columns, Provides (datedTable "w" "stg") before ⟨"w", "stg_dedup"⟩ columns ∧
      ∀ expression ∈ insert.expressions, ∀ name ∈ expression.names, name ∈ columns := by
  obtain ⟨outcome, after, hrun⟩ := runs_against (datedFinish "w") Session.plain
    (Script.obliging fun _ => .ok (ReflectedTable.ofNames ["a", "b"] ["a"]))
  obtain ⟨before, writing, behind, insert, hsplit, hwrites, htargets, hsource⟩ :
      ∃ before writing behind insert, datedExchanges "w" = before ++ writing :: behind ∧
        writing.writes? = some insert ∧ insert.targets = ["a", "b", "_timestamp"] ∧
        insert.target.sibling insert.source = ⟨"w", "stg_dedup"⟩ :=
    ⟨[_], _, _, _, rfl, rfl, rfl, rfl⟩
  have hcolumn : ∃ name ∈ (datedTable "w" "stg").columnNames, lower name ≠ timestampColumn :=
    ⟨"a", by decide, by decide⟩
  obtain ⟨-, hlength, hnodup, -, -, hthere, hreads, -⟩ :=
    insertion_agrees hrun hsplit hwrites hcolumn
  obtain ⟨columns, hprovides⟩ := hthere.mp rfl
  have hnames := hreads columns hprovides
  rw [hsource] at hprovides
  exact ⟨before, writing, behind, insert, hsplit, hwrites, hcolumn, htargets, hnodup, hlength,
    columns, hprovides, hnames⟩

/-- A staging table in another dataset is not found. The table of keys is made beside the staging
table, and the insertion looks for it beside the destination. -/
theorem insertion_reads_elsewhere : ∃ before writing behind insert,
    datedExchanges "x" = before ++ writing :: behind ∧ writing.writes? = some insert ∧
    (∃ name ∈ (datedTable "x" "stg").columnNames, lower name ≠ timestampColumn) ∧
    insert.expressions.map SqlText.names = [["a"], ["b"], []] ∧
    insert.target.sibling insert.source = ⟨"w", "stg_dedup"⟩ ∧
    ∀ columns, ¬ Provides (datedTable "x" "stg") before ⟨"w", "stg_dedup"⟩ columns := by
  obtain ⟨outcome, after, hrun⟩ := runs_against (datedFinish "x") Session.plain
    (Script.obliging fun _ => .ok (ReflectedTable.ofNames ["a", "b"] ["a"]))
  obtain ⟨before, writing, behind, insert, hsplit, hwrites, hnames, hsource⟩ :
      ∃ before writing behind insert, datedExchanges "x" = before ++ writing :: behind ∧
        writing.writes? = some insert ∧
        insert.expressions.map SqlText.names = [["a"], ["b"], []] ∧
        insert.target.sibling insert.source = ⟨"w", "stg_dedup"⟩ :=
    ⟨[_], _, _, _, rfl, rfl, rfl, rfl⟩
  refine ⟨before, writing, behind, insert, hsplit, hwrites, ⟨"a", by decide, by decide⟩, hnames,
    hsource, fun columns hprovides => ?_⟩
  have hmem : ∀ exchange ∈ before, exchange ∈ datedExchanges "x" := by
    intro exchange hexchange
    rw [hsplit]
    exact List.mem_append_left _ hexchange
  exact absurd (of_provides hrun hmem hprovides).1 (by decide)

end Writing

end WarehouseImport
