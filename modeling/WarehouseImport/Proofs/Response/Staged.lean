import WarehouseImport.Proofs.Definitions
import WarehouseImport.Proofs.Run.FromTable
import WarehouseImport.Proofs.Run.Tally

/-!
# What an import of rows counts

The rows of an import are counted once, where its staging table is filled: those that the insertion
affected, or those that are counted in a staging table that was made as a copy. Writing the
destination counts nothing more; it only sets the columns, which are the staged ones without the
time column. Rows that go straight into the destination are not counted.
-/

namespace WarehouseImport

open WarehouseImport.Action

namespace Filling

variable {warehouse : Warehouse} {source : Source} {options : TransferOptions}
  {session after : Session} {exchanges : List Exchange} {value : Unit}

/-- Rows that are inserted into a table are counted as the insertion affected them. -/
theorem runs_insert_ok {target : TableLabel} {columns : List String}
    (hsends : warehouse.dryRun = false) (hbegun : session.progress.rows = .int 0)
    (h : Runs (insert warehouse source target columns options) session exchanges (.ok value)
      after) :
    ∃ exchange select result, exchanges = [exchange] ∧ source.mappedTo columns = .ok select ∧
      exchange.Brings (.insertMapped target.tableName select (options.typing == .text)) result ∧
      after.progress.rows = .int (result.affected.getD 0) := by
  rcases runs_ofExcept_bind.mp h with ⟨failure, -, -, hnever, -⟩ | ⟨select, hselect, h₁⟩
  · cases hnever
  rcases runs_ofExcept_bind.mp h₁ with ⟨failure, -, -, hnever, -⟩ | ⟨statement, hstatement, h₂⟩
  · cases hnever
  obtain rfl := eq_of_insertion hstatement
  obtain ⟨_, rows, inserted, _, rfl, htimed, h₃⟩ := runs_bind_ok h₂
  obtain ⟨_, _, -, -, hexecute⟩ := (around_timed _ _).runs_ok htimed
  obtain ⟨exchange, result, rfl, hbrings, rfl⟩ := Warehouse.runs_execute_ok hsends hexecute
  have hleft := (Warehouse.aside_execute _ _ _).uncounted.timed _ htimed
  have hinserted : inserted.progress.rows = .int 0 := (congrArg Prod.fst hleft).trans hbegun
  obtain ⟨_, ⟨⟩, added, _, rfl, hadds, hsets⟩ := runs_bind_ok h₃
  obtain ⟨rfl, total, htotal, hadded⟩ := runs_addRows hadds
  obtain ⟨rfl, hset⟩ := runs_setColumns hsets
  rw [hinserted, addCounts_zero] at htotal
  obtain rfl := Except.ok.inj htotal
  have hrows : after.progress.rows = .int (result.affected.getD 0) :=
    (congrArg Prod.fst hset).trans (congrArg Prod.fst hadded)
  exact ⟨exchange, select, result, rfl, hselect, hbrings, hrows⟩

/-- Rows that are copied with their table are counted in the copy, onto no rows. -/
theorem runs_copy_ok {staging : TableDefinition} (hsends : warehouse.dryRun = false)
    (hbegun : session.progress.rows = .int 0)
    (h : Runs (copy warehouse source staging) session exchanges (.ok value) after) :
    ∃ exchange name columns keys result counting count, exchanges = exchange :: counting ∧
      source = .table name columns keys ∧
      exchange.Brings (.copyTable staging.name name) result ∧
      Warehouse.Counted staging.name counting count ∧
      addCounts (.int 0) count = .ok after.progress.rows := by
  cases source with
  | query sql bindings columns keys => cases (runs_throw.mp h).2.1
  | mapped select => cases (runs_throw.mp h).2.1
  | table name columns keys =>
    obtain ⟨_, rows, copied, _, rfl, htimed, h₁⟩ := runs_bind_ok h
    obtain ⟨_, _, -, -, hexecute⟩ := (around_timed _ _).runs_ok htimed
    obtain ⟨exchange, result, rfl, hbrings, rfl⟩ := Warehouse.runs_execute_ok hsends hexecute
    have hleft := (Warehouse.aside_run _ _).uncounted.timed _ htimed
    obtain ⟨counting, count, counted, _, rfl, hcounts, h₂⟩ := runs_bind_ok h₁
    have hcounted : counted.progress.rows = .int 0 := by
      rw [Warehouse.aside_rowCount _ _ hcounts]
      exact (congrArg Prod.fst hleft).trans hbegun
    obtain ⟨_, ⟨⟩, added, _, rfl, hadds, hsets⟩ := runs_bind_ok h₂
    obtain ⟨rfl, total, htotal, hadded⟩ := runs_addRows hadds
    obtain ⟨rfl, hset⟩ := runs_setColumns hsets
    have hrows : after.progress.rows = total :=
      (congrArg Prod.fst hset).trans (congrArg Prod.fst hadded)
    rw [hcounted, ← hrows] at htotal
    exact ⟨exchange, name, columns, keys, result, counting, count, by simp, rfl, hbrings,
      Warehouse.runs_rowCount_ok hcounts, htotal⟩

end Filling

namespace Writing

variable {warehouse : Warehouse} {mode : WriteMode} {staging destination : TableDefinition}
  {options : TransferOptions}

/-- The statement that writes the destination counts nothing. -/
theorem uncounted_writeFrom (source : String) :
    Uncounted (writeFrom warehouse mode staging destination options source) := by
  refine (Uncounted.timed ?_ _).bind fun _ => (aside_pure _).uncounted
  exact ((aside_ofExcept _).bind fun _ => Warehouse.aside_run _ _).uncounted

/-- Nor does the writing with a table of keys around it. -/
theorem uncounted_write : Uncounted (write warehouse mode staging destination options) := by
  unfold write
  split
  · exact uncounted_writeFrom _
  · refine Uncounted.bind ?_ fun kept => ?_
    · refine (Uncounted.timed ?_ _).bind fun _ => (aside_pure _).uncounted
      exact ((aside_ofExcept _).bind fun _ => Warehouse.aside_run _ _).uncounted
    · refine (uncounted_writeFrom _).afterwards ?_
      exact ((Warehouse.aside_drop _ _ _ _).bind fun _ => aside_pure _).uncounted

/-- The result of an import has the rows that were counted before the destination was written, and
the staged columns. -/
theorem runs_finish_ok {session after : Session} {exchanges : List Exchange}
    {result : ImportResult}
    (h : Runs (finish warehouse mode staging destination options) session exchanges (.ok result)
      after) :
    result.rows = session.progress.rows ∧ result.columns = stagedColumns staging := by
  rcases runs_ofExcept_bind.mp h with ⟨failure, -, -, hnever, -⟩ | ⟨⟨⟩, -, h₁⟩
  · cases hnever
  obtain ⟨_, ⟨⟩, written, _, rfl, hwrite, h₂⟩ := runs_bind_ok h₁
  obtain ⟨_, ⟨⟩, ended, _, rfl, hsets, h₃⟩ := runs_bind_ok h₂
  obtain ⟨-, hset⟩ := runs_setColumns hsets
  cases h₃
  have hrows : written.progress.rows = session.progress.rows :=
    congrArg Prod.fst (uncounted_write hwrite)
  exact ⟨(congrArg Prod.fst hset).trans hrows, congrArg Prod.snd hset⟩

end Writing

namespace FromTable

variable {warehouse : Warehouse} {context : SourceContext}
  {staging destination : TableDefinition} {options : TransferOptions} {session after : Session}
  {exchanges : List Exchange} {result : ImportResult}

/-- How a staging table gets its rows, and their number: they are inserted into a new table and
counted as the insertion affected them, or the table is made as a copy and they are counted there,
where a count that is not given counts nothing. -/
inductive Staged (warehouse : Warehouse) (context : SourceContext) (staging : TableDefinition)
    (options : TransferOptions) : List Exchange → Json → Prop where
  | inserted {created inserted : Exchange} {select : MappedSelect} {result : JobResult}
      (hcopy : canCopy context staging = false)
      (hcreated : created.statement? = some (.createTable staging.name staging.columns.columns
        staging.primaryKeys))
      (hselect : context.source.mappedTo staging.columnNames = .ok select)
      (hbrings : inserted.Brings (.insertMapped staging.name select (options.typing == .text))
        result) :
      Staged warehouse context staging options [created, inserted]
        (.int (result.affected.getD 0))
  | copied {copied : Exchange} {name : TableName} {columns keys : List String}
      {result : JobResult} {counting : List Exchange} {count rows : Json}
      (hcopy : canCopy context staging = true) (hsource : context.source = .table name columns keys)
      (hbrings : copied.Brings (.copyTable staging.name name) result)
      (hcounted : Warehouse.Counted staging.name counting count)
      (hrows : addCounts (.int 0) count = .ok rows) :
      Staged warehouse context staging options (copied :: counting) rows

/-- The staging table is filled and the destination written, and the rows of the result are those
of the staging table. -/
theorem runs_stageAndWrite_ok (hsends : warehouse.dryRun = false)
    (hbegun : session.progress.rows = .int 0)
    (h : Runs (stageAndWrite warehouse context staging destination options) session exchanges
      (.ok result) after) :
    ∃ filling writing, exchanges = filling ++ writing ∧
      Staged warehouse context staging options filling result.rows ∧
      (Writing.writes warehouse .replace staging destination options).Allows writing true ∧
      result.columns = Writing.stagedColumns staging := by
  unfold stageAndWrite at h
  split at h
  · next hcopy =>
    obtain ⟨filling, ⟨⟩, filled, writing, rfl, hcopied, hfinish⟩ := runs_bind_ok h
    obtain ⟨exchange, name, columns, keys, brought, counting, count, rfl, hsource, hbrings, hcounted,
      hcount⟩ := Filling.runs_copy_ok hsends hbegun hcopied
    obtain ⟨hrows, hcolumns⟩ := Writing.runs_finish_ok hfinish
    rw [← hrows] at hcount
    exact ⟨_, writing, rfl, .copied hcopy hsource hbrings hcounted hcount,
      (Writing.follows_finish _ _ _ _ _ hfinish).1, hcolumns⟩
  · next hcopy =>
    obtain ⟨creating, _, created, _, rfl, hcreates, h₁⟩ := runs_bind_ok h
    obtain ⟨inserting, ⟨⟩, filled, writing, rfl, hinserts, hfinish⟩ := runs_bind_ok h₁
    obtain ⟨creation, rfl, hcreation⟩ := Warehouse.runs_createTable_ok hsends hcreates
    have hcreated : created.progress.rows = .int 0 :=
      (congrArg Progress.rows (Warehouse.aside_createTable _ _ hcreates)).trans hbegun
    obtain ⟨exchange, select, brought, rfl, hselect, hbrings, hrows'⟩ :=
      Filling.runs_insert_ok hsends hcreated hinserts
    obtain ⟨hrows, hcolumns⟩ := Writing.runs_finish_ok hfinish
    rw [hrows, hrows']
    exact ⟨[creation, exchange], writing, rfl,
      .inserted (Bool.eq_false_iff.mpr hcopy) hcreation hselect hbrings,
      (Writing.follows_finish _ _ _ _ _ hfinish).1, hcolumns⟩

/-- An import through a staging table fills it, writes the destination and drops it, and its result
has the rows and columns of the staging table. -/
theorem runs_importStaged_ok {beginning : String} {command : TableCommand}
    (hsends : warehouse.dryRun = false)
    (h : Runs (importStaged warehouse beginning command context destination options) session
      exchanges (.ok result) after) :
    ∃ staging filling writing dropping, exchanges = filling ++ (writing ++ dropping) ∧
      Stages command context destination (session.drawName beginning).1 staging ∧
      Staged warehouse context staging options filling result.rows ∧
      (Writing.writes warehouse .replace staging destination options).Allows writing true ∧
      (warehouse.sends (.drop .table staging.name false)).attempt.Allows dropping true ∧
      result.columns = Writing.stagedColumns staging := by
  rcases runs_ofExcept_bind.mp h with ⟨failure, -, -, hnever, -⟩ | ⟨layout, hlayout, h₁⟩
  · cases hnever
  obtain ⟨_, staging, named, _, rfl, hdefines, h₂⟩ := runs_bind_ok h₁
  obtain ⟨rfl, hdefined⟩ := Staging.Layout.runs_defineNew hdefines
  obtain ⟨_, ⟨⟩, begun, _, rfl, hbegins, h₃⟩ := runs_bind_ok h₂
  cases hbegins
  obtain ⟨_, given, staged, dropping, cleaned, rfl, hstages, hdrops, hended⟩ :=
    runs_afterwards.mp h₃
  have hdropped := (Staging.follows_remove _ _ hdrops).1
  cases cleaned with
  | error failure => cases hended
  | ok value =>
    obtain rfl : .ok result = given := hended
    obtain ⟨filling, writing, rfl, hfilled, hwritten, hcolumns⟩ :=
      runs_stageAndWrite_ok hsends rfl hstages
    exact ⟨staging, filling, writing, dropping, by simp, ⟨layout, hlayout, hdefined.symm⟩, hfilled,
      hwritten, hdropped, hcolumns⟩

/-- Rows that go straight into the destination are not counted. -/
theorem runs_insertDirectly_ok {expected : ColumnCollection} (hsends : warehouse.dryRun = false)
    (h : Runs (insertDirectly warehouse context destination expected options) session exchanges
      (.ok result) after) :
    ∃ exchange select brought, exchanges = [exchange] ∧
      context.source.mappedTo expected.names = .ok select ∧
      exchange.Brings (.insertMapped destination.name select (options.typing == .text)) brought ∧
      result.rows = .int 0 ∧ result.columns = [] := by
  obtain ⟨_, ⟨⟩, begun, _, rfl, hbegins, h₁⟩ := runs_bind_ok h
  cases hbegins
  obtain ⟨_, ⟨⟩, inserted, _, rfl, hinserts, hlast⟩ := runs_bind_ok h₁
  obtain ⟨exchange, select, brought, rfl, hselect, hbrings, -⟩ :=
    Filling.runs_insert_ok hsends rfl hinserts
  cases hlast
  exact ⟨exchange, select, brought, rfl, hselect, hbrings, rfl, rfl⟩

end FromTable

end WarehouseImport
