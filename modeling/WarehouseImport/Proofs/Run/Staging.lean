import WarehouseImport.Import.FromFile
import WarehouseImport.Import.FromTable
import WarehouseImport.Proofs.Run.Warehouse

/-!
# Traces of staged imports

What the parts of an import through a staging table send: how the staging table gets its rows, how
one row for each key is kept, how the destination is written, and what is dropped behind. Each trace
names the statement or load of the part in full, so the statements of a whole import are read off
the traces.
-/

namespace WarehouseImport

open WarehouseImport.Action

namespace Filling

/-- The insertion of a source's rows into columns of a table. -/
def inserts (warehouse : Warehouse) (source : Source) (target : TableName) (columns : List String)
    (options : TransferOptions) : Trace :=
  (Trace.once fun exchange => ∃ select, source.mappedTo columns = .ok select ∧
    exchange.statement? = some (.insertMapped target select (options.typing == .text))).skippedIf
    warehouse.dryRun

/-- The copy of a source that is a table, whose rows are then counted. -/
def copies (warehouse : Warehouse) (source : Source) (staging : TableName) : Trace :=
  ((Trace.once fun exchange => ∃ name columns keys, source = .table name columns keys ∧
    exchange.statement? = some (.copyTable staging name)).skippedIf warehouse.dryRun).andThen
    (Warehouse.counts staging)

/-- The text of a manifest. -/
def opens : Trace :=
  .either .silent
    (.once fun exchange => ∃ uri token answer, exchange = ⟨.openFile uri token, answer⟩)

/-- The statement that inserts a selection into a table with a name. -/
theorem eq_of_insertion {label : TableLabel} {select : MappedSelect} {cast : Bool}
    {statement : Statement}
    (h : (do Statement.mappedInsert (← label.check) select cast) = .ok statement) :
    statement = .insertMapped label.tableName select cast := by
  obtain ⟨name, hcheck, hmade⟩ := bind_eq_ok.mp h
  unfold Statement.mappedInsert at hmade
  split at hmade
  · cases hmade
  · rw [← Except.ok.inj hmade, TableLabel.eq_of_check hcheck]

/-- Rows of a source are inserted by one statement. -/
theorem follows_insert (warehouse : Warehouse) (source : Source) (target : TableName)
    (columns : List String) (options : TransferOptions) :
    Follows (insert warehouse source target.label columns options)
      (inserts warehouse source target columns options) := by
  refine follows_ofExcept_bind fun select hselect => ?_
  refine follows_ofExcept_bind fun statement hstatement => ?_
  refine Follows.bind_quiet ?_ fun rows => (quiet_addRows _).bind fun _ => quiet_setColumns _
  refine Follows.timed ?_ _
  have hsent : statement = .insertMapped target select (options.typing == .text) :=
    eq_of_insertion hstatement
  refine (Warehouse.follows_execute _ _ _).widen fun exchange hkind => ?_
  exact ⟨select, hselect, hkind.trans (congrArg some hsent)⟩

/-- A staging table that is a copy takes the statement that copies. -/
theorem follows_copy (warehouse : Warehouse) (source : Source) (staging : TableDefinition) :
    Follows (copy warehouse source staging) (copies warehouse source staging.name) := by
  cases source with
  | table name columns keys =>
    refine Follows.bind (Follows.timed ?_ _) fun _ => ?_
    · exact (Warehouse.follows_run _ _).widen fun _ hkind => ⟨name, columns, keys, rfl, hkind⟩
    · exact (Warehouse.follows_rowCount _ _).bind_quiet fun _ =>
        (quiet_addRows _).bind fun _ => quiet_setColumns _
  | query sql bindings columns keys => exact follows_throw _
  | mapped select => exact follows_throw _

/-- The addresses of files take a manifest at most. -/
theorem follows_addresses (path : FilePath) (csv : CsvOptions) (token : Option Json) :
    Follows (addresses path csv token) opens := by
  unfold addresses
  split
  · intro session exchanges outcome after h
    obtain ⟨answer, rest, rfl, h'⟩ := runs_ask_bind.mp h
    cases answer with
    | some text =>
      obtain ⟨rfl, rfl, rfl⟩ := runs_ofExcept.mp h'
      exact ⟨.inr (.inr ⟨_, rfl, ⟨_, _, _, rfl⟩, fun _ => ⟨text, rfl⟩⟩), rfl⟩
    | none =>
      obtain ⟨rfl, rfl, rfl⟩ := runs_throw.mp h'
      exact ⟨.inr (.inr ⟨_, rfl, ⟨_, _, _, rfl⟩, by simp⟩), rfl⟩
  · exact (quiet_pure _).follows.mono .inl

/-- Files are loaded into the staging table by one call. -/
theorem follows_load (warehouse : Warehouse) (path : FilePath) (csv : CsvOptions)
    (staging : TableDefinition) (options : TransferOptions) (token : Option Json) :
    Follows (load warehouse path csv staging options token)
      (opens.andThen (warehouse.loads staging.name)) := by
  refine (follows_addresses path csv token).bind fun found => ?_
  refine Follows.bind_quiet (Follows.timed ?_ _) fun _ =>
    (quiet_addRows _).bind fun _ => quiet_setColumns _
  exact (quiet_ofExcept _).bind_follows fun uris => Warehouse.follows_load warehouse _

end Filling

namespace Writing

/-- The statement that writes the destination from a table beside it. -/
def writesFrom (warehouse : Warehouse) (mode : WriteMode) (insert : StagedInsert) : Trace :=
  (Trace.once fun exchange => ∃ written, statement mode insert = .ok written ∧
    exchange.statement? = some written).skippedIf warehouse.dryRun

/-- The statement that writes the destination from the staging table; or, if there are keys, the
table of keys, the statement that writes from it, and its drop. -/
def writes (warehouse : Warehouse) (mode : WriteMode) (staging destination : TableDefinition)
    (options : TransferOptions) : Trace :=
  if (keys staging destination).isEmpty then
    writesFrom warehouse mode (insertion staging destination options staging.name.table)
  else
    (warehouse.sends (.createKeyedCopy (keyedCopy staging destination))).andThen
      ((writesFrom warehouse mode (insertion staging destination options
          (keyedCopy staging destination).target.table)).closedBy
        (warehouse.sends (.drop .table (keyedCopy staging destination).target false)).attempt)

/-- The destination is written by one statement. -/
theorem follows_writeFrom (warehouse : Warehouse) (mode : WriteMode)
    (staging destination : TableDefinition) (options : TransferOptions) (source : String) :
    Follows (writeFrom warehouse mode staging destination options source)
      (writesFrom warehouse mode (insertion staging destination options source)) := by
  refine Follows.bind_quiet (Follows.timed ?_ _) fun _ => quiet_pure _
  refine follows_ofExcept_bind fun written hwritten => ?_
  exact (Warehouse.follows_run _ _).widen fun _ hkind => ⟨written, hwritten, hkind⟩

/-- The table of keys is made by one statement. -/
theorem follows_deduplicate (warehouse : Warehouse) (staging destination : TableDefinition) :
    Follows (deduplicate warehouse staging destination)
      (warehouse.sends (.createKeyedCopy (keyedCopy staging destination))) := by
  refine Follows.bind_quiet (Follows.timed ?_ _) fun _ => quiet_pure _
  refine follows_ofExcept_bind fun statement hstatement => ?_
  unfold Statement.keyedCopy at hstatement
  split at hstatement
  · cases hstatement
  · cases hstatement
    exact Warehouse.follows_run _ _

/-- The name of the table of keys is settled beforehand. -/
theorem returns_deduplicate (warehouse : Warehouse) (staging destination : TableDefinition) :
    Returns (deduplicate warehouse staging destination)
      (· = (keyedCopy staging destination).target) :=
  returns_bind fun _ => returns_pure rfl

/-- Staged rows reach the destination in one statement, from the table of keys if there are any. -/
theorem follows_write (warehouse : Warehouse) (mode : WriteMode)
    (staging destination : TableDefinition) (options : TransferOptions) :
    Follows (write warehouse mode staging destination options)
      (writes warehouse mode staging destination options) := by
  unfold write writes
  split
  · exact follows_writeFrom _ _ _ _ _ _
  · refine (follows_deduplicate _ _ _).bind_of (returns_deduplicate _ _ _) ?_
    rintro _ rfl
    refine (follows_writeFrom _ _ _ _ _ _).afterwards ?_
    exact (Warehouse.follows_drop _ _ _ _).bind_quiet fun _ => quiet_pure _

/-- The result of the import is behind the statement that writes. -/
theorem follows_finish (warehouse : Warehouse) (mode : WriteMode)
    (staging destination : TableDefinition) (options : TransferOptions) :
    Follows (finish warehouse mode staging destination options)
      (writes warehouse mode staging destination options) := by
  refine (quiet_ofExcept _).bind_follows fun _ => (follows_write _ _ _ _ _).bind_quiet fun _ => ?_
  exact (quiet_setColumns _).bind fun _ => quiet_progress.bind fun _ => quiet_pure _

end Writing

namespace Staging

/-- A staging table is dropped by one statement, whatever comes of it. -/
theorem follows_remove (warehouse : Warehouse) (staging : TableName) :
    Follows (remove warehouse staging) (warehouse.sends (.drop .table staging false)).attempt := by
  refine (Follows.tryCatch (Warehouse.follows_drop _ _ _ _).map fun _ => quiet_log _ _ _).mono ?_
  rintro _ _ ⟨_, hallows⟩
  exact hallows

/-- A new staging table takes the next name and no call. -/
theorem Layout.runs_defineNew {layout : Layout} {destination : TableDefinition}
    {beginning : String} {session after : Session} {exchanges : List Exchange}
    {outcome : Except Failure TableDefinition}
    (h : Runs (layout.defineNew destination beginning) session exchanges outcome after) :
    exchanges = [] ∧ outcome = layout.define destination (session.drawName beginning).1 := by
  have hrun : Runs (do
      let before ← get
      set (before.drawName beginning).2
      Action.ofExcept (layout.define destination (before.drawName beginning).1)) session exchanges
      outcome after := h
  rcases runs_bind.mp hrun with ⟨failure, rfl, hf⟩ | ⟨first, before, m, last, rfl, hg, h'⟩
  · cases (runs_get.mp hf).2.1
  obtain ⟨rfl, hbefore, rfl⟩ := runs_get.mp hg
  obtain rfl := Except.ok.inj hbefore
  rcases runs_bind.mp h' with ⟨failure, rfl, hf⟩ | ⟨first, ⟨⟩, m, last, rfl, hs, h''⟩
  · cases (runs_set.mp hf).2.1
  obtain ⟨rfl, -, rfl⟩ := runs_set.mp hs
  obtain ⟨rfl, rfl, -⟩ := runs_ofExcept.mp h''
  exact ⟨rfl, rfl⟩

end Staging

end WarehouseImport
