import WarehouseImport.Import.FromFile
import WarehouseImport.Import.FromTable
import WarehouseImport.Proofs.Run.OpenLog

/-!
# Imports with an open log file

What an import does once its log file takes text, from single statements up to the filling and the
writing of a destination. Any of it can fail, and all of it leaves the log file open.
-/

namespace WarehouseImport

open WarehouseImport.Action

namespace Warehouse

/-- A statement that is written to the log leaves the log file open. -/
theorem steady_logStatement (statement : Statement) (parameters : Parameters) (detail : Detail) :
    Steady (logStatement statement parameters detail) := by
  refine (sure_log _ _ _).steady.bind fun _ => ?_
  split
  · split
    · exact (sure_log _ _ _).steady
    · exact steady_throw _
  · exact (sure_pure _).steady

/-- A job that is followed to its end leaves the log file open. -/
theorem steady_finish (job : Job) : Steady (finish job) :=
  (sure_log _ _ _).steady.bind fun _ => (sure_pass _).steady.bind fun _ => steady_settle _

/-- A statement that is sent leaves the log file open. -/
theorem steady_runStatement (warehouse : Warehouse) (statement : Statement)
    (parameters : Parameters) : Steady (warehouse.runStatement statement parameters) := by
  refine (steady_ofExcept _).bind fun bindings => (sure_ask _).steady.bind fun answer => ?_
  refine (steady_settle _).bind fun job => (steady_finish job).bind fun result => ?_
  split
  · exact (sure_pure _).steady
  · exact steady_throw _

/-- A statement that is run leaves the log file open. -/
theorem steady_execute (warehouse : Warehouse) (statement : Statement) (parameters : Parameters) :
    Steady (warehouse.execute statement parameters) := by
  refine (steady_logStatement _ _ _).bind fun _ => ?_
  split
  · exact (sure_pure _).steady
  · exact (steady_runStatement _ _ _).bind fun _ => (sure_pure _).steady

/-- A statement without parameters likewise. -/
theorem steady_run (warehouse : Warehouse) (statement : Statement) :
    Steady (warehouse.run statement) := steady_execute _ _ _

/-- The first row of a query leaves the log file open. -/
theorem steady_firstRow (warehouse : Warehouse) (statement : Statement) (parameters : Parameters)
    (timed : Bool) : Steady (warehouse.firstRow statement parameters timed) := by
  refine (steady_logStatement _ _ _).bind fun _ => (steady_runStatement _ _ _).bind fun _ => ?_
  split
  · exact (sure_log _ _ _).steady.bind fun _ => (sure_pure _).steady
  · exact (sure_pure _).steady

/-- The creation of a table leaves the log file open. -/
theorem steady_createTable (warehouse : Warehouse) (definition : TableDefinition) :
    Steady (warehouse.createTable definition) :=
  (steady_ofExcept _).bind fun _ => steady_run _ _

/-- A drop leaves the log file open. -/
theorem steady_drop (warehouse : Warehouse) (kind : ObjectKind) (target : TableName)
    (mayMiss : Bool) : Steady (warehouse.drop kind target mayMiss) := by
  refine (steady_run _ _).tryCatch fun failure => ?_
  split
  · split
    · exact (sure_log _ _ _).steady.bind fun _ => (sure_pure _).steady
    · exact steady_throw _
  · exact steady_throw _

/-- A description leaves the log file open. -/
theorem steady_reflect (table : TableName) : Steady (reflect table) := by
  refine (sure_ask _).steady.bind fun answer => ?_
  split
  · exact (sure_pure _).steady
  · split
    · exact (sure_pure _).steady
    · exact steady_throw _
  · exact steady_throw _

/-- A definition leaves the log file open. -/
theorem steady_definition (table : TableName) : Steady (Warehouse.definition table) := by
  refine (steady_reflect table).bind fun found => ?_
  split
  · exact (sure_pure _).steady
  · exact (steady_ofExcept _).bind fun _ => (steady_ofExcept _).map

/-- The number of rows leaves the log file open. -/
theorem steady_rowCount (warehouse : Warehouse) (table : TableName) :
    Steady (warehouse.rowCount table) := by
  refine (steady_reflect table).bind fun found => ?_
  split
  · exact steady_throw _
  · split
    · exact (sure_log _ _ _).steady.bind fun _ => (sure_pure _).steady
    · refine (steady_firstRow _ _ _ _).bind fun row => ?_
      split
      · exact (sure_pure _).steady
      · exact (sure_pure _).steady

/-- A load leaves the log file open. -/
theorem steady_load (warehouse : Warehouse) (request : LoadRequest) :
    Steady (warehouse.load request) := by
  unfold load
  by_cases hempty : request.uris.isEmpty
  · rw [if_pos hempty]
    exact steady_throw_bind _ _
  rw [if_neg hempty]
  refine (sure_log _ _ _).steady.bind fun _ => ?_
  split
  · exact (sure_pure _).steady
  · refine (sure_ask _).steady.bind fun answer => (steady_settle _).bind fun job => ?_
    exact ((steady_finish job).tryCatch fun _ => steady_throw _).bind fun _ => (sure_pure _).steady

/-- A look at a table leaves the log file open. -/
theorem steady_lookUp (label : TableLabel) : Steady (lookUp label) :=
  (steady_ofExcept _).bind fun _ => steady_definition _

/-- Dropping an object leaves the log file open. -/
theorem steady_dropObject (warehouse : Warehouse) (target : TableName) :
    Steady (warehouse.dropObject target) := by
  refine (steady_reflect target).bind fun found => ?_
  split
  · exact (sure_pure _).steady
  · exact steady_drop _ _ _ _

end Warehouse

/-- Finding a source leaves the log file open. -/
theorem SourceContext.steady_resolve (request : SourceRequest) : Steady (resolve request) :=
  (Warehouse.steady_lookUp _).bind fun _ => steady_ofExcept _

namespace Destination

/-- A create mode leaves the log file open. -/
theorem steady_applyCreateMode (warehouse : Warehouse) (label : TableLabel)
    (options : ImportOptions) (existing : Option TableDefinition) :
    Steady (applyCreateMode warehouse label options existing) := by
  unfold applyCreateMode
  split
  · exact (sure_pure _).steady
  · exact (sure_pure _).steady
  · split
    · exact (steady_ofExcept _).bind fun _ => (Warehouse.steady_dropObject _ _).bind fun _ =>
        (sure_pure _).steady
    · exact steady_throw _

/-- A destination is settled with the log file left open. -/
theorem steady_resolve (warehouse : Warehouse) (label : TableLabel) (options : ImportOptions)
    (expected : ColumnCollection) (stamped : Bool) (existing : Option TableDefinition) :
    Steady (resolve warehouse label options expected stamped existing) := by
  unfold resolve
  split
  · exact (sure_pure _).steady
  · refine (steady_ofExcept _).bind fun definition => ?_
    split
    · exact (Warehouse.steady_createTable _ _).bind fun _ => (sure_pure _).steady
    · exact (sure_pure _).steady

end Destination

namespace Filling

/-- Inserted rows leave the log file open. -/
theorem steady_insert (warehouse : Warehouse) (source : Source) (target : TableLabel)
    (columns : List String) (options : TransferOptions) :
    Steady (insert warehouse source target columns options) :=
  (steady_ofExcept _).bind fun _ => (steady_ofExcept _).bind fun _ =>
    ((Warehouse.steady_execute _ _ _).timed _).bind fun _ => (steady_addRows _).bind fun _ =>
      (sure_setColumns _).steady

/-- A copied staging table leaves the log file open. -/
theorem steady_copy (warehouse : Warehouse) (source : Source) (staging : TableDefinition) :
    Steady (copy warehouse source staging) := by
  unfold copy
  split
  · exact ((Warehouse.steady_run _ _).timed _).bind fun _ =>
      (Warehouse.steady_rowCount _ _).bind fun _ => (steady_addRows _).bind fun _ =>
        (sure_setColumns _).steady
  · exact steady_throw _

/-- The addresses of files leave the log file open. -/
theorem steady_addresses (path : FilePath) (csv : CsvOptions) (token : Option Json) :
    Steady (addresses path csv token) := by
  unfold addresses
  split
  · refine (sure_ask _).steady.bind fun found => ?_
    split
    · exact steady_ofExcept _
    · exact steady_throw _
  · exact (sure_pure _).steady

/-- Loaded files leave the log file open. -/
theorem steady_load (warehouse : Warehouse) (path : FilePath) (csv : CsvOptions)
    (staging : TableDefinition) (options : TransferOptions) (token : Option Json) :
    Steady (load warehouse path csv staging options token) :=
  (steady_addresses _ _ _).bind fun _ =>
    (((steady_ofExcept _).bind fun _ => Warehouse.steady_load _ _).timed _).bind fun _ =>
      (steady_addRows _).bind fun _ => (sure_setColumns _).steady

end Filling

namespace Writing

/-- A written destination leaves the log file open. -/
theorem steady_writeFrom (warehouse : Warehouse) (mode : WriteMode)
    (staging destination : TableDefinition) (options : TransferOptions) (source : String) :
    Steady (writeFrom warehouse mode staging destination options source) :=
  (((steady_ofExcept _).bind fun _ => Warehouse.steady_run _ _).timed _).bind fun _ =>
    (sure_pure _).steady

/-- A destination that is written leaves the log file open, also with a table of keys. -/
theorem steady_write (warehouse : Warehouse) (mode : WriteMode)
    (staging destination : TableDefinition) (options : TransferOptions) :
    Steady (write warehouse mode staging destination options) := by
  unfold write
  split
  · exact steady_writeFrom _ _ _ _ _ _
  · refine Steady.bind ?_ fun kept => ?_
    · exact (((steady_ofExcept _).bind fun _ => Warehouse.steady_run _ _).timed _).bind fun _ =>
        (sure_pure _).steady
    · refine (steady_writeFrom _ _ _ _ _ _).afterwards ?_
      exact (Warehouse.steady_drop _ _ _ _).bind fun _ => (sure_pure _).steady

/-- What is left behind the writing is sure. -/
theorem sure_result (columns : List String) : Sure (do
    Action.setColumns columns
    return (← Action.progress).result) :=
  (sure_setColumns columns).bind fun _ => sure_progress.bind fun _ => sure_pure _

/-- A destination that is written from staged rows leaves the log file open. -/
theorem steady_finish (warehouse : Warehouse) (mode : WriteMode)
    (staging destination : TableDefinition) (options : TransferOptions) :
    Steady (finish warehouse mode staging destination options) :=
  (steady_ofExcept _).bind fun _ => (steady_write _ _ _ _ _).bind fun _ => (sure_result _).steady

end Writing

/-- A new staging table is defined with the log file left open. -/
theorem Staging.Layout.steady_defineNew (layout : Layout) (destination : TableDefinition)
    (beginning : String) : Steady (layout.defineNew destination beginning) :=
  (sure_drawName _).steady.bind fun _ => steady_ofExcept _

/-- Staged rows of a table leave the log file open. -/
theorem FromTable.steady_stageAndWrite (warehouse : Warehouse) (context : SourceContext)
    (staging destination : TableDefinition) (options : TransferOptions) :
    Steady (stageAndWrite warehouse context staging destination options) := by
  unfold stageAndWrite
  split
  · exact (Filling.steady_copy _ _ _).bind fun _ => Writing.steady_finish _ _ _ _ _
  · exact (Warehouse.steady_createTable _ _).bind fun _ =>
      (Filling.steady_insert _ _ _ _ _).bind fun _ => Writing.steady_finish _ _ _ _ _

/-- Staged rows of files leave the log file open. -/
theorem FromFile.steady_loadAndWrite (warehouse : Warehouse) (command : FileCommand)
    (mode : WriteMode) (staging destination : TableDefinition) (options : TransferOptions)
    (token : Option Json) :
    Steady (loadAndWrite warehouse command mode staging destination options token) :=
  (Warehouse.steady_createTable _ _).bind fun _ => (Filling.steady_load _ _ _ _ _ _).bind fun _ =>
    Writing.steady_finish _ _ _ _ _

end WarehouseImport
