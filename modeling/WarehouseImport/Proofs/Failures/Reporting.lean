import WarehouseImport.Proofs.Failures.Translation
import WarehouseImport.Proofs.Run.Handler

/-!
# How the copy phase reports its failure

An import from a table opens its log file, connects and makes its destination ready before any row
moves. Once rows move, nothing stands between the end of that phase and the end of the handler but
the name that a failure is given: a service error that ends the copy phase is what the handler ends
with, as its translation has it.
-/

namespace WarehouseImport

open WarehouseImport.Action

/-- Programs one after the other are grouped as one likes. -/
instance : LawfulMonad Script :=
  LawfulMonad.mk' Script (fun script => script.bind_done) (fun _ _ => rfl)
    (fun script f g => script.bind_assoc f g)

namespace FromTable

/-- What is known once the destination is ready for the rows of the source. -/
structure Ready where
  context : SourceContext
  destination : TableDefinition
  expected : ColumnCollection

/-- Makes the destination ready for the rows of the source. -/
def prepare (warehouse : Warehouse) (command : TableCommand) (features : List String) :
    Action Ready := do
  let options := TransferOptions.ofImport command.options features
  let label := command.destination.label
  Action.say (openingLine command)
  let context ← Action.step "resolveSource" false (SourceContext.resolve command.source.request)
  let expected ← Action.ofExcept
    (ColumnMapping.expected context.effective command.source.mappings)
  let found ← Warehouse.lookUp label
  let existing ← Destination.applyCreateMode warehouse label command.options found
  if existing.isNone || command.options.dedupType == .updateDuplicates then
    Action.ofExcept (Destination.checkKeys label command.options.dedupColumns
      ((existing.map TableDefinition.columns).getD expected))
  let destination ←
    Destination.resolve warehouse label command.options expected options.stamped existing
  let destination ← Action.ofExcept (keyed command.options destination)
  return ⟨context, destination, expected⟩

/-- Moves the rows of the source into a destination that is ready. -/
def copyRows (warehouse : Warehouse) (beginning : String) (command : TableCommand)
    (options : TransferOptions) (ready : Ready) : Action ImportResult :=
  if isDirect command options then
    insertDirectly warehouse ready.context ready.destination ready.expected options
  else importStaged warehouse beginning command ready.context ready.destination options

variable {warehouse : Warehouse} {beginning : String} {command : TableCommand}
  {features : List String} {session between after : Session} {opening copying : List Exchange}
  {ready : Ready} {failure : Failure}

/-- A full import makes its destination ready, moves rows and answers. -/
theorem run_eq (hfull : command.options.importType = .full) :
    run warehouse beginning command features = (do
      let ready ← prepare warehouse command features
      let result ← tryCatch (copyRows warehouse beginning command
          (TransferOptions.ofImport command.options features) ready)
        fun failure => throw (reportedAs failure)
      ImportResponse.build (← Action.ofExcept command.destination.label.check) result) := by
  simp only [run, perform, hfull, importRows, prepare, moveRows, bind_assoc]
  refine bind_congr fun _ => bind_congr fun context => bind_congr fun expected =>
    bind_congr fun found => bind_congr fun existing => ?_
  -- The keys are checked or not; what follows is grouped in the same way.
  split
  · simp only [bind_assoc, pure_bind, copyRows]
  · simp only [bind_assoc, pure_bind, copyRows]

/-- A full import whose rows cannot be moved ends with the failure of that, as it is reported. -/
theorem runs_of_copyRows (hfull : command.options.importType = .full)
    (hready : Runs (prepare warehouse command features) session opening (.ok ready) between)
    (hcopy : Runs (copyRows warehouse beginning command
      (TransferOptions.ofImport command.options features) ready) between copying (.error failure)
      after) :
    Runs (run warehouse beginning command features) session (opening ++ copying)
      (.error (reportedAs failure)) after := by
  rw [run_eq hfull]
  apply runs_bind.mpr
  right
  refine ⟨opening, ready, between, copying, rfl, hready, runs_bind.mpr (.inl ⟨_, rfl, ?_⟩)⟩
  exact runs_rethrow.mpr ⟨.error failure, rfl, hcopy⟩

end FromTable

namespace Handler

variable {config : Config} {credentials : Credentials} {command : TableCommand}
  {features : List String} {options : RuntimeOptions} {session after : Session}
  {exchanges : List Exchange} {outcome : Except Failure ImportResponse} {failure : Failure}

/-- The import of a table up to the end of its copy phase, which is kept. -/
def throughCopy (config : Config) (credentials : Credentials) (command : TableCommand)
    (features : List String) (options : RuntimeOptions) :
    Action (Except Failure ImportResult) := do
  tables.openLog config
  let warehouse ← Warehouse.connect credentials config options
  let ready ← FromTable.prepare warehouse command features
  tryCatch (Except.ok <$> FromTable.copyRows warehouse config.stagingNames command
      (TransferOptions.ofImport command.options features) ready)
    fun failure => pure (.error failure)

/-- The import of a table reaches its copy phase, and that ends with a failure. -/
def CopyFails (config : Config) (credentials : Credentials) (command : TableCommand)
    (features : List String) (options : RuntimeOptions) (session : Session)
    (exchanges : List Exchange) (failure : Failure) : Prop :=
  ∃ copied, Runs (throughCopy config credentials command features options) session exchanges
    (.ok (.error failure)) copied

/-- A handler whose copy phase ends with a failure ends with that failure, as it is reported. -/
theorem runs_of_copyFails (hfull : command.options.importType = .full)
    (h : CopyFails config credentials command features options session exchanges failure) :
    ∃ after, Runs (tables.run config credentials (.table command) features options) session
      exchanges (.error (FromTable.reportedAs failure)) after := by
  obtain ⟨copied, h⟩ := h
  obtain ⟨first, ⟨⟩, opened, _, rfl, hopen, h⟩ := runs_bind_ok h
  obtain ⟨second, warehouse, connected, _, rfl, hconnect, h⟩ := runs_bind_ok h
  obtain ⟨third, ready, between, last, rfl, hready, h⟩ := runs_bind_ok h
  obtain ⟨result, hresult, hcopy⟩ := runs_caught.mp h
  obtain rfl := Except.ok.inj hresult
  have hperform := FromTable.runs_of_copyRows hfull hready hcopy
  have hreport : Runs (tables.report config credentials (.table command) features options) opened
      (second ++ (third ++ last)) (.error (FromTable.reportedAs failure)) copied := by
    apply runs_bind.mpr
    right
    exact ⟨second, warehouse, connected, third ++ last, rfl, hconnect,
      runs_bind.mpr (.inl ⟨_, rfl, hperform⟩)⟩
  have hclose : Runs (modify Session.closeLog : Action Unit) copied [] (.ok ⟨⟩) copied.closeLog :=
    .done _
  refine ⟨copied.closeLog, runs_bind.mpr (.inr ⟨first, ⟨⟩, opened, _, rfl, hopen, ?_⟩)⟩
  exact runs_afterwards.mpr ⟨_, _, copied, [], .ok ⟨⟩, by simp, hreport, hclose, rfl⟩

/-- A service error that ends the copy phase of the import of a table is reported as one about
filters or about a value that is too long, if it is marked as one, and otherwise as it is, exactly
if its translation does not slip; if it does, the failure of the translation is reported. -/
theorem copy_failure_reported {e : ApiError} (hfull : command.options.importType = .full)
    (hcopy : CopyFails config credentials command features options session exchanges (.backend e))
    (hrun : Runs (tables.run config credentials (.table command) features options) session exchanges
      outcome after) :
    ∃ failure, outcome = .error failure ∧
      (e.Translates failure ↔ ∀ slip, ¬e.Slips slip) ∧ ∀ slip, e.Slips slip → failure = slip := by
  obtain ⟨ended, hreported⟩ := runs_of_copyFails hfull hcopy
  have hsame := Script.Runs.value_unique hrun hreported
  exact ⟨_, congrArg Prod.fst hsame, e.translates_iff, fun slip hslips => hslips.eq_reportedAs⟩

/-- A command that inserts the rows of one table into another. -/
def insertingImport : TableCommand where
  source := { dataset := "data", table := "sales" }
  destination := ⟨"data", "report"⟩
  options := { dedupType := .insertDuplicates }

/-- An outside that refuses every statement. -/
def refusing (error : ApiError) (tables : TableName → Except Fault ReflectedTable)
    (before : List Call) (call : Call) : call.Answer :=
  match call with
  | .query .. => .error (.refused error)
  | call => Script.obliging tables before call

/-- A service error whose only detail has no text as its message. -/
def untoldError : ApiError := ⟨.badRequest, "", [.obj [("message", .null)]]⟩

/-- The exchanges of that command where its insertion is refused with this error. -/
def insertingImportRefused : List Exchange :=
  (tables.run Config.plain Credentials.plain (.table insertingImport) [] {}).against Session.plain
    (refusing untoldError fun _ => .ok (ReflectedTable.ofNames ["a"] []))

/-- Where the refusal of an insertion has no text, its translation slips, and the handler ends with
the failure of that. -/
theorem copy_failure_reported_untold :
    CopyFails Config.plain Credentials.plain insertingImport [] {} Session.plain
        insertingImportRefused (.backend untoldError) ∧
      ∃ outcome after,
        Runs (tables.run Config.plain Credentials.plain (.table insertingImport) [] {})
          Session.plain insertingImportRefused outcome after ∧
        outcome = .error .wrongKind ∧ ¬untoldError.Translates .wrongKind := by
  have hslips : untoldError.Slips .wrongKind := by
    have hfilter : ¬untoldError.MarksFilter := by
      rw [ApiError.marksFilter_iff]
      decide
    have hdecoded : (Failure.backend untoldError).decodedMessage = .ok .null := rfl
    exact .unsearchable hfilter hdecoded id
  have hcopy : CopyFails Config.plain Credentials.plain insertingImport [] {} Session.plain
      insertingImportRefused (.backend untoldError) :=
    ⟨_, Script.runs_run (refusing untoldError fun _ => .ok (ReflectedTable.ofNames ["a"] [])) []
      ((throughCopy Config.plain Credentials.plain insertingImport [] {}).run.run Session.plain)⟩
  obtain ⟨outcome, after, hrun⟩ := runs_against
    (tables.run Config.plain Credentials.plain (.table insertingImport) [] {}) Session.plain
    (refusing untoldError fun _ => .ok (ReflectedTable.ofNames ["a"] []))
  obtain ⟨failure, houtcome, -, hreported⟩ := copy_failure_reported rfl hcopy hrun
  obtain rfl := hreported _ hslips
  exact ⟨hcopy, outcome, after, hrun, houtcome, hslips.not_translates⟩

end Handler

end WarehouseImport
