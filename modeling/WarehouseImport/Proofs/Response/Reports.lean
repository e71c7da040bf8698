import WarehouseImport.Proofs.Response.Clones
import WarehouseImport.Proofs.Response.Staged
import WarehouseImport.Proofs.Run.Ending

/-!
# What a response reports

The response of an import from a table says what its run did. The numbers of rows and bytes are those
of the last description of the destination, behind everything else that is sent. What counts as
imported depends on how the rows got there: a view, a clone and rows that go straight into the
destination count nothing; a copy by a query counts what is read of the destination behind it; and
staged rows are counted in the staging table, once.
-/

namespace WarehouseImport

open WarehouseImport.Action Text

variable {session after : Session} {exchanges : List Exchange}

/-- The rows of a response are the whole number that the count of the result stands for. -/
theorem ImportResult.responseRows_eq_ok {result : ImportResult} {rows : Int} :
    result.responseRows = .ok rows ↔ Payload.whole result.rows = .valid rows := by
  unfold responseRows
  cases Payload.whole result.rows <;> simp [Checked.under, Checked.result]

/-- A response that is built has the numbers of a last description, and what the result imported. -/
theorem ImportResponse.runs_build_ok {destination : TableName} {result : ImportResult}
    {response : ImportResponse}
    (h : Runs (build destination result) session exchanges (.ok response) after) :
    ∃ answer, exchanges = [⟨.reflect destination, answer⟩] ∧
      Warehouse.Measures answer response.tableRows response.tableBytes ∧
      Payload.whole result.rows = .valid response.importedRows ∧
      response.importedColumns = result.columns := by
  obtain ⟨_, numbers, _, _, rfl, hstats, hbuilt⟩ := runs_bind_ok h
  obtain ⟨answer, rfl, hmeasures⟩ := Warehouse.runs_stats_ok hstats
  obtain ⟨rfl, hresponse, -⟩ := runs_ofExcept.mp hbuilt
  obtain ⟨imported, himported, rfl⟩ := map_eq_ok.mp hresponse.symm
  exact ⟨answer, rfl, hmeasures, ImportResult.responseRows_eq_ok.mp himported, rfl⟩

namespace FromTable

variable {warehouse : Warehouse} {beginning : String} {command : TableCommand}
  {context : SourceContext} {expected : ColumnCollection} {found existing : Option TableDefinition}
  {options : TransferOptions} {first second : Exchange} {result : ImportResult} {rows : Int}

/-- What an import sends once its source and destination are described, if it ends well, and the
rows and columns that it then reports as imported. -/
inductive Imports (warehouse : Warehouse) (command : TableCommand) (context : SourceContext)
    (expected : ColumnCollection) (existing : Option TableDefinition) (options : TransferOptions)
    (name : String) : List Exchange → Int → List String → Prop where
  /-- A view imports nothing. -/
  | view {viewed : Exchange} {brought : JobResult}
      (himport : command.options.importType = .view)
      (hbrings : viewed.Brings (.createView command.destination.label.tableName
        command.source.label.tableName) brought) :
      Imports warehouse command context expected existing options name [viewed] 0 []
  /-- Nor does a clone that is made. -/
  | clone {cloned : Exchange} {brought : JobResult}
      (himport : command.options.importType = .clone)
      (hbrings : cloned.Brings (.cloneTable command.destination.label.tableName
        command.source.label.tableName) brought) :
      Imports warehouse command context expected existing options name [cloned] 0 []
  /-- A copy by a query imports the rows that are counted behind it, and the columns of the
  definition that is read behind it. -/
  | fallback {refused copied : Exchange} {brought : JobResult}
      {described : Except Fault ReflectedTable} {defined : Option TableDefinition}
      {counting : List Exchange} {count : Json} {rows : Int}
      (himport : command.options.importType = .clone) (hrefuses : RefusesClone command refused)
      (hbrings : copied.Brings (.createTableAs command.destination.label.tableName
        command.source.label.tableName) brought)
      (hdefined : Warehouse.defined command.destination.label.tableName described = .ok defined)
      (hcounted : Warehouse.Counted command.destination.label.tableName counting count)
      (hrows : Payload.whole count = .valid rows) :
      Imports warehouse command context expected existing options name
        (refused :: copied :: ⟨.reflect command.destination.label.tableName, described⟩ :: counting)
        rows ((defined.map TableDefinition.columnNames).getD [])
  /-- Rows that go straight into the destination are not counted. -/
  | direct {creating : List Exchange} {inserted : Exchange} {select : MappedSelect}
      {brought : JobResult} (hdirect : isDirect command options = true)
      (hcreates : (Destination.creates warehouse command.destination.label command.options expected
        options.stamped existing).Allows creating true)
      (hselect : context.source.mappedTo expected.names = .ok select)
      (hbrings : inserted.Brings (.insertMapped command.destination.label.tableName select
        (options.typing == .text)) brought) :
      Imports warehouse command context expected existing options name (creating ++ [inserted]) 0 []
  /-- Staged rows are those that were counted where the staging table was filled; their columns are
  the ends of the routes in their order, but for the time column. -/
  | staged {creating filling writing dropping : List Exchange}
      {destination staging : TableDefinition} {count : Json} {rows : Int}
      (himport : command.options.importType = .full) (hdirect : isDirect command options = false)
      (hcreates : (Destination.creates warehouse command.destination.label command.options expected
        options.stamped existing).Allows creating true)
      (hnamed : destination.name = command.destination.label.tableName)
      (hstages : Stages command context destination name staging)
      (hfilled : Staged warehouse context staging options filling count)
      (hwrites : (Writing.writes warehouse .replace staging destination options).Allows writing true)
      (hdrops : (warehouse.sends (.drop .table staging.name false)).attempt.Allows dropping true)
      (hrows : Payload.whole count = .valid rows) :
      Imports warehouse command context expected existing options name
        (creating ++ (filling ++ (writing ++ dropping))) rows
        (((command.routes context.full).map (·.destination)).filter fun column =>
          lower column != timestampColumn)

/-- An incremental import does not end well. -/
theorem refuseIncremental_ne_ok {value : Unit} :
    refuseIncremental command context expected existing ≠ .ok value := by
  unfold refuseIncremental
  split
  · split
    · split <;> simp
    · simp
  · simp

/-- A view imports nothing. -/
theorem runs_createView_ok {source destination : TableName} (hsends : warehouse.dryRun = false)
    (h : Runs (createView warehouse source destination) session exchanges (.ok result) after) :
    ∃ viewed brought, exchanges = [viewed] ∧
      viewed.Brings (.createView destination source) brought ∧ result = {} := by
  obtain ⟨_, ⟨⟩, _, _, rfl, hcreates, hreturn⟩ := runs_bind_ok h
  obtain ⟨ran, hran, hruns⟩ := runs_creating hcreates
  obtain ⟨rfl, hresult, -⟩ := runs_pure.mp hreturn
  cases ran with
  | error failure => cases hran
  | ok affected =>
    obtain ⟨viewed, brought, rfl, hbrings, -⟩ := Warehouse.runs_execute_ok hsends hruns
    exact ⟨viewed, brought, rfl, hbrings, Except.ok.inj hresult⟩

/-- A clone that ends well imports nothing, or what is read behind the copy by a query. -/
theorem runs_clone_ok {name : String} (hsends : warehouse.dryRun = false)
    (himport : command.options.importType = .clone)
    (hrows : Payload.whole result.rows = .valid rows)
    (h : Runs (clone warehouse command.source.label.tableName command.destination.label.tableName)
      session exchanges (.ok result) after) (hopen : session.Open) :
    Imports warehouse command context expected existing options name exchanges rows
      result.columns := by
  obtain ⟨_, made, tried, rest, rfl, htry, hrest⟩ := runs_bind_ok h
  obtain ⟨answer, rfl, hcloned, htried⟩ := runs_tryClone hsends htry hopen
  cases made with
  | true =>
    obtain ⟨brought, hverdict⟩ := cloned_eq_true hcloned.symm
    obtain ⟨rfl, hresult, -⟩ := runs_pure.mp hrest
    obtain rfl := Except.ok.inj hresult
    cases hrows
    exact .clone himport ⟨_, _, answer, rfl, hverdict⟩
  | false =>
    obtain ⟨copied, reading, rfl, -, hreads⟩ := runs_copyByQuery hsends hrest htried
    obtain ⟨brought, described, defined, counting, hverdict, rfl, hdefined, hcounted, hcolumns⟩ :=
      hreads result rfl
    rw [hcolumns]
    exact .fallback himport (refusesClone_iff.mpr hcloned.symm) ⟨_, _, copied, rfl, hverdict⟩
      hdefined hcounted hrows

/-- A full import that ends well imports nothing that is counted, or the rows that it staged. -/
theorem runs_importRows_ok (hsends : warehouse.dryRun = false)
    (himport : command.options.importType = .full)
    (hdescribes : Describes command first second context expected existing)
    (hrows : Payload.whole result.rows = .valid rows)
    (h : Runs (importRows warehouse beginning command context expected existing options) session
      exchanges (.ok result) after) :
    Imports warehouse command context expected existing options (session.drawName beginning).1
      exchanges rows result.columns := by
  have hrest : Runs (do
      let destination ← Destination.resolve warehouse command.destination.label command.options
        expected options.stamped existing
      moveRows warehouse beginning command context destination expected options) session exchanges
      (.ok result) after := by
    unfold importRows at h
    split at h
    · rcases runs_ofExcept_bind.mp h with ⟨failure, -, -, hnever, -⟩ | ⟨⟨⟩, -, hrest⟩
      · cases hnever
      · exact hrest
    · exact h
  obtain ⟨creating, base, created, moving, rfl, hresolves, hmoves⟩ := runs_bind_ok hrest
  have hcreates : command.options.importType.createsDestination = false := by
    rw [himport]
    rfl
  obtain ⟨hcreating, hdrawn⟩ := Destination.follows_resolve hcreates _ _ _ _ _ hresolves
  have hsettled := Destination.returns_resolve _ _ _ _ _ _ hresolves
  rcases runs_ofExcept_bind.mp hmoves with
    ⟨failure, -, -, hnever, -⟩ | ⟨destination, hkeyed, hmoved⟩
  · cases hnever
  have hnamed := hdescribes.name_eq hsettled hkeyed
  obtain ⟨given, hgiven, hmoved⟩ := runs_rethrow.mp hmoved
  obtain rfl := mapError_eq_ok.mp hgiven.symm
  split at hmoved
  · next hdirect =>
    obtain ⟨inserted, select, brought, rfl, hselect, hbrings, hcount, hcolumns⟩ :=
      runs_insertDirectly_ok hsends hmoved
    rw [hnamed] at hbrings
    rw [hcount] at hrows
    cases hrows
    rw [hcolumns]
    exact .direct hdirect hcreating hselect hbrings
  · next hstaged =>
    obtain ⟨staging, filling, writing, dropping, rfl, hstages, hfilled, hwrites, hdrops, hcolumns⟩ :=
      runs_importStaged_ok hsends hmoved
    have hname : (created.drawName beginning).1 = (session.drawName beginning).1 := by
      simp only [Session.drawName, hdrawn]
    rw [hname] at hstages
    obtain ⟨full, -, hcontext⟩ := hdescribes.source
    have hfull : context.full = full := (SourceContext.parts_of_ofDefinition hcontext).1
    rw [hcolumns, Writing.stagedColumns, hstages.names_eq hcontext, ← hfull]
    exact .staged himport (Bool.eq_false_iff.mpr hstaged) hcreating hnamed hstages hfilled hwrites
      hdrops hrows

/-- Whatever an import type asks for, what ends well imports in one of these ways. -/
theorem runs_perform_ok (hsends : warehouse.dryRun = false)
    (hdescribes : Describes command first second context expected found)
    (hexisting : existing = found ∨ command.options.importType.createsDestination = true)
    (hrows : Payload.whole result.rows = .valid rows)
    (h : Runs (perform warehouse beginning command context expected existing options) session
      exchanges (.ok result) after) (hopen : session.Open) :
    Imports warehouse command context expected existing options (session.drawName beginning).1
      exchanges rows result.columns := by
  unfold perform at h
  cases himport : command.options.importType with
  | incremental =>
    rw [himport] at h
    rcases runs_ofExcept_bind.mp h with ⟨failure, -, -, hnever, -⟩ | ⟨value, hvalue, -⟩
    · cases hnever
    · exact (refuseIncremental_ne_ok hvalue).elim
  | view =>
    rw [himport] at h
    obtain ⟨_, _, -, -, hbody⟩ := (around_step _ _ _).runs_ok h
    rcases runs_ofExcept_bind.mp hbody with ⟨_, -, -, hnever, -⟩ | ⟨source, hsource, h₁⟩
    · cases hnever
    rcases runs_ofExcept_bind.mp h₁ with ⟨_, -, -, hnever, -⟩ | ⟨destination, hdestination, h₂⟩
    · cases hnever
    obtain rfl := TableLabel.eq_of_check hsource
    obtain rfl := TableLabel.eq_of_check hdestination
    obtain ⟨viewed, brought, rfl, hbrings, rfl⟩ := runs_createView_ok hsends h₂
    cases hrows
    exact .view himport hbrings
  | clone =>
    rw [himport] at h
    obtain ⟨_, _, hbefore, hbody, -⟩ := runs_step_of_open (by decide) (steady_cloneStep _ _) h hopen
    rcases runs_ofExcept_bind.mp hbody with ⟨_, -, -, hnever, -⟩ | ⟨source, hsource, h₁⟩
    · cases hnever
    rcases runs_ofExcept_bind.mp h₁ with ⟨_, -, -, hnever, -⟩ | ⟨destination, hdestination, h₂⟩
    · cases hnever
    obtain rfl := TableLabel.eq_of_check hsource
    obtain rfl := TableLabel.eq_of_check hdestination
    exact runs_clone_ok hsends himport hrows h₂ hbefore
  | full =>
    rw [himport] at h hexisting
    obtain rfl : existing = found := hexisting.resolve_right (by decide)
    exact runs_importRows_ok hsends himport hdescribes hrows h

/-- What a response says about the exchanges of its run. The last one describes the destination,
behind everything else, and its answer gives the numbers of rows and bytes. What was imported is
what the exchanges in front of it count. -/
inductive Reports (warehouse : Warehouse) (command : TableCommand) (options : TransferOptions)
    (name : String) (response : ImportResponse) : List Exchange → Prop where
  | of_imports {request : ClientRequest} {first second : Exchange}
      {applied performed : List Exchange} {answer : Except Fault ReflectedTable}
      {context : SourceContext} {expected : ColumnCollection}
      {found existing : Option TableDefinition}
      (hdescribes : Describes command first second context expected found)
      (happlied : (Destination.replaces warehouse command.destination.label
        command.options).Allows applied true)
      (hexisting : existing = found ∨ command.options.importType.createsDestination = true)
      (himports : Imports warehouse command context expected existing options name performed
        response.importedRows response.importedColumns)
      (hmeasures : Warehouse.Measures answer response.tableRows response.tableBytes) :
      Reports warehouse command options name response
        (⟨.connect request, warehouse.project⟩ :: first :: second :: (applied ++ (performed ++
          [⟨.reflect command.destination.label.tableName, answer⟩])))

/-- The response of an import that ends well reports its run. -/
theorem reports_of_runs {features : List String} {response : ImportResponse}
    (request : ClientRequest) (hsends : warehouse.dryRun = false)
    (h : Runs (run warehouse beginning command features) session exchanges (.ok response) after) :
    Reports warehouse command (TransferOptions.ofImport command.options features)
      (session.drawName beginning).1 response
      (⟨.connect request, warehouse.project⟩ :: exchanges) := by
  rcases runs_opened h with
    ⟨-, hnever⟩ | ⟨first, second, applied, rest, context, expected, found, existing, opened, rfl,
      hdescribes, happlied, hexisting, hname, hopen, hrest⟩
  · cases hnever
  obtain ⟨performed, result, built, closing, rfl, hperforms, hbuilds⟩ := runs_bind_ok hrest
  rcases runs_ofExcept_bind.mp hbuilds with ⟨_, -, -, hnever, -⟩ | ⟨target, htarget, hbuild⟩
  · cases hnever
  obtain rfl := TableLabel.eq_of_check htarget
  obtain ⟨answer, rfl, hmeasures, hrows, hcolumns⟩ := ImportResponse.runs_build_ok hbuild
  have himports := runs_perform_ok hsends hdescribes hexisting hrows hperforms hopen
  rw [hname, ← hcolumns] at himports
  exact .of_imports hdescribes happlied hexisting himports hmeasures

end FromTable

namespace Handler

variable {config : Config} {credentials : Credentials} {command : TableCommand}
  {features : List String} {options : RuntimeOptions} {outcome : Except Failure ImportResponse}

/-- The response of an import from a table reports what its run did, and a run copies by a query
exactly if its clone is refused for a source that cannot be cloned. -/
theorem response_reports_run
    (h : Runs (Handler.tables.run config credentials (.table command) features options) session
      exchanges outcome after) :
    FromTable.FallsBack command exchanges ∧
      ∀ response, outcome = .ok response → ∃ project,
        FromTable.Reports ⟨project, false, config.timeout⟩ command
          (TransferOptions.ofImport command.options features)
          (session.drawName config.stagingNames).1 response exchanges := by
  refine ⟨fallsBack_of_runs h, ?_⟩
  rintro response rfl
  rcases runs_connected h with
    ⟨-, hnever⟩ | ⟨request, project, performed, begun, given, ended, rfl, hname, hperform, -, hvalue⟩
  · cases hnever
  obtain rfl := hvalue response rfl
  rw [← hname]
  exact ⟨project, FromTable.reports_of_runs request rfl hperform⟩

/-- A command that makes a clone. -/
def cloningImport : TableCommand where
  source := { dataset := "data", table := "sales" }
  destination := ⟨"data", "report"⟩
  options := { importType := .clone }

/-- An outside that cannot clone and describes all tables alike, without their number of rows, which
it counts. -/
def refusingClones (rows : Int) : List Call → (call : Call) → call.Answer
  | _, .query (.cloneTable ..) _ _ =>
    .error (.refused ⟨.badRequest, "Cannot clone tables of this kind", []⟩)
  | _, .query (.countRows ..) _ _ =>
    .ok ⟨"job", 0, .ok ⟨Warehouse.doneState, none, [[.int rows]]⟩⟩
  | before, call =>
    Script.obliging (fun _ => .ok { ReflectedTable.ofNames ["a", "b"] [] with rows := none }) before
      call

/-- The exchanges of the command with such an outside. -/
def cloningImportExchanges (rows : Int) : List Exchange :=
  (Handler.tables.connectAndPerform Config.plain Credentials.plain (.table cloningImport) []
    {}).against Session.plain (refusingClones rows)

/-- Such a run copies by a query, and reports the rows that are counted behind it. -/
theorem response_reports_run_refused :
    ∃ response after,
      Runs (Handler.tables.run Config.plain Credentials.plain (.table cloningImport) [] {})
        Session.plain (cloningImportExchanges 3) (.ok response) after ∧
      response.importedRows = 3 ∧ response.importedColumns = ["a", "b"] ∧
      (∃ exchange ∈ cloningImportExchanges 3, FromTable.RefusesClone cloningImport exchange) ∧
      (∃ exchange ∈ cloningImportExchanges 3, exchange.statement? =
        some (.createTableAs ⟨"data", "report"⟩ ⟨"data", "sales"⟩)) ∧
      ∃ project, FromTable.Reports ⟨project, false, Config.plain.timeout⟩ cloningImport
        (TransferOptions.ofImport cloningImport.options [])
        (Session.plain.drawName Config.plain.stagingNames).1 response (cloningImportExchanges 3) := by
  have hperformed := Script.runs_run (refusingClones 3) []
    ((Handler.tables.connectAndPerform Config.plain Credentials.plain (.table cloningImport) []
      {}).run.run Session.plain)
  obtain ⟨response, after, hended, hlogs, hrows, hcolumns⟩ : ∃ response after, (Script.run
      (refusingClones 3) [] ((Handler.tables.connectAndPerform Config.plain Credentials.plain
        (.table cloningImport) [] {}).run.run Session.plain)).1 = (.ok response, after) ∧
      after.logs = [] ∧ response.importedRows = 3 ∧ response.importedColumns = ["a", "b"] :=
    ⟨_, _, rfl, rfl, rfl, rfl⟩
  rw [hended] at hperformed
  have hopen : after.Open := by simp [Session.Open, hlogs]
  obtain ⟨closed, hrun⟩ := exists_run rfl hperformed hopen
  obtain ⟨hfallsBack, hreports⟩ := response_reports_run hrun
  have hrefused : ∃ exchange ∈ cloningImportExchanges 3,
      FromTable.RefusesClone cloningImport exchange :=
    ⟨_, List.mem_iff_getElem?.mpr ⟨3, rfl⟩, rfl, _, ⟨_, _, _, _, rfl, rfl⟩, rfl, rfl⟩
  exact ⟨response, closed, hrun, hrows, hcolumns, hrefused, hfallsBack.mpr hrefused,
    hreports response rfl⟩

end Handler

end WarehouseImport
