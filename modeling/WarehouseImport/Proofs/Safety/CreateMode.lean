import WarehouseImport.Proofs.Run.Opening
import WarehouseImport.Proofs.Safety.Cleanup

/-!
# What a create mode does to a destination that exists

A create mode is enforced once source and destination are described. It ends the import before
anything is submitted, unless the import makes a view or a clone in the place of its destination:
then the destination is dropped first, as a view if it is described as one, and never again. Without
a create mode no import drops its destination.
-/

namespace WarehouseImport

open WarehouseImport.Action Trace

namespace Destination

/-- Options with a create mode that does not allow the destination to exist. -/
def Refuses (options : ImportOptions) : Prop :=
  options.createMode = some .create ∨
    (options.createMode = some .replace ∧
      (options.importType = .full ∨ options.importType = .incremental))

/-- Options that replace the destination. -/
def Replaces (options : ImportOptions) : Prop :=
  options.createMode = some .replace ∧ (options.importType = .view ∨ options.importType = .clone)

/-- A destination exists: it has a name and a definition, and every description of it finds that as
long as nothing is submitted. -/
structure IsThere (label : TableLabel) (described : ReflectedTable)
    (exchanges : List Exchange) : Prop where
  /-- Neither part of its name is empty. -/
  named : label.check = .ok label.tableName
  /-- Its description defines a table. -/
  defined : ∃ definition, described.definition label.tableName = .ok definition
  /-- It is described in the same way until something is submitted. -/
  consistent : ∀ before answer after,
    exchanges = before ++ ⟨.reflect label.tableName, answer⟩ :: after →
      (∀ exchange ∈ before, ¬ exchange.Submits) → answer = .ok described

end Destination

/-- With an open log file an object is dropped as the kind of object it is described as. -/
theorem Warehouse.runs_dropObject_of_open {warehouse : Warehouse} {target : TableName}
    {session after : Session} {exchanges : List Exchange} {outcome : Except Failure Int}
    (hsends : warehouse.dryRun = false)
    (h : Runs (warehouse.dropObject target) session exchanges outcome after)
    (hopen : session.Open) :
    ∃ answer rest, exchanges = ⟨.reflect target, answer⟩ :: rest ∧
      ∀ described, answer = .ok described → ∃ job, rest =
        [⟨.query (.drop (if described.isView then .view else .table) target false) []
          warehouse.timeout, job⟩] := by
  rcases runs_bind.mp h with ⟨failure, rfl, hf⟩ | ⟨first, found, m, last, rfl, hv, hl⟩
  · obtain ⟨answer, rfl, hfailed, -⟩ := runs_reflect_of_answer hf
    refine ⟨answer, [], rfl, ?_⟩
    rintro described rfl
    cases hfailed
  obtain ⟨answer, rfl, hanswer, rfl⟩ := runs_reflect_of_answer hv
  refine ⟨answer, last, rfl, ?_⟩
  rintro described rfl
  obtain rfl : found = some described := Except.ok.inj hanswer
  obtain ⟨job, rfl, -⟩ := runs_drop_of_open hsends hl hopen
  exact ⟨job, rfl⟩

namespace FromTable

variable {warehouse : Warehouse} {beginning : String} {command : TableCommand}
  {features : List String} {options : TransferOptions} {context : SourceContext}
  {expected : ColumnCollection} {definition : TableDefinition} {session after : Session}
  {exchanges : List Exchange} {outcome : Except Failure ImportResponse}

/-- An import that refuses its destination ends there. -/
theorem refused_proceed (hrefuses : Destination.Refuses command.options)
    (h : Runs (proceed warehouse beginning command options context expected (some definition)) session
      exchanges outcome after) :
    exchanges = [] ∧ outcome = .error (.tableExists command.destination.label) := by
  have hthrows : Destination.applyCreateMode warehouse command.destination.label command.options
      (some definition) = throw (.tableExists command.destination.label) := by
    rcases hrefuses with hmode | ⟨hmode, himport | himport⟩
    · simp [Destination.applyCreateMode, hmode]
    · simp [Destination.applyCreateMode, hmode, himport, ImportType.createsDestination]
    · simp [Destination.applyCreateMode, hmode, himport, ImportType.createsDestination]
  unfold proceed at h
  rw [hthrows] at h
  obtain ⟨rfl, rfl, -⟩ := runs_throw_bind h
  exact ⟨rfl, rfl⟩

/-- A view or a clone is made without a drop, and so is the response. -/
theorem drops_of_runs_perform {existing : Option TableDefinition}
    (hcreates : command.options.importType = .view ∨ command.options.importType = .clone)
    (h : Runs (do
      let result ← perform warehouse beginning command context expected existing options
      ImportResponse.build (← Action.ofExcept command.destination.label.check) result) session
      exchanges outcome after) :
    ∀ exchange ∈ exchanges, ∀ table, ¬ exchange.Drops table := by
  have hperformed {performed : List Exchange} {result : Except Failure ImportResult} {m : Session}
      (hp : Runs (perform warehouse beginning command context expected existing options) session
        performed result m) :
      ∀ exchange ∈ performed, exchange.DropsOnly fun _ => False := by
    have hperforms := runs_perform hp
    unfold Performs at hperforms
    rcases hcreates with himport | himport
    · rw [himport] at hperforms
      exact views_drops hperforms
    · rw [himport] at hperforms
      exact clones_drops hperforms
  intro exchange hmem table hdrops
  rcases runs_bind.mp h with ⟨failure, rfl, hf⟩ | ⟨first, result, m, last, rfl, hv, hl⟩
  · exact hperformed hf exchange hmem table hdrops
  rcases List.mem_append.mp hmem with hmem | hmem
  · exact hperformed hv exchange hmem table hdrops
  · have hnone : Every (Warehouse.describes command.destination.label.tableName)
        (Exchange.DropsOnly fun _ => False) := describes_drops _
    exact hnone (follows_build command result hl).1 exchange hmem table hdrops

/-- An import that replaces its destination describes it once more, drops what it finds, and drops
nothing else. -/
theorem replaced_proceed (hsends : warehouse.dryRun = false) (hreplaces : Destination.Replaces command.options)
    (hnamed : command.destination.label.check = .ok command.destination.label.tableName)
    (h : Runs (proceed warehouse beginning command options context expected (some definition)) session
      exchanges outcome after) (hopen : session.Open) :
    ∃ answer rest, exchanges = ⟨.reflect command.destination.label.tableName, answer⟩ :: rest ∧
      ∀ described, answer = .ok described → ∃ job later, rest =
        ⟨.query (.drop (if described.isView then .view else .table)
          command.destination.label.tableName false) [] warehouse.timeout, job⟩ :: later ∧
        ∀ exchange ∈ later, ∀ table, ¬ exchange.Drops table := by
  obtain ⟨hmode, himport⟩ := hreplaces
  have hreplaced : Destination.applyCreateMode warehouse command.destination.label command.options
      (some definition) = (do
        let _ ← warehouse.dropObject command.destination.label.tableName
        return none) := by
    have hcreates : command.options.importType.createsDestination = true := by
      rcases himport with himport | himport <;> rw [himport] <;> rfl
    simp only [Destination.applyCreateMode, hmode, hcreates, hnamed, decide_true, Bool.and_self,
      if_true]
    rfl
  unfold proceed at h
  rw [hreplaced] at h
  rcases runs_bind.mp h with ⟨failure, rfl, hf⟩ | ⟨first, existing, m, last, rfl, hv, hl⟩
  · rcases runs_bind.mp hf with ⟨failure, -, hf⟩ | ⟨_, _, _, _, -, -, hpure⟩
    · obtain ⟨answer, rest, rfl, hrest⟩ := Warehouse.runs_dropObject_of_open hsends hf hopen
      refine ⟨answer, rest, rfl, fun described hdescribed => ?_⟩
      obtain ⟨job, rfl⟩ := hrest described hdescribed
      exact ⟨job, [], rfl, by simp⟩
    · cases (runs_pure.mp hpure).2.1
  · obtain ⟨_, _, _, _, rfl, hdropped, hpure⟩ := runs_bind_ok hv
    obtain ⟨rfl, -, -⟩ := runs_pure.mp hpure
    obtain ⟨answer, rest, rfl, hrest⟩ := Warehouse.runs_dropObject_of_open hsends hdropped hopen
    refine ⟨answer, rest ++ last, by simp, fun described hdescribed => ?_⟩
    obtain ⟨job, rfl⟩ := hrest described hdescribed
    exact ⟨job, last, rfl, drops_of_runs_perform himport hl⟩

end FromTable

namespace Handler

variable {handler : Handler} {config : Config} {credentials : Credentials}
  {command : TableCommand} {features : List String} {options : RuntimeOptions}
  {described : ReflectedTable} {session after : Session} {exchanges : List Exchange}
  {outcome : Except Failure ImportResponse}

/-- A connection and the description of a table submit nothing. -/
theorem not_submits_of_connect {request : ClientRequest} {project : String} :
    ¬ Exchange.Submits ⟨.connect request, project⟩ := by
  rintro (⟨statement, hstatement⟩ | ⟨_, _, _, heq⟩)
  · cases hstatement
  · cases heq

/-- A run on a destination that exists fails without a description of it, or goes on with its
definition behind the descriptions of source and destination. In the first case nothing is
submitted, and the source cannot be read and mapped. -/
theorem runs_there
    (hrun : Runs (handler.run config credentials (.table command) features options) session
      exchanges outcome after)
    (hthere : Destination.IsThere command.destination.label described exchanges) :
    (outcome.isOk = false ∧ (∀ exchange ∈ exchanges, ¬ exchange.Submits) ∧
      ∀ exchange ∈ exchanges, ∀ context expected,
        ¬ FromTable.Offers command exchange context expected) ∨
    ∃ opening rest warehouse definition context expected begun given ended,
      exchanges = opening ++ rest ∧ (∀ exchange ∈ opening, ¬ exchange.Submits) ∧
      warehouse.dryRun = false ∧ begun.Open ∧
      Runs (FromTable.proceed warehouse config.stagingNames command
        (TransferOptions.ofImport command.options features) context expected (some definition))
        begun rest given ended ∧
      ∀ failure, given = .error failure → outcome = .error failure := by
  rcases runs_connected hrun with
    ⟨rfl, hfailed⟩ | ⟨request, project, performed, begun, given, ended, rfl, -, hp, hfails, -⟩
  · exact .inl ⟨hfailed, by simp, by simp⟩
  have hfailed : given.isOk = false → outcome.isOk = false := by
    intro hgiven
    cases given with
    | ok response => cases hgiven
    | error failure =>
      rw [hfails failure rfl]
      rfl
  have hconnect {context : SourceContext} {expected : ColumnCollection} :
      ¬ FromTable.Offers command ⟨.connect request, project⟩ context expected := by
    rintro ⟨full, ⟨answer, heq, -⟩, -⟩
    cases heq
  have hthrown {failure : Failure} (hthrow : Runs (throw failure) begun performed given ended) :
      outcome.isOk = false ∧
        (∀ exchange ∈ ⟨.connect request, project⟩ :: performed, ¬ exchange.Submits) ∧
        ∀ exchange ∈ ⟨.connect request, project⟩ :: performed, ∀ context expected,
          ¬ FromTable.Offers command exchange context expected := by
    obtain ⟨rfl, rfl, -⟩ := runs_throw.mp hthrow
    simpa using ⟨hfailed rfl, not_submits_of_connect, fun _ _ => hconnect⟩
  cases handler with
  | files => exact .inl (hthrown hp)
  | openKind => exact .inl (hthrown hp)
  | tables =>
    rcases FromTable.runs_run_of_named hthere.named hp with
      ⟨hunread, hread⟩ | ⟨source, answer, rest, context, expected, opened, rfl, hoffers, hopen,
        hproceeds⟩
    · refine .inl ⟨hfailed hunread, ?_⟩
      rcases hread with rfl | ⟨exchange, rfl, hcall, hnever⟩
      · simpa using ⟨not_submits_of_connect, fun _ _ => hconnect⟩
      · simpa using ⟨⟨not_submits_of_connect, Exchange.not_submits_of_reflect hcall⟩,
          fun _ _ => hconnect, hnever⟩
    · right
      obtain ⟨full, hdescribes, -⟩ := hoffers
      have hopening : ∀ exchange ∈ [⟨.connect request, project⟩, source], ¬ exchange.Submits := by
        simpa using ⟨not_submits_of_connect, Exchange.not_submits_of_reflect hdescribes.call_eq⟩
      obtain rfl : answer = .ok described := hthere.consistent _ answer rest rfl hopening
      obtain ⟨definition, hdefinition⟩ := hthere.defined
      have hfound : Warehouse.defined command.destination.label.tableName (.ok described) =
          .ok (some definition) := map_eq_ok.mpr ⟨definition, hdefinition, rfl⟩
      rw [hfound] at hproceeds
      refine ⟨[⟨.connect request, project⟩, source, ⟨.reflect _, .ok described⟩], rest, _,
        definition, context, expected, opened, given, ended, rfl, ?_, rfl, hopen, hproceeds, hfails⟩
      simpa using ⟨not_submits_of_connect, Exchange.not_submits_of_reflect hdescribes.call_eq,
        Exchange.not_submits_of_reflect rfl⟩

/-- A run whose create mode refuses the destination submits nothing and fails, for the destination
if the source can be read and mapped. -/
theorem refused_run
    (hrun : Runs (handler.run config credentials (.table command) features options) session
      exchanges outcome after)
    (hthere : Destination.IsThere command.destination.label described exchanges)
    (hrefuses : Destination.Refuses command.options) :
    outcome.isOk = false ∧ (∀ exchange ∈ exchanges, ¬ exchange.Submits) ∧
      ((∃ exchange ∈ exchanges, ∃ context expected,
          FromTable.Offers command exchange context expected) →
        outcome = .error (.tableExists command.destination.label)) := by
  rcases runs_there hrun hthere with
    ⟨hfailed, hnothing, hnever⟩ | ⟨opening, rest, warehouse, definition, context, expected, begun,
      given, ended, rfl, hopening, -, -, hproceeds, hfails⟩
  · refine ⟨hfailed, hnothing, ?_⟩
    rintro ⟨exchange, hmem, context, expected, hoffers⟩
    exact absurd hoffers (hnever exchange hmem context expected)
  · obtain ⟨rfl, rfl⟩ := FromTable.refused_proceed hrefuses hproceeds
    obtain rfl := hfails _ rfl
    exact ⟨rfl, by simpa using hopening, fun _ => rfl⟩

/-- A run that replaces its destination submits nothing, or drops the destination first, as what it
is described as, and never again. -/
theorem replaced_run
    (hrun : Runs (handler.run config credentials (.table command) features options) session
      exchanges outcome after)
    (hthere : Destination.IsThere command.destination.label described exchanges)
    (hreplaces : Destination.Replaces command.options) :
    (∀ exchange ∈ exchanges, ¬ exchange.Submits) ∨
      ∃ before drop later, exchanges = before ++ drop :: later ∧
        (∀ exchange ∈ before, ¬ exchange.Submits) ∧
        drop.statement? = some (.drop (if described.isView then .view else .table)
          command.destination.label.tableName false) ∧
        ∀ exchange ∈ later, ¬ exchange.Drops command.destination.label.tableName := by
  rcases runs_there hrun hthere with
    ⟨-, hnothing, -⟩ | ⟨opening, rest, warehouse, definition, context, expected, begun, given,
      ended, rfl, hopening, hsends, hopen, hproceeds, -⟩
  · exact .inl hnothing
  right
  obtain ⟨answer, behind, rfl, hdropped⟩ :=
    FromTable.replaced_proceed hsends hreplaces hthere.named hproceeds hopen
  obtain rfl : answer = .ok described := hthere.consistent opening answer behind rfl hopening
  obtain ⟨job, later, rfl, hlater⟩ := hdropped described rfl
  refine ⟨opening ++ [⟨.reflect _, .ok described⟩], _, later, List.append_cons opening _ _, ?_, rfl,
    fun exchange hmem => hlater exchange hmem _⟩
  intro exchange hmem
  rcases List.mem_append.mp hmem with hmem | hmem
  · exact hopening exchange hmem
  · obtain rfl := List.mem_singleton.mp hmem
    exact Exchange.not_submits_of_reflect rfl

/-- What a run does to a destination that exists. A create mode that the import type cannot carry
out ends the run before anything is submitted, for the destination if the source can be read and
mapped. A view or a clone that replaces its destination drops it first and once. Without a create
mode the destination is not dropped, as long as the drawn names are not its own. -/
theorem create_mode_enforced
    (hrun : Runs (handler.run config credentials (.table command) features options) session
      exchanges outcome after)
    (hthere : Destination.IsThere command.destination.label described exchanges) :
    (Destination.Refuses command.options →
      outcome.isOk = false ∧ (∀ exchange ∈ exchanges, ¬ exchange.Submits) ∧
        ((∃ exchange ∈ exchanges, ∃ context expected,
            FromTable.Offers command exchange context expected) →
          ∃ failure, outcome = .error failure ∧
            failure = .tableExists command.destination.label ∧ failure.code? = some 2006)) ∧
    (Destination.Replaces command.options →
      (∀ exchange ∈ exchanges, ¬ exchange.Submits) ∨
        ∃ before drop later, exchanges = before ++ drop :: later ∧
          (∀ exchange ∈ before, ¬ exchange.Submits) ∧
          drop.statement? = some (.drop (if described.isView then .view else .table)
            command.destination.label.tableName false) ∧
          ∀ exchange ∈ later, ¬ exchange.Drops command.destination.label.tableName) ∧
    (command.options.createMode = none →
      command.destination.table ≠ (session.drawName config.stagingNames).1 →
      command.destination.table ≠
        (session.drawName config.stagingNames).1 ++ Writing.dedupEnding →
      ∀ exchange ∈ exchanges, ¬ exchange.Drops command.destination.label.tableName) := by
  refine ⟨fun hrefuses => ?_, replaced_run hrun hthere, fun hmode hstaging hkept => ?_⟩
  · obtain ⟨hfailed, hnothing, hends⟩ := refused_run hrun hthere hrefuses
    exact ⟨hfailed, hnothing, fun hoffered => ⟨_, hends hoffered, rfl, rfl⟩⟩
  · intro exchange hmem hdrops
    rcases drops_of_runs hrun exchange hmem _ hdrops with hname | hname | ⟨-, hreplaces, -⟩
    · exact hstaging (congrArg TableName.table hname)
    · exact hkept (congrArg TableName.table hname)
    · rw [hmode] at hreplaces
      cases hreplaces

/-- A command that makes a new table of another one, with rows that go through a staging table. -/
def creatingImport : TableCommand :=
  { keyedImport with options := { keyedImport.options with createMode := some .create } }

/-- The exchanges of a command where every table is described alike. -/
def exchangesAmong (command : TableCommand) (described : ReflectedTable) : List Exchange :=
  (Handler.tables.run Config.plain Credentials.plain (.table command) [] {}).against Session.plain
    (Script.obliging fun _ => .ok described)

/-- There the destination exists. -/
theorem isThere_exchangesAmong {command : TableCommand} {described : ReflectedTable}
    (hnamed : command.destination.label.check = .ok command.destination.label.tableName)
    (hdefined : ∃ definition,
      described.definition command.destination.label.tableName = .ok definition) :
    Destination.IsThere command.destination.label described (exchangesAmong command described) where
  named := hnamed
  defined := hdefined
  consistent := by
    intro before answer after hsplit _
    have hmem : ⟨.reflect command.destination.label.tableName, answer⟩ ∈
        exchangesAmong command described := by simp [hsplit]
    obtain ⟨earlier, hanswer⟩ := Script.answer_of_mem_exchanges hmem
    exact hanswer

/-- A table that exists is not created once more; a view that is replaced is dropped as a view; and
a table that rows go into through a staging table is not dropped. -/
theorem create_mode_enforced_there :
    (∃ outcome after,
      Runs (Handler.tables.run Config.plain Credentials.plain (.table creatingImport) [] {})
        Session.plain (exchangesAmong creatingImport (ReflectedTable.ofNames ["a"] ["a"])) outcome
        after ∧
      outcome = .error (.tableExists ⟨"data", "report"⟩)) ∧
    (∃ before drop later,
      exchangesAmong (replacingView "sales" "report")
          { ReflectedTable.ofNames ["a"] [] with kind := "VIEW" } = before ++ drop :: later ∧
        drop.statement? = some (.drop .view ⟨"data", "report"⟩ false)) ∧
    ∀ exchange ∈ exchangesAmong keyedImport (ReflectedTable.ofNames ["a"] ["a"]),
      ¬ exchange.Drops ⟨"data", "report"⟩ := by
  have hruns (command : TableCommand) (described : ReflectedTable) := runs_against
    (Handler.tables.run Config.plain Credentials.plain (.table command) [] {}) Session.plain
    (Script.obliging fun _ => .ok described)
  refine ⟨?_, ?_, ?_⟩
  · obtain ⟨outcome, after, hrun⟩ := hruns creatingImport (ReflectedTable.ofNames ["a"] ["a"])
    obtain ⟨-, -, hends⟩ := (create_mode_enforced hrun
      (isThere_exchangesAmong rfl ⟨_, rfl⟩)).1 (.inl rfl)
    obtain ⟨failure, rfl, rfl, -⟩ := hends ⟨_, List.mem_iff_getElem?.mpr ⟨1, rfl⟩, _, _, _,
      ⟨_, rfl, _, rfl, rfl⟩, rfl, rfl⟩
    exact ⟨_, _, hrun, rfl⟩
  · obtain ⟨outcome, after, hrun⟩ := hruns (replacingView "sales" "report")
      { ReflectedTable.ofNames ["a"] [] with kind := "VIEW" }
    rcases (create_mode_enforced hrun (isThere_exchangesAmong rfl ⟨_, rfl⟩)).2.1
      ⟨rfl, .inl rfl⟩ with hnothing | ⟨before, drop, later, hsplit, -, hdrop, -⟩
    · exact absurd (.inl ⟨_, rfl⟩) (hnothing _ (List.mem_iff_getElem?.mpr ⟨4, rfl⟩))
    · exact ⟨before, drop, later, hsplit, hdrop⟩
  · obtain ⟨outcome, after, hrun⟩ := hruns keyedImport (ReflectedTable.ofNames ["a"] ["a"])
    exact (create_mode_enforced hrun (isThere_exchangesAmong rfl ⟨_, rfl⟩)).2.2 rfl
      (by decide) (by decide)

end Handler

end WarehouseImport
