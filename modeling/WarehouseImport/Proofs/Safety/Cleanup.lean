import WarehouseImport.Proofs.Run.Verdict
import WarehouseImport.Proofs.Safety.Clearing
import WarehouseImport.Proofs.Safety.Destination

/-!
# The end of a staging table

An import that goes through a staging table submits nothing but the creation of its destination
before it fills that table. From then on the log file takes text, so however the import ends, the
statement that drops the staging table is sent, and what is left to do only describes tables.

What comes of the drop is written to the log and forgotten. Two imports that get the same answers to
everything else therefore end in the same way.
-/

namespace WarehouseImport

open WarehouseImport.Action Trace

/-- A description of a table is a coda. -/
theorem Warehouse.coda_reflect {staging : TableName} (table : TableName) :
    Coda staging (Warehouse.reflect table) := by
  refine (coda_ask_reflect table).bind fun answer => ?_
  split
  · exact coda_pure _
  · split
    · exact coda_pure _
    · exact coda_throw _
  · exact coda_throw _

/-- The response of an import is a coda. -/
theorem ImportResponse.coda_build {staging : TableName} (destination : TableName)
    (result : ImportResult) : Coda staging (ImportResponse.build destination result) := by
  refine Coda.bind ((Warehouse.coda_reflect destination).bind fun found => ?_) fun _ =>
    coda_ofExcept _
  split <;> exact coda_pure _

namespace Staging

variable {warehouse : Warehouse} {session after : Session} {exchanges : List Exchange}
  {outcome : Except Failure Unit}

/-- With an open log file a staging table is dropped by one statement, and nothing of it fails. -/
theorem runs_remove {staging : TableName} (hsends : warehouse.dryRun = false)
    (h : Runs (remove warehouse staging) session exchanges outcome after) (hopen : session.Open) :
    (∃ answer, exchanges = [⟨.query (.drop .table staging false) [] warehouse.timeout, answer⟩]) ∧
      outcome = .ok () ∧ after.Open := by
  have hsteady := Warehouse.steady_drop warehouse .table staging true
  rcases runs_tryCatch.mp h with ⟨value, rfl, hv⟩ | ⟨first, failure, m, last, rfl, hf, hl⟩
  · obtain ⟨result, -, hdrop⟩ := runs_map.mp hv
    obtain ⟨answer, hsent, -⟩ := Warehouse.runs_drop_of_open hsends hdrop hopen
    exact ⟨⟨answer, hsent⟩, rfl, hsteady hdrop hopen⟩
  · obtain ⟨result, -, hdrop⟩ := runs_map.mp hf
    obtain ⟨answer, rfl, -⟩ := Warehouse.runs_drop_of_open hsends hdrop hopen
    obtain ⟨rfl, -⟩ := quiet_log _ _ _ hl
    obtain ⟨hok, hafter⟩ := sure_log _ _ _ hl (hsteady hdrop hopen)
    have hunit : outcome = .ok () := by
      cases outcome with
      | ok value => rfl
      | error failure => cases hok
    exact ⟨⟨answer, rfl⟩, hunit, hafter⟩

/-- A body that leaves the log file open and does not drop the staging table is cleared behind. -/
theorem clears_afterwards {α : Type} {staging destination : TableName} {body : Action α}
    (hsends : warehouse.dryRun = false) (hsteady : Steady body)
    (hkept : ∀ ⦃session exchanges outcome after⦄, Runs body session exchanges outcome after →
      ∀ exchange ∈ exchanges, ¬ exchange.Drops staging) :
    Clears staging destination Session.Open (afterwards body (remove warehouse staging)) where
  cleared := by
    intro session exchanges outcome after h hopen
    obtain ⟨first, result, middle, rest, cleaned, rfl, hr, hc, rfl⟩ := runs_afterwards.mp h
    obtain ⟨⟨answer, rfl⟩, rfl, hafter⟩ := runs_remove hsends hc (hsteady hr hopen)
    exact ⟨.inr ⟨first, _, [], rfl, ⟨_, _, rfl⟩, hkept hr, by simp⟩, fun _ => hafter⟩
  agrees := by
    intro session session' exchanges exchanges' rest others outcome outcome' after after' h h'
      hready halike
    obtain ⟨rfl, hopen⟩ := hready
    obtain ⟨first, result, middle, _, _, rfl, hr, hc, rfl⟩ := runs_afterwards.mp h
    obtain ⟨second, result', middle', _, _, rfl, hr', hc', rfl⟩ := runs_afterwards.mp h'
    obtain ⟨⟨answer, rfl⟩, rfl, hafter⟩ := runs_remove hsends hc (hsteady hr hopen)
    obtain ⟨⟨answer', rfl⟩, rfl, hafter'⟩ := runs_remove hsends hc' (hsteady hr' hopen)
    rw [List.append_assoc, List.append_assoc] at halike
    have hunique := Script.Runs.unique hr hr' halike fun exchange hmem hignored =>
      hkept hr exchange hmem hignored.drops
    obtain ⟨-, hends, htail⟩ := hunique
    obtain ⟨rfl, -⟩ := Prod.mk.inj hends
    exact ⟨rfl, (htail rfl).2, fun _ _ => ⟨hafter, hafter'⟩⟩

end Staging

/-- The table of keys is another one than the staging table. -/
theorem Writing.kept_ne_staging (staging destination : TableDefinition) :
    (keyedCopy staging destination).target ≠ staging.name := by
  intro heq
  have hname : staging.name.table ++ dedupEnding = staging.name.table :=
    congrArg TableName.table heq
  have hlength := congrArg String.length hname
  rw [String.length_append] at hlength
  have hending : dedupEnding.length = 6 := rfl
  omega

namespace Action

variable {α : Type} {action : Action α} {trace : Trace} {beginning name : String}
  {target : TableName}

/-- The log file is open, and the name that is drawn next is the given one. -/
def Waiting (beginning name : String) (session : Session) : Prop :=
  session.Open ∧ (session.drawName beginning).1 = name

/-- An action whose exchanges are idle and that leaves the log file open is a prelude. -/
theorem prelude_of_follows {kind : α → Prop} (hfollows : Follows action trace)
    (hidle : trace.Every (Exchange.Idle target)) (hsteady : Steady action)
    (hreturns : Returns action kind) :
    Prelude target (Waiting beginning name) action kind (Waiting beginning name) := by
  intro session exchanges outcome after h hready
  obtain ⟨hopen, hname⟩ := hready
  obtain ⟨hallows, hdrawn⟩ := hfollows h
  have hnext : (after.drawName beginning).1 = name := by
    rw [← hname]
    simp only [Session.drawName, hdrawn]
  refine ⟨hidle hallows, fun value hvalue => ?_⟩
  rw [hvalue] at h
  exact ⟨hreturns h, hsteady h hopen, hnext⟩

/-- A description is idle. -/
theorem describes_idle (table : TableName) :
    Every (Warehouse.describes table) (Exchange.Idle target) :=
  every_describes fun _ hcall hsubmits => (Exchange.not_submits_of_reflect hcall hsubmits).elim

end Action

/-- The first line is a prelude, behind which the log file is open. -/
theorem Action.prelude_say {beginning name : String} {target : TableName} (line : String) :
    Prelude target (fun session => (session.drawName beginning).1 = name) (say line)
      (fun _ => True) (Waiting beginning name) := by
  intro session exchanges outcome after h hname
  obtain ⟨rfl, hdrawn⟩ := quiet_say line h
  refine ⟨by simp, fun value hvalue => ⟨trivial, ?_, ?_⟩⟩
  · rw [hvalue] at h
    exact open_of_runs_say h
  · rw [← hname]
    simp only [Session.drawName, hdrawn]

/-- A definition that is found has the name of its table. -/
theorem Warehouse.prelude_definition {beginning name : String} {target : TableName}
    (table : TableName) :
    Prelude target (Waiting beginning name) (Warehouse.definition table)
      (fun found => ∀ definition, found = some definition → definition.name = table)
      (Waiting beginning name) := by
  apply prelude_of_follows (follows_definition table) (describes_idle table)
    (steady_definition table)
  intro session exchanges found after h definition hdefinition
  obtain ⟨exchange, -, -, -, hfound⟩ := runs_definition h
  have hdescribes := hfound found rfl
  rw [hdefinition] at hdescribes
  exact hdescribes.name_eq

/-- A table that is looked up has the name of its label. -/
theorem Warehouse.prelude_lookUp {beginning name : String} {target : TableName}
    (label : TableLabel) :
    Prelude target (Waiting beginning name) (lookUp label)
      (fun found => ∀ definition, found = some definition → definition.name = label.tableName)
      (Waiting beginning name) := by
  have hfollows : Follows (lookUp label) (describes label.tableName) := by
    intro session exchanges outcome after h
    obtain ⟨hallows, hdrawn, -⟩ := runs_lookUp h
    exact ⟨hallows, hdrawn⟩
  apply prelude_of_follows hfollows (describes_idle _) (steady_lookUp label)
  intro session exchanges found after h definition hdefinition
  obtain ⟨-, -, hfound⟩ := runs_lookUp h
  obtain ⟨exchange, -, hdescribes⟩ := hfound found rfl
  rw [hdefinition] at hdescribes
  exact hdescribes.name_eq

/-- A new staging table has the name that is drawn next. -/
theorem Staging.Layout.prelude_defineNew {beginning name : String} {target : TableName}
    (layout : Layout) (destination : TableDefinition) :
    Prelude target (Waiting beginning name) (layout.defineNew destination beginning)
      (fun staging => staging.name = destination.name.sibling name) Session.Open := by
  intro session exchanges outcome after h hready
  obtain ⟨hopen, hname⟩ := hready
  obtain ⟨rfl, hdefine⟩ := runs_defineNew h
  refine ⟨by simp, fun staging hstaging => ?_⟩
  rw [hname, hstaging] at hdefine
  exact ⟨(parts_of_define hdefine.symm).1, Layout.steady_defineNew _ _ _ h hopen⟩

/-- An import that gets under way is a prelude. -/
theorem Action.prelude_beginImport {target : TableName} (staging : String) :
    Prelude target Session.Open (beginImport staging) (fun _ => True) Session.Open := by
  intro session exchanges outcome after h hopen
  obtain ⟨rfl, -⟩ := quiet_beginImport staging h
  exact ⟨by simp, fun _ _ => ⟨trivial, (sure_beginImport staging h hopen).2⟩⟩

namespace FromTable

variable {warehouse : Warehouse} {beginning name : String} {command : TableCommand}
  {context : SourceContext} {options : TransferOptions} {expected : ColumnCollection}
  {staging target : TableName}

/-- Rows that go through a staging table leave it cleared. -/
theorem clears_importStaged {destination : TableDefinition} (hsends : warehouse.dryRun = false)
    (hstaging : destination.name.sibling name = staging) :
    Clears staging target (Waiting beginning name)
      (importStaged warehouse beginning command context destination options) := by
  apply Clears.bind (prelude_ofExcept _)
  intro layout _
  apply Clears.bind (layout.prelude_defineNew destination)
  intro defined hdefined
  apply Clears.bind (prelude_beginImport _)
  intro _ _
  rw [hstaging] at hdefined
  rw [hdefined]
  apply Staging.clears_afterwards hsends (steady_stageAndWrite _ _ _ _ _)
  intro session exchanges outcome after h exchange hmem hdrops
  have hkept : Every (stages warehouse context defined destination options)
      (Exchange.DropsOnly (· = (Writing.keyedCopy defined destination).target)) :=
    stages_drops rfl
  have hdropped := hkept (follows_stageAndWrite _ _ _ _ _ h).1 exchange hmem _ hdrops
  rw [← hdefined] at hdropped
  exact Writing.kept_ne_staging _ _ hdropped.symm

/-- Rows that do not go straight into the destination leave the staging table cleared. -/
theorem clears_moveRows {base : TableDefinition} (hsends : warehouse.dryRun = false)
    (hstaging : base.name.sibling name = staging) (hstaged : ¬ isDirect command options) :
    Clears staging target (Waiting beginning name)
      (moveRows warehouse beginning command context base expected options) := by
  apply Clears.bind (prelude_ofExcept _)
  intro destination hkeyed
  rw [if_neg hstaged]
  apply Clears.rethrow
  apply clears_importStaged hsends
  rw [(parts_of_keyed hkeyed).1]
  exact hstaging

/-- Settling a destination of rows is a prelude. -/
theorem prelude_resolve (hrows : command.options.importType.createsDestination = false)
    (existing : Option TableDefinition) :
    Prelude command.destination.label.tableName (Waiting beginning name)
      (Destination.resolve warehouse command.destination.label command.options expected
        options.stamped existing)
      (fun destination => Destination.settled command.destination.label command.options expected
        options.stamped existing = .ok destination)
      (Waiting beginning name) := by
  have hcreates : Every (Destination.creates warehouse command.destination.label command.options
      expected options.stamped existing) (Exchange.Idle command.destination.label.tableName) := by
    cases existing with
    | some definition => exact every_silent
    | none =>
      apply Every.skippedIf
      apply every_once
      intro exchange hcreated _
      obtain ⟨definition, hdefine, hstatement⟩ := hcreated
      rw [← (Destination.parts_of_define hdefine).1]
      exact ⟨_, _, hstatement⟩
  exact prelude_of_follows (Destination.follows_resolve hrows warehouse _ expected _ existing)
    hcreates (Destination.steady_resolve _ _ _ _ _ _) (Destination.returns_resolve _ _ _ _ _ _)

/-- The create mode of an import of rows is a prelude that leaves what is there. -/
theorem prelude_applyCreateMode (hrows : command.options.importType.createsDestination = false)
    (found : Option TableDefinition) :
    Prelude command.destination.label.tableName (Waiting beginning name)
      (Destination.applyCreateMode warehouse command.destination.label command.options found)
      (fun existing => existing = found) (Waiting beginning name) := by
  have hreplaces : Every (Destination.replaces warehouse command.destination.label command.options)
      (Exchange.Idle command.destination.label.tableName) := by
    rw [Destination.replaces, hrows, Bool.and_false]
    exact every_silent
  apply prelude_of_follows (Destination.follows_applyCreateMode _ _ _ _) hreplaces
    (Destination.steady_applyCreateMode _ _ _ _)
  intro session exchanges existing after h
  have hkept := Destination.returns_applyCreateMode _ _ _ _ h
  rw [hrows] at hkept
  exact hkept.resolve_right (by simp)

/-- Finding the source is a prelude. -/
theorem prelude_resolveSource (request : SourceRequest) :
    Prelude target (Waiting beginning name)
      (Action.step "resolveSource" false (SourceContext.resolve request)) (fun _ => True)
      (Waiting beginning name) :=
  prelude_of_follows ((SourceContext.follows_resolve request).step _ _) (describes_idle _)
    ((SourceContext.steady_resolve request).step _ _) (fun _ _ _ _ _ => trivial)

/-- A full import through a staging table leaves it cleared. -/
theorem clears_importRows {existing : Option TableDefinition} (hsends : warehouse.dryRun = false)
    (hrows : command.options.importType.createsDestination = false)
    (hexisting : ∀ definition, existing = some definition →
      definition.name = command.destination.label.tableName)
    (hstaged : ¬ isDirect command options) :
    Clears (command.destination.label.tableName.sibling name) command.destination.label.tableName
      (Waiting beginning name)
      (importRows warehouse beginning command context expected existing options) := by
  have hmoves : Clears (command.destination.label.tableName.sibling name)
      command.destination.label.tableName (Waiting beginning name) (do
        let destination ← Destination.resolve warehouse command.destination.label command.options
          expected options.stamped existing
        moveRows warehouse beginning command context destination expected options) := by
    apply Clears.bind (prelude_resolve hrows existing)
    intro destination hsettled
    apply clears_moveRows hsends _ hstaged
    rw [Destination.name_of_settled hexisting hsettled]
  unfold importRows
  split
  · exact Clears.bind (prelude_ofExcept _) fun _ _ => hmoves
  · exact hmoves

/-- An import from a table through a staging table leaves it cleared. -/
theorem clears_run {features : List String} (hsends : warehouse.dryRun = false)
    (hstages : (ImportCommand.table command).Stages features) :
    Clears (command.destination.label.tableName.sibling name) command.destination.label.tableName
      (fun session => (session.drawName beginning).1 = name)
      (run warehouse beginning command features) := by
  obtain ⟨himport, hstaged⟩ := hstages
  have hrows : command.options.importType.createsDestination = false := by
    rw [himport]
    rfl
  apply Clears.bind (prelude_say _)
  intro _ _
  apply Clears.bind (prelude_resolveSource _)
  intro context _
  apply Clears.bind (prelude_ofExcept _)
  intro expected _
  apply Clears.bind (Warehouse.prelude_lookUp _)
  intro found hfound
  apply Clears.bind (prelude_applyCreateMode hrows found)
  rintro _ rfl
  apply Clears.bind_coda
  · unfold perform
    rw [himport]
    exact clears_importRows hsends hrows hfound hstaged
  · intro result
    exact (coda_ofExcept _).bind fun target => ImportResponse.coda_build target result

end FromTable

namespace FromFile

variable {warehouse : Warehouse} {beginning name : String} {credentials : Credentials}
  {command : FileCommand} {staging target : TableName}

/-- Opening a manifest drops nothing. -/
theorem opens_drops {tables : TableName → Prop} :
    Every Filling.opens (Exchange.DropsOnly tables) := by
  refine every_silent.either (every_once fun exchange hopened => ?_)
  obtain ⟨uri, token, answer, rfl⟩ := hopened
  exact Exchange.dropsOnly_of_no_statement rfl

/-- A load drops nothing. -/
theorem loads_drops {tables : TableName → Prop} (table : TableName) :
    Every (warehouse.loads table) (Exchange.DropsOnly tables) := by
  apply Every.skippedIf
  apply every_once
  intro exchange hloaded
  obtain ⟨request, timeout, answer, rfl, -⟩ := hloaded
  exact Exchange.dropsOnly_of_no_statement rfl

/-- Loading and writing drop the table of keys at most. -/
theorem stages_drops {tables : TableName → Prop} {staging destination : TableDefinition}
    (hkept : tables (Writing.keyedCopy staging destination).target) (mode : WriteMode)
    (options : TransferOptions) :
    Every (stages warehouse mode staging destination options) (Exchange.DropsOnly tables) := by
  refine Every.andThen (sends_drops fun table hdrops => hdrops.elim) ?_
  exact (opens_drops.andThen (loads_drops _)).andThen (writes_drops hkept mode options)

/-- Rows of files leave the staging table cleared. -/
theorem clears_moveRows {destination : TableDefinition} {options : TransferOptions}
    (hsends : warehouse.dryRun = false) (hstaging : destination.name.sibling name = staging) :
    Clears staging target (Waiting beginning name)
      (moveRows warehouse beginning credentials command destination options) := by
  apply Clears.bind (prelude_ofExcept _)
  intro _ _
  apply Clears.bind (prelude_ofExcept _)
  intro layout _
  apply Clears.bind (layout.prelude_defineNew destination)
  intro defined hdefined
  apply Clears.bind (prelude_beginImport _)
  intro _ _
  apply Clears.bind (prelude_ofExcept _)
  intro token _
  rw [hstaging] at hdefined
  rw [hdefined]
  apply Staging.clears_afterwards hsends
    ((steady_loadAndWrite _ _ _ _ _ _ _).tryCatch fun _ => steady_throw _)
  intro session exchanges outcome after h exchange hmem hdrops
  have hkept : Every (stages warehouse (mode command options) defined destination options)
      (Exchange.DropsOnly (· = (Writing.keyedCopy defined destination).target)) := by
    apply stages_drops
    rfl
  have hfollows := (follows_loadAndWrite warehouse command (mode command options) defined
    destination options token).rethrow reportedAs
  have hdropped := hkept (hfollows h).1 exchange hmem _ hdrops
  rw [← hdefined] at hdropped
  exact Writing.kept_ne_staging _ _ hdropped.symm

/-- An import of files leaves its staging table cleared. -/
theorem clears_run (hsends : warehouse.dryRun = false) :
    Clears (command.destination.label.tableName.sibling name) command.destination.label.tableName
      (fun session => (session.drawName beginning).1 = name)
      (run warehouse beginning credentials command) := by
  unfold run
  by_cases hdirectory : command.csv.sourceType = .directory
  · rw [if_pos hdirectory]
    apply Clears.bind (prelude_ofExcept (.error .directorySource))
    intro _ hnever
    cases hnever
  rw [if_neg hdirectory]
  apply Clears.bind (prelude_say _)
  intro _ _
  apply Clears.bind (prelude_ofExcept _)
  intro target htarget
  obtain rfl := TableLabel.eq_of_check htarget
  apply Clears.bind (Warehouse.prelude_definition _)
  intro found hfound
  cases found with
  | none => exact clears_throw _
  | some found =>
    apply Clears.bind (prelude_ofExcept _)
    intro destination hkeyed
    apply Clears.bind_coda
    · apply clears_moveRows hsends
      rw [(parts_of_keyed hkeyed).1, hfound found rfl]
    · intro result
      exact ImportResponse.coda_build _ result

end FromFile

namespace Handler

variable {handler : Handler} {config : Config} {credentials : Credentials}
  {command : ImportCommand} {features : List String} {options : RuntimeOptions}
  {session after : Session} {exchanges : List Exchange} {outcome : Except Failure ImportResponse}

/-- A connection is a prelude, and sends its statements. -/
theorem prelude_connect {beginning name : String} {target : TableName} :
    Prelude target (fun session => (session.drawName beginning).1 = name)
      (Warehouse.connect credentials config options) (fun warehouse => warehouse.dryRun = false)
      (fun session => (session.drawName beginning).1 = name) := by
  intro session exchanges outcome after h hname
  obtain ⟨hdrawn, hconnected⟩ := runs_connect h
  have hnext : (after.drawName beginning).1 = name := by
    rw [← hname]
    simp only [Session.drawName, hdrawn]
  rcases hconnected with ⟨rfl, hfailed⟩ | ⟨request, project, rfl, rfl⟩
  · refine ⟨by simp, fun warehouse hwarehouse => ?_⟩
    rw [hwarehouse] at hfailed
    cases hfailed
  · constructor
    · intro exchange hmem hsubmits
      rw [List.mem_singleton.mp hmem] at hsubmits
      rcases hsubmits with ⟨statement, hstatement⟩ | ⟨request, timeout, answer, heq⟩
      · cases hstatement
      · cases heq
    · intro warehouse hwarehouse
      rw [← Except.ok.inj hwarehouse]
      exact ⟨rfl, hnext⟩

/-- What a handler does between opening and closing its log file clears the staging table. -/
theorem clears_report {name : String} (hstages : command.Stages features) :
    Clears (command.label.tableName.sibling name) command.label.tableName
      (fun session => (session.drawName config.stagingNames).1 = name)
      (handler.report config credentials command features options) := by
  apply Clears.bind prelude_connect
  intro warehouse hsends
  apply Clears.bind_coda
  · unfold perform
    split
    · exact FromTable.clears_run hsends hstages
    · exact FromFile.clears_run hsends
    · exact clears_throw _
    · exact clears_throw _
  · intro response
    exact (coda_of_sure (quiet_logSteps _ _) (sure_logSteps _ _)).bind fun _ =>
      (coda_of_sure quiet_logMessages sure_logMessages).bind fun _ => coda_pure response

/-- A run drops its staging table last, or submits nothing but the creation of the destination. -/
theorem cleared_run (hstages : command.Stages features)
    (hrun : Runs (handler.run config credentials command features options) session exchanges outcome
      after) :
    (∀ exchange ∈ exchanges, exchange.Idle command.label.tableName) ∨
      DroppedLast ⟨command.label.schema, (session.drawName config.stagingNames).1⟩ exchanges := by
  rcases runs_reported hrun with ⟨rfl, -⟩ | ⟨opened, closing, hname, hreport⟩
  · exact .inl (by simp)
  exact ((clears_report hstages).cleared hreport hname).1

/-- Runs with the same answers to all but the drop of their staging table end in the same way. -/
theorem agrees_run (hstages : command.Stages features) {name : String} :
    Agrees (Call.IsDrop (command.label.tableName.sibling name))
      (fun session session' => session = session' ∧
        (session.drawName config.stagingNames).1 = name)
      (handler.run config credentials command features options) fun _ _ _ => True := by
  have hopens : Agrees (Call.IsDrop (command.label.tableName.sibling name))
      (fun session session' => session = session' ∧
        (session.drawName config.stagingNames).1 = name)
      (handler.openLog config) fun _ session session' => session = session' ∧
        (session.drawName config.stagingNames).1 = name := by
    apply agrees_of_not_ignored
    intro session exchanges outcome after h hname
    obtain ⟨rfl, hdrawn⟩ := quiet_openLog _ _ h
    refine ⟨by simp, fun _ _ => ?_⟩
    rw [← hname]
    simp only [Session.drawName, hdrawn]
  apply hopens.bind
  intro _ session session' exchanges others rest rest' outcome outcome' after after' h h' hsame halike
  obtain ⟨middle, hreport⟩ := runs_closing h
  obtain ⟨middle', hreport'⟩ := runs_closing h'
  obtain ⟨rfl, htail, -⟩ := (clears_report hstages).agrees hreport hreport' hsame halike
  exact ⟨rfl, htail, fun _ _ => trivial⟩

/-- Once a statement or load names the staging table, the table is dropped by one statement, behind
which nothing is submitted, however the run ends; and runs that get the same answers to everything
but that drop end in the same way. A creation of the destination does not count, since the name that
is drawn may be that of the destination. -/
theorem staging_dropped (hstages : command.Stages features)
    (hrun : Runs (handler.run config credentials command features options) session exchanges outcome
      after) :
    ((∃ exchange ∈ exchanges,
        exchange.Names ⟨command.label.schema, (session.drawName config.stagingNames).1⟩ ∧
          ¬ exchange.Creates command.label.tableName) →
      DroppedLast ⟨command.label.schema, (session.drawName config.stagingNames).1⟩ exchanges) ∧
    ∀ others outcome' after',
      Runs (handler.run config credentials command features options) session others outcome'
        after' →
      AnsweredAlike
        (Call.IsDrop ⟨command.label.schema, (session.drawName config.stagingNames).1⟩)
        exchanges others →
      outcome' = outcome := by
  constructor
  · intro hnamed
    obtain ⟨exchange, hmem, hnames, hcreates⟩ := hnamed
    rcases cleared_run hstages hrun with hidle | hdropped
    · exact absurd (hidle exchange hmem hnames.submits) hcreates
    · exact hdropped
  · intro others outcome' after' hother halike
    have hall : AnsweredAlike
        (Call.IsDrop ⟨command.label.schema, (session.drawName config.stagingNames).1⟩)
        (exchanges ++ []) (others ++ []) := by
      rw [List.append_nil, List.append_nil]
      exact halike
    obtain ⟨hsame, -, -⟩ := agrees_run hstages hrun hother ⟨rfl, rfl⟩ hall
    exact hsame.symm

/-- An outside that forbids the drop of one table and otherwise obliges. -/
def forbiddingDrop (table : TableName) (tables : TableName → Except Fault ReflectedTable)
    (before : List Call) (call : Call) : call.Answer :=
  match call with
  | .query (.drop .table target false) bindings timeout =>
    if target = table then .error (.refused ⟨.forbidden, "", []⟩)
    else Script.obliging tables before (.query (.drop .table target false) bindings timeout)
  | call => Script.obliging tables before call

/-- The exchanges of the command that keeps one row for each key, where its staging table cannot be
dropped. -/
def keyedImportForbidden : List Exchange :=
  (Handler.tables.run Config.plain Credentials.plain (.table keyedImport) [] {}).against
    Session.plain (forbiddingDrop
      ⟨"data", (Session.plain.drawName Config.plain.stagingNames).1⟩
      fun _ => .ok (ReflectedTable.ofNames ["a"] ["a"]))

/-- Such a run names its staging table, drops it last, and ends in the same way where the drop is
forbidden. -/
theorem staging_dropped_keyed :
    (∃ exchange ∈ keyedImportExchanges,
        exchange.Names ⟨"data", (Session.plain.drawName Config.plain.stagingNames).1⟩ ∧
          ¬ exchange.Creates ⟨"data", "report"⟩) ∧
      DroppedLast ⟨"data", (Session.plain.drawName Config.plain.stagingNames).1⟩
        keyedImportExchanges ∧
      ∃ outcome after outcome' after',
        Runs (Handler.tables.run Config.plain Credentials.plain (.table keyedImport) [] {})
          Session.plain keyedImportExchanges outcome after ∧
        Runs (Handler.tables.run Config.plain Credentials.plain (.table keyedImport) [] {})
          Session.plain keyedImportForbidden outcome' after' ∧
        outcome' = outcome := by
  have hstages : (ImportCommand.table keyedImport).Stages [] := ⟨rfl, by decide⟩
  obtain ⟨outcome, after, hrun⟩ := runs_against
    (Handler.tables.run Config.plain Credentials.plain (.table keyedImport) [] {}) Session.plain
    (Script.obliging fun _ => .ok (ReflectedTable.ofNames ["a"] ["a"]))
  obtain ⟨outcome', after', hrun'⟩ := runs_against
    (Handler.tables.run Config.plain Credentials.plain (.table keyedImport) [] {}) Session.plain
    (forbiddingDrop ⟨"data", (Session.plain.drawName Config.plain.stagingNames).1⟩
      fun _ => .ok (ReflectedTable.ofNames ["a"] ["a"]))
  have hnames : ∃ exchange ∈ keyedImportExchanges,
      exchange.Names ⟨"data", (Session.plain.drawName Config.plain.stagingNames).1⟩ ∧
        ¬ exchange.Creates ⟨"data", "report"⟩ := by
    refine ⟨_, List.mem_iff_getElem?.mpr ⟨3, rfl⟩, .inl ⟨_, rfl, [.text "CREATE TABLE "], _, rfl⟩, ?_⟩
    intro hcreates
    obtain ⟨columns, keys, hstatement⟩ := hcreates
    cases hstatement
  have halike : AnsweredAlike
      (Call.IsDrop ⟨"data", (Session.plain.drawName Config.plain.stagingNames).1⟩)
      keyedImportExchanges keyedImportForbidden := by
    apply Script.answeredAlike_exchanges
    intro before call hkept
    unfold forbiddingDrop
    split
    · next target bindings timeout =>
      have hother : target ≠
          ⟨"data", (Session.plain.drawName Config.plain.stagingNames).1⟩ := by
        intro heq
        rw [heq] at hkept
        exact hkept ⟨bindings, timeout, rfl⟩
      rw [if_neg hother]
    · rfl
  obtain ⟨hdropped, hends⟩ := staging_dropped hstages hrun
  exact ⟨hnames, hdropped hnames, outcome, after, outcome', after', hrun, hrun',
    hends _ _ _ hrun' halike⟩

end Handler

end WarehouseImport
