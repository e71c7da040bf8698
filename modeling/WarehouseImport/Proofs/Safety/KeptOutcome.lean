import WarehouseImport.Proofs.Safety.Deciding
import WarehouseImport.Proofs.Safety.KeptTable

/-!
# Imports that end as the drop of their table of keys

The staging table is dropped and what comes of that is forgotten. The table of keys is dropped in the
same place, but a failure of that drop is not: it ends the import, even where the statement that
writes the destination is done. Only if the table is missing, or the drop goes well, does the import
end as it would without the drop.
-/

namespace WarehouseImport

open WarehouseImport.Action Trace

namespace Writing

variable {warehouse : Warehouse} {mode : WriteMode} {staging destination : TableDefinition}
  {options : TransferOptions} {session after : Session} {exchanges : List Exchange}
  {kept : TableName}

/-- Writing from a table beside the destination drops nothing. -/
theorem sparing_writeFrom (kept : TableName) (source : String) :
    Sparing kept Session.Open (writeFrom warehouse mode staging destination options source)
      (fun _ => True) Session.Open :=
  sparing_of_follows (follows_writeFrom _ _ _ _ _ _) (writesFrom_drops _ _)
    (steady_writeFrom _ _ _ _ _ _)

/-- The table of keys is made without a drop, and its name is settled beforehand. -/
theorem sparing_deduplicate (kept : TableName) :
    Sparing kept Session.Open (deduplicate warehouse staging destination)
      (fun name => name = (keyedCopy staging destination).target) Session.Open := by
  have hsteady : Steady (deduplicate warehouse staging destination) :=
    (((steady_ofExcept _).bind fun _ => Warehouse.steady_run _ _).timed _).bind fun _ =>
      (sure_pure _).steady
  intro session exchanges outcome after h hopen
  obtain ⟨hspares, hended⟩ := sparing_of_follows (follows_deduplicate _ _ _)
    (sends_drops fun table hdrops => hdrops.elim) hsteady h hopen
  refine ⟨hspares, fun value hvalue => ⟨?_, (hended value hvalue).2⟩⟩
  rw [hvalue] at h
  exact returns_deduplicate _ _ _ h

/-- With an open log file the drop behind the writing is sent, and fails as its verdict says unless
the table is missing. -/
theorem runs_dropKept {outcome : Except Failure Unit} (hsends : warehouse.dryRun = false)
    (h : Runs (do let _ ← warehouse.drop .table kept true) session exchanges outcome after)
    (hopen : session.Open) :
    (∃ answer, exchanges = [⟨.query (.drop .table kept false) [] warehouse.timeout, answer⟩] ∧
      ∀ failure, outcome = .error failure ↔
        Warehouse.verdict answer = .error failure ∧ ¬ failure.IsMissing) ∧
      after.Open ∧ after.progress = session.progress := by
  have hsteady := Warehouse.steady_drop warehouse .table kept true
  have haside := Warehouse.aside_drop warehouse .table kept true
  rcases runs_bind.mp h with ⟨failure, rfl, hf⟩ | ⟨first, value, middle, last, rfl, hv, hl⟩
  · obtain ⟨answer, rfl, hverdict⟩ := Warehouse.runs_drop_of_open hsends hf hopen
    refine ⟨⟨answer, rfl, fun other => ?_⟩, hsteady hf hopen, haside hf⟩
    simpa using hverdict other
  · obtain ⟨answer, rfl, hverdict⟩ := Warehouse.runs_drop_of_open hsends hv hopen
    obtain ⟨rfl, rfl, rfl⟩ := runs_pure.mp hl
    refine ⟨⟨answer, rfl, fun other => ?_⟩, hsteady hv hopen, haside hv⟩
    simpa using hverdict other

/-- Writes the destination from the table of keys and drops that table. -/
def writeAndDrop (warehouse : Warehouse) (mode : WriteMode)
    (staging destination : TableDefinition) (options : TransferOptions) (kept : TableName) :
    Action Unit :=
  afterwards (writeFrom warehouse mode staging destination options kept.table) do
    let _ ← warehouse.drop .table kept true

/-- A failure of the drop takes the place of what the writing ended with. -/
theorem failed_writeAndDrop {outcome : Except Failure Unit} {exchange : Exchange}
    {failure : Failure} (hsends : warehouse.dryRun = false)
    (h : Runs (writeAndDrop warehouse mode staging destination options kept) session exchanges
      outcome after) (hopen : session.Open) (hmem : exchange ∈ exchanges)
    (hdrop : Call.IsDrop kept exchange.call) (hfails : exchange.Fails failure)
    (hthere : ¬ failure.IsMissing) : outcome = .error failure := by
  obtain ⟨first, result, middle, rest, cleaned, rfl, hr, hc, rfl⟩ := runs_afterwards.mp h
  obtain ⟨hspares, -⟩ := sparing_writeFrom kept kept.table hr hopen
  have hmiddle := steady_writeFrom _ _ _ _ _ _ hr hopen
  obtain ⟨⟨answer, rfl, hverdict⟩, -, -⟩ := runs_dropKept hsends hc hmiddle
  rcases List.mem_append.mp hmem with hmem | hmem
  · exact absurd hdrop (hspares exchange hmem)
  obtain rfl := List.mem_singleton.mp hmem
  obtain ⟨statement, bindings, timeout, given, hsame, hgiven⟩ := hfails
  cases hsame
  rw [(hverdict failure).mpr ⟨hgiven, hthere⟩]
  rfl

/-- Where the table is got rid of, writing and dropping ends as the writing does. -/
theorem agrees_writeAndDrop (hsends : warehouse.dryRun = false) :
    AgreesIf (Call.IsDrop kept) (Exchange.Rids kept)
      (fun session session' => session = session' ∧ session.Open)
      (writeAndDrop warehouse mode staging destination options kept)
      fun _ session session' =>
        session.Open ∧ session'.Open ∧ session.progress = session'.progress := by
  rintro session _ exchanges exchanges' rest others outcome outcome' after after' h h'
    ⟨rfl, hopen⟩ halike hclean hclean'
  obtain ⟨first, result, middle, _, cleaned, rfl, hr, hc, rfl⟩ := runs_afterwards.mp h
  obtain ⟨second, result', middle', _, cleaned', rfl, hr', hc', rfl⟩ := runs_afterwards.mp h'
  have hmiddle := steady_writeFrom _ _ _ _ _ _ hr hopen
  have hmiddle' := steady_writeFrom _ _ _ _ _ _ hr' hopen
  obtain ⟨⟨answer, rfl, hverdict⟩, hafter, hprogress⟩ := runs_dropKept hsends hc hmiddle
  obtain ⟨⟨answer', rfl, hverdict'⟩, hafter', hprogress'⟩ := runs_dropKept hsends hc' hmiddle'
  rw [List.append_assoc, List.append_assoc] at halike
  obtain ⟨-, hends, htail⟩ := Script.Runs.unique hr hr' halike
    (sparing_writeFrom kept kept.table hr hopen).1
  obtain ⟨rfl, rfl⟩ := Prod.mk.inj hends
  -- A drop that does not fail leaves the outcome of the writing.
  have hdropped {dropped : Except Failure Unit} {given : Except Fault Job}
      (hrids : Exchange.Rids kept
        ⟨.query (.drop .table kept false) [] warehouse.timeout, given⟩)
      (hgiven : ∀ failure, dropped = .error failure ↔
        Warehouse.verdict given = .error failure ∧ ¬ failure.IsMissing) : dropped = .ok () := by
    cases dropped with
    | ok value => rfl
    | error failure =>
      obtain ⟨hverdict, hthere⟩ := (hgiven failure).mp rfl
      exact absurd (hrids ⟨_, _, rfl⟩ failure ⟨_, _, _, _, rfl, hverdict⟩) hthere
  obtain rfl := hdropped (hclean _ (by simp)) hverdict
  obtain rfl := hdropped (hclean' _ (by simp)) hverdict'
  exact ⟨rfl, (htail rfl).2, fun _ _ => ⟨hafter, hafter', hprogress.trans hprogress'.symm⟩⟩

/-- What is left of an import behind its writing ends by what is recorded of it. -/
theorem agrees_result {ignored : Call → Prop} (columns : List String) :
    Agrees ignored
      (fun session session' =>
        session.Open ∧ session'.Open ∧ session.progress = session'.progress)
      (do
        Action.setColumns columns
        return (← Action.progress).result)
      fun _ session session' => session.Open ∧ session'.Open := by
  intro session session' exchanges exchanges' rest others outcome outcome' after after' h h'
    hrelated halike
  obtain ⟨hopen, hopen', hprogress⟩ := hrelated
  cases h
  cases h'
  refine ⟨?_, halike, fun _ _ => ⟨hopen.of_logs rfl, hopen'.of_logs rfl⟩⟩
  simp only [hprogress]

/-- A failure of the drop takes the place of what writing the destination ended with. -/
theorem failed_write {outcome : Except Failure Unit} {exchange : Exchange} {failure : Failure}
    (hsends : warehouse.dryRun = false) (hkept : (keyedCopy staging destination).target = kept)
    (h : Runs (write warehouse mode staging destination options) session exchanges outcome after)
    (hopen : session.Open) (hmem : exchange ∈ exchanges)
    (hdrop : Call.IsDrop kept exchange.call) (hfails : exchange.Fails failure)
    (hthere : ¬ failure.IsMissing) : outcome = .error failure := by
  unfold write at h
  split at h
  · exact absurd hdrop ((sparing_writeFrom kept staging.name.table h hopen).1 exchange hmem)
  rcases runs_bind.mp h with ⟨other, rfl, hf⟩ | ⟨first, name, middle, last, rfl, hv, hl⟩
  · exact absurd hdrop ((sparing_deduplicate kept hf hopen).1 exchange hmem)
  obtain ⟨hspares, hended⟩ := sparing_deduplicate kept hv hopen
  obtain ⟨hname, hmiddle⟩ := hended name rfl
  rw [hname, hkept] at hl
  rcases List.mem_append.mp hmem with hmem | hmem
  · exact absurd hdrop (hspares exchange hmem)
  · exact failed_writeAndDrop hsends hl hmiddle hmem hdrop hfails hthere

/-- Where the table of keys is got rid of, the destination is written as if it were not. -/
theorem agrees_write (hsends : warehouse.dryRun = false)
    (hkept : (keyedCopy staging destination).target = kept) :
    AgreesIf (Call.IsDrop kept) (Exchange.Rids kept)
      (fun session session' => session = session' ∧ session.Open)
      (write warehouse mode staging destination options)
      fun _ session session' =>
        session.Open ∧ session'.Open ∧ session.progress = session'.progress := by
  unfold write
  split
  · intro session session' first second rest others outcome outcome' after after' h h' hrelated
      halike hclean hclean'
    obtain ⟨hends, htail, hended⟩ := agrees_of_not_ignored
      (sparing_writeFrom kept staging.name.table) h h' hrelated halike
    refine ⟨hends, htail, fun value hvalue => ?_⟩
    obtain ⟨rfl, -, hopen⟩ := hended value hvalue
    exact ⟨hopen, hopen, rfl⟩
  · apply AgreesIf.bind (agrees_of_not_ignored (sparing_deduplicate kept)).if_clean
    intro name session session' first second rest others outcome outcome' after after' h h' hrelated
    obtain ⟨rfl, rfl, hopen⟩ := hrelated
    rw [hkept] at h h'
    exact agrees_writeAndDrop hsends h h' ⟨rfl, hopen⟩

/-- The drop of the table of keys decides the end of an import that is under way. -/
theorem decides_finish (hsends : warehouse.dryRun = false)
    (hkept : (keyedCopy staging destination).target = kept) :
    Decides kept Session.Open id (finish warehouse mode staging destination options) := by
  apply Decides.bind_prelude (prelude_ofExcept _)
  intro _ _
  have hquiet : Quiet (do
      Action.setColumns (stagedColumns staging)
      return (← Action.progress).result) :=
    (quiet_setColumns _).bind fun _ => quiet_progress.bind fun _ => quiet_pure _
  constructor
  · intro session exchanges outcome after h hopen exchange hmem hdrop failure hfails hthere
    rcases runs_bind.mp h with ⟨other, rfl, hf⟩ | ⟨first, ⟨⟩, middle, last, rfl, hv, hl⟩
    · cases failed_write hsends hkept hf hopen hmem hdrop hfails hthere
      rfl
    · obtain ⟨rfl, -⟩ := hquiet hl
      cases failed_write hsends hkept hv hopen (by simpa using hmem) hdrop hfails hthere
  · intro session exchanges outcome after h hopen _
    exact ((steady_write _ _ _ _ _).bind fun _ => (sure_result _).steady) h hopen
  · exact (agrees_write hsends hkept).bind fun _ => (agrees_result _).if_clean

end Writing

variable {warehouse : Warehouse} {kept target : TableName} {beginning name : String}

/-- The drop of the staging table behind a body leaves the decision. -/
theorem Staging.decides_afterwards {α : Type} {staging : TableName} {named : Failure → Failure}
    {body : Action α} (hsends : warehouse.dryRun = false) (hsteady : Steady body)
    (hother : staging ≠ kept) (hbody : Decides kept Session.Open named body) :
    Decides kept Session.Open named (afterwards body (remove warehouse staging)) where
  failed := by
    intro session exchanges outcome after h hopen exchange hmem hdrop failure hfails hthere
    obtain ⟨first, result, middle, rest, cleaned, rfl, hr, hc, rfl⟩ := runs_afterwards.mp h
    obtain ⟨⟨answer, rfl⟩, rfl, -⟩ := runs_remove hsends hc (hsteady hr hopen)
    rcases List.mem_append.mp hmem with hmem | hmem
    · rw [hbody.failed hr hopen exchange hmem hdrop failure hfails hthere]
      rfl
    · obtain rfl := List.mem_singleton.mp hmem
      obtain ⟨bindings, timeout, hcall⟩ := hdrop
      cases hcall
      exact absurd rfl hother
  opened := by
    intro session exchanges outcome after h hopen _
    obtain ⟨first, result, middle, rest, cleaned, rfl, hr, hc, -⟩ := runs_afterwards.mp h
    exact (runs_remove hsends hc (hsteady hr hopen)).2.2
  agrees := by
    rintro session _ exchanges exchanges' rest others outcome outcome' after after' h h'
      ⟨rfl, hopen⟩ halike hclean hclean'
    obtain ⟨first, result, middle, _, _, rfl, hr, hc, rfl⟩ := runs_afterwards.mp h
    obtain ⟨second, result', middle', _, _, rfl, hr', hc', rfl⟩ := runs_afterwards.mp h'
    obtain ⟨⟨answer, rfl⟩, rfl, hafter⟩ := runs_remove hsends hc (hsteady hr hopen)
    obtain ⟨⟨answer', rfl⟩, rfl, hafter'⟩ := runs_remove hsends hc' (hsteady hr' hopen)
    rw [List.append_assoc, List.append_assoc] at halike
    obtain ⟨rfl, htail, -⟩ := hbody.agrees hr hr' ⟨rfl, hopen⟩ halike
      (List.forall_mem_append.mp hclean).1 (List.forall_mem_append.mp hclean').1
    exact ⟨rfl, (htail rfl).2, fun _ _ => ⟨hafter, hafter'⟩⟩

namespace FromTable

variable {command : TableCommand} {context : SourceContext} {options : TransferOptions}
  {expected : ColumnCollection}

/-- The drop of the table of keys decides the filling and writing of tables. -/
theorem decides_stageAndWrite {staging destination : TableDefinition}
    (hsends : warehouse.dryRun = false)
    (hkept : (Writing.keyedCopy staging destination).target = kept) :
    Decides kept Session.Open id
      (stageAndWrite warehouse context staging destination options) := by
  have hfinish : Decides kept Session.Open id
      (Writing.finish warehouse .replace staging destination options) :=
    Writing.decides_finish hsends hkept
  unfold stageAndWrite
  split
  · exact Decides.bind (sparing_of_follows (Filling.follows_copy _ _ _) (copies_drops _ _)
      (Filling.steady_copy _ _ _)) fun _ _ => hfinish
  · apply Decides.bind (sparing_of_follows (Warehouse.follows_createTable _ _)
      (sends_drops fun table hdrops => hdrops.elim) (Warehouse.steady_createTable _ _))
    intro _ _
    exact Decides.bind (sparing_of_follows (Filling.follows_insert _ _ _ _ _) (inserts_drops _ _ _ _)
      (Filling.steady_insert _ _ _ _ _)) fun _ _ => hfinish

/-- The drop of the table of keys decides an import through a staging table. -/
theorem decides_importStaged {destination : TableDefinition} (hsends : warehouse.dryRun = false)
    (hkept : destination.name.sibling (name ++ Writing.dedupEnding) = kept) :
    Decides kept (Waiting beginning name) id
      (importStaged warehouse beginning command context destination options) := by
  apply Decides.bind_prelude (prelude_ofExcept _)
  intro layout _
  apply Decides.bind_prelude (layout.prelude_defineNew destination)
  intro defined hdefined
  apply Decides.bind_prelude (prelude_beginImport _)
  intro _ _
  have hnamed : (Writing.keyedCopy defined destination).target = kept := by
    rw [← hkept, Writing.keyedCopy, hdefined]
    rfl
  apply Staging.decides_afterwards hsends (steady_stageAndWrite _ _ _ _ _)
  · rw [← hnamed]
    exact (Writing.kept_ne_staging _ _).symm
  · exact decides_stageAndWrite hsends hnamed

/-- The drop of the table of keys decides how rows are moved, with its failure reported as that of
moving rows. -/
theorem decides_moveRows {base : TableDefinition} (hsends : warehouse.dryRun = false)
    (hkept : base.name.sibling (name ++ Writing.dedupEnding) = kept)
    (hstaged : ¬ isDirect command options) :
    Decides kept (Waiting beginning name) reportedAs
      (moveRows warehouse beginning command context base expected options) := by
  apply Decides.bind_prelude (prelude_ofExcept _)
  intro destination hkeyed
  rw [if_neg hstaged]
  apply (decides_importStaged hsends _).rethrow reportedAs
  rw [(parts_of_keyed hkeyed).1]
  exact hkept

/-- The drop of the table of keys decides a full import through a staging table. -/
theorem decides_importRows {existing : Option TableDefinition} (hsends : warehouse.dryRun = false)
    (hrows : command.options.importType.createsDestination = false)
    (hexisting : ∀ definition, existing = some definition →
      definition.name = command.destination.label.tableName)
    (hstaged : ¬ isDirect command options) :
    Decides (command.destination.label.tableName.sibling (name ++ Writing.dedupEnding))
      (Waiting beginning name) reportedAs
      (importRows warehouse beginning command context expected existing options) := by
  have hmoves : Decides (command.destination.label.tableName.sibling (name ++ Writing.dedupEnding))
      (Waiting beginning name) reportedAs (do
        let destination ← Destination.resolve warehouse command.destination.label command.options
          expected options.stamped existing
        moveRows warehouse beginning command context destination expected options) := by
    apply Decides.bind (prelude_resolve hrows existing).sparing
    intro destination hsettled
    apply decides_moveRows hsends _ hstaged
    rw [Destination.name_of_settled hexisting hsettled]
  unfold importRows
  split
  · exact Decides.bind_prelude (prelude_ofExcept _) fun _ _ => hmoves
  · exact hmoves

/-- The drop of the table of keys decides an import from a table that is staged. -/
theorem decides_run {features : List String} (hsends : warehouse.dryRun = false)
    (hstages : (ImportCommand.table command).Stages features) :
    Decides (command.destination.label.tableName.sibling (name ++ Writing.dedupEnding))
      (fun session => (session.drawName beginning).1 = name) reportedAs
      (run warehouse beginning command features) := by
  obtain ⟨himport, hstaged⟩ := hstages
  have hrows : command.options.importType.createsDestination = false := by
    rw [himport]
    rfl
  apply Decides.bind_prelude (prelude_say _)
  intro _ _
  apply Decides.bind_prelude (prelude_resolveSource _)
  intro context _
  apply Decides.bind_prelude (prelude_ofExcept _)
  intro expected _
  apply Decides.bind_prelude (Warehouse.prelude_lookUp _)
  intro found hfound
  apply Decides.bind (prelude_applyCreateMode hrows found).sparing
  rintro _ rfl
  apply Decides.bind_coda
  · unfold perform
    rw [himport]
    exact decides_importRows hsends hrows hfound hstaged
  · intro result
    exact (coda_ofExcept _).bind fun target => ImportResponse.coda_build target result

end FromTable

namespace FromFile

variable {credentials : Credentials} {command : FileCommand}

/-- The drop of the table of keys decides the loading and writing of tables, with its failure
reported as that of loading. -/
theorem decides_loadAndWrite {mode : WriteMode} {staging destination : TableDefinition}
    {options : TransferOptions} {token : Option Json} (hsends : warehouse.dryRun = false)
    (hkept : (Writing.keyedCopy staging destination).target = kept) :
    Decides kept Session.Open reportedAs
      (tryCatch (loadAndWrite warehouse command mode staging destination options token)
        fun failure => throw (reportedAs failure)) := by
  have hloads : Decides kept Session.Open id
      (loadAndWrite warehouse command mode staging destination options token) := by
    apply Decides.bind (sparing_of_follows (Warehouse.follows_createTable _ _)
      (sends_drops fun table hdrops => hdrops.elim) (Warehouse.steady_createTable _ _))
    intro _ _
    apply Decides.bind (sparing_of_follows (Filling.follows_load _ _ _ _ _ _)
      (opens_drops.andThen (loads_drops _)) (Filling.steady_load _ _ _ _ _ _))
    intro _ _
    exact Writing.decides_finish hsends hkept
  exact hloads.rethrow reportedAs

/-- The drop of the table of keys decides how rows of files are moved. -/
theorem decides_moveRows {destination : TableDefinition} {options : TransferOptions}
    (hsends : warehouse.dryRun = false)
    (hkept : destination.name.sibling (name ++ Writing.dedupEnding) = kept) :
    Decides kept (Waiting beginning name) reportedAs
      (moveRows warehouse beginning credentials command destination options) := by
  apply Decides.bind_prelude (prelude_ofExcept _)
  intro _ _
  apply Decides.bind_prelude (prelude_ofExcept _)
  intro layout _
  apply Decides.bind_prelude (layout.prelude_defineNew destination)
  intro defined hdefined
  apply Decides.bind_prelude (prelude_beginImport _)
  intro _ _
  apply Decides.bind_prelude (prelude_ofExcept _)
  intro token _
  have hnamed : (Writing.keyedCopy defined destination).target = kept := by
    rw [← hkept, Writing.keyedCopy, hdefined]
    rfl
  apply Staging.decides_afterwards hsends
    ((steady_loadAndWrite _ _ _ _ _ _ _).tryCatch fun _ => steady_throw _)
  · rw [← hnamed]
    exact (Writing.kept_ne_staging _ _).symm
  · exact decides_loadAndWrite hsends hnamed

/-- The drop of the table of keys decides an import of files. -/
theorem decides_run (hsends : warehouse.dryRun = false) :
    Decides (command.destination.label.tableName.sibling (name ++ Writing.dedupEnding))
      (fun session => (session.drawName beginning).1 = name) reportedAs
      (run warehouse beginning credentials command) := by
  unfold run
  by_cases hdirectory : command.csv.sourceType = .directory
  · rw [if_pos hdirectory]
    apply Decides.bind_prelude (prelude_ofExcept (.error .directorySource))
    intro _ hnever
    cases hnever
  rw [if_neg hdirectory]
  apply Decides.bind_prelude (prelude_say _)
  intro _ _
  apply Decides.bind_prelude (prelude_ofExcept _)
  intro target htarget
  obtain rfl := TableLabel.eq_of_check htarget
  apply Decides.bind_prelude (Warehouse.prelude_definition _)
  intro found hfound
  cases found with
  | none => exact decides_throw _
  | some found =>
    apply Decides.bind_prelude (prelude_ofExcept _)
    intro destination hkeyed
    apply Decides.bind_coda
    · apply decides_moveRows hsends
      rw [(parts_of_keyed hkeyed).1, hfound found rfl]
    · intro result
      exact ImportResponse.coda_build _ result

end FromFile

/-- What an import reports a failure of moving rows as. -/
def ImportCommand.reportedAs : ImportCommand → Failure → Failure
  | table _ => FromTable.reportedAs
  | files _ => FromFile.reportedAs

namespace Handler

variable {handler : Handler} {config : Config} {credentials : Credentials}
  {command : ImportCommand} {features : List String} {options : RuntimeOptions}
  {session after : Session} {exchanges : List Exchange} {outcome : Except Failure ImportResponse}

/-- The drop of the table of keys decides what a handler does between opening and closing its log
file. -/
theorem decides_report (hstages : command.Stages features) :
    Decides (command.label.tableName.sibling (name ++ Writing.dedupEnding))
      (fun session => (session.drawName config.stagingNames).1 = name) command.reportedAs
      (handler.report config credentials command features options) := by
  apply Decides.bind_prelude prelude_connect
  intro warehouse hsends
  apply Decides.bind_coda
  · unfold perform
    split
    · exact FromTable.decides_run hsends hstages
    · exact FromFile.decides_run hsends
    · exact decides_throw _
    · exact decides_throw _
  · intro response
    exact (coda_of_sure (quiet_logSteps _ _) (sure_logSteps _ _)).bind fun _ =>
      (coda_of_sure quiet_logMessages sure_logMessages).bind fun _ => coda_pure response

/-- Opening a log file is a prelude. -/
theorem prelude_openLog (target : TableName) :
    Prelude target (fun session => (session.drawName config.stagingNames).1 = name)
      (handler.openLog config) (fun _ => True)
      (fun session => (session.drawName config.stagingNames).1 = name) := by
  intro session exchanges outcome after h hname
  obtain ⟨rfl, hdrawn⟩ := quiet_openLog _ _ h
  refine ⟨by simp, fun _ _ => ⟨trivial, ?_⟩⟩
  rw [← hname]
  simp only [Session.drawName, hdrawn]

/-- A drop of the table of keys that fails ends the run. -/
theorem failed_run (hstages : command.Stages features)
    (hrun : Runs (handler.run config credentials command features options) session exchanges outcome
      after) {exchange : Exchange} (hmem : exchange ∈ exchanges)
    (hdrop : Call.IsDrop (command.label.tableName.sibling
      ((session.drawName config.stagingNames).1 ++ Writing.dedupEnding)) exchange.call)
    {failure : Failure} (hfails : exchange.Fails failure) (hthere : ¬ failure.IsMissing) :
    outcome = .error (command.reportedAs failure) := by
  rcases runs_reported hrun with ⟨rfl, -⟩ | ⟨opened, closing, hname, hreport⟩
  · cases hmem
  · exact (decides_report hstages).failed hreport hname exchange hmem hdrop failure hfails hthere

/-- Runs in which the table of keys is got rid of end in the same way. -/
theorem agreesIf_run (hstages : command.Stages features) :
    AgreesIf (Call.IsDrop (command.label.tableName.sibling (name ++ Writing.dedupEnding)))
      (Exchange.Rids (command.label.tableName.sibling (name ++ Writing.dedupEnding)))
      (fun session session' => session = session' ∧
        (session.drawName config.stagingNames).1 = name)
      (handler.run config credentials command features options) fun _ _ _ => True := by
  apply AgreesIf.bind
    (agrees_of_not_ignored (prelude_openLog command.label.tableName).sparing).if_clean
  intro _ session session' exchanges others rest rest' outcome outcome' after after' h h' hrelated
    halike hclean hclean'
  obtain ⟨rfl, -, hname⟩ := hrelated
  obtain ⟨middle, hreport⟩ := runs_closing h
  obtain ⟨middle', hreport'⟩ := runs_closing h'
  obtain ⟨rfl, htail, -⟩ :=
    (decides_report hstages).agrees hreport hreport' ⟨rfl, hname⟩ halike hclean hclean'
  exact ⟨rfl, htail, fun _ _ => trivial⟩

/-- A drop of the table of keys that fails, other than for want of the table, ends the import with
its failure, whatever the import had done by then. Two runs with the same answers to everything but
these drops end in the same way if in neither of them a drop fails so. -/
theorem kept_drop_decides (hstages : command.Stages features)
    (hrun : Runs (handler.run config credentials command features options) session exchanges outcome
      after) :
    (∀ exchange ∈ exchanges,
      Call.IsDrop ⟨command.label.schema,
        (session.drawName config.stagingNames).1 ++ Writing.dedupEnding⟩ exchange.call →
      ∀ failure, exchange.Fails failure → ¬ failure.IsMissing →
        outcome = .error (command.reportedAs failure)) ∧
    ∀ others outcome' after',
      Runs (handler.run config credentials command features options) session others outcome'
        after' →
      AnsweredAlike (Call.IsDrop ⟨command.label.schema,
        (session.drawName config.stagingNames).1 ++ Writing.dedupEnding⟩) exchanges others →
      (∀ exchange ∈ exchanges ++ others, exchange.Rids ⟨command.label.schema,
        (session.drawName config.stagingNames).1 ++ Writing.dedupEnding⟩) →
      outcome' = outcome := by
  constructor
  · intro exchange hmem hdrop failure hfails hthere
    exact failed_run hstages hrun hmem hdrop hfails hthere
  · intro others outcome' after' hother halike hclean
    obtain ⟨hclean, hclean'⟩ := List.forall_mem_append.mp hclean
    have hall : AnsweredAlike (Call.IsDrop ⟨command.label.schema,
        (session.drawName config.stagingNames).1 ++ Writing.dedupEnding⟩)
        (exchanges ++ []) (others ++ []) := by
      rw [List.append_nil, List.append_nil]
      exact halike
    exact (agreesIf_run hstages hrun hother ⟨rfl, rfl⟩ hall hclean hclean').1.symm

/-- An outside that refuses the drop of one table and otherwise obliges. -/
def refusingDrop (error : ApiError) (table : TableName)
    (tables : TableName → Except Fault ReflectedTable) (before : List Call) (call : Call) :
    call.Answer :=
  match call with
  | .query (.drop .table target false) bindings timeout =>
    if target = table then .error (.refused error)
    else Script.obliging tables before (.query (.drop .table target false) bindings timeout)
  | call => Script.obliging tables before call

/-- The table of keys of the command that keeps one row for each key. -/
def keyedImportKept : TableName :=
  ⟨"data", (Session.plain.drawName Config.plain.stagingNames).1 ++ Writing.dedupEnding⟩

/-- The exchanges of that command where the drop of its table of keys is refused. -/
def keyedImportRefused (kind : ApiErrorKind) : List Exchange :=
  (Handler.tables.run Config.plain Credentials.plain (.table keyedImport) [] {}).against
    Session.plain (refusingDrop ⟨kind, "", []⟩ keyedImportKept
      fun _ => .ok (ReflectedTable.ofNames ["a"] ["a"]))

/-- A drop that goes well gets rid of its table. -/
theorem rids_of_obliging {tables : TableName → Except Fault ReflectedTable} {before : List Call}
    {kept : TableName} {exchange : Exchange}
    (hanswer : exchange.answer = Script.obliging tables before exchange.call) :
    exchange.Rids kept := by
  rintro - failure ⟨statement, bindings, timeout, answer, rfl, hverdict⟩
  obtain rfl : answer = .ok ⟨"job", 0, .ok ⟨Warehouse.doneState, none, []⟩⟩ := hanswer
  cases hverdict

/-- A drop that finds no table gets rid of it. -/
theorem rids_of_refusing {tables : TableName → Except Fault ReflectedTable} {before : List Call}
    {kept : TableName} {exchange : Exchange}
    (hanswer : exchange.answer =
      refusingDrop ⟨.notFound, "", []⟩ kept tables before exchange.call) :
    exchange.Rids kept := by
  obtain ⟨call, answer⟩ := exchange
  rintro ⟨bindings, timeout, rfl⟩ failure ⟨_, _, _, given, hsame, hverdict⟩
  cases hsame
  obtain rfl : answer = if kept = kept then .error (.refused ⟨.notFound, "", []⟩) else _ := hanswer
  rw [if_pos rfl] at hverdict
  cases hverdict
  exact ⟨_, rfl, rfl⟩

/-- Where the drop of the table of keys is forbidden, an import that has written its destination
fails. Where that table is missing, the import ends as if it had been dropped. -/
theorem kept_drop_decides_keyed :
    (∃ outcome after,
      Runs (Handler.tables.run Config.plain Credentials.plain (.table keyedImport) [] {})
        Session.plain (keyedImportRefused .forbidden) outcome after ∧
      (∃ exchange ∈ keyedImportRefused .forbidden, exchange.writes?.isSome ∧ exchange.Done) ∧
      outcome = .error (FromTable.reportedAs (.backend ⟨.forbidden, "", []⟩))) ∧
    ∃ outcome after outcome' after',
      Runs (Handler.tables.run Config.plain Credentials.plain (.table keyedImport) [] {})
        Session.plain keyedImportExchanges outcome after ∧
      Runs (Handler.tables.run Config.plain Credentials.plain (.table keyedImport) [] {})
        Session.plain (keyedImportRefused .notFound) outcome' after' ∧
      outcome' = outcome := by
  have hstages : (ImportCommand.table keyedImport).Stages [] := ⟨rfl, by decide⟩
  have hruns (kind : ApiErrorKind) := runs_against
    (Handler.tables.run Config.plain Credentials.plain (.table keyedImport) [] {}) Session.plain
    (refusingDrop ⟨kind, "", []⟩ keyedImportKept
      fun _ => .ok (ReflectedTable.ofNames ["a"] ["a"]))
  constructor
  · obtain ⟨outcome, after, hrun⟩ := hruns .forbidden
    refine ⟨outcome, after, hrun, ⟨_, List.mem_iff_getElem?.mpr ⟨6, rfl⟩, rfl,
      _, _, rfl, rfl, rfl⟩, ?_⟩
    refine (kept_drop_decides hstages hrun).1
      ⟨.query (.drop .table keyedImportKept false) [] none, .error (.refused ⟨.forbidden, "", []⟩)⟩
      (List.mem_iff_getElem?.mpr ⟨7, rfl⟩) ⟨_, _, rfl⟩ _ ⟨_, _, _, _, rfl, rfl⟩ ?_
    rintro ⟨error, hsame, hkind⟩
    cases hsame
    cases hkind
  · obtain ⟨outcome, after, hrun⟩ := runs_against
      (Handler.tables.run Config.plain Credentials.plain (.table keyedImport) [] {}) Session.plain
      (Script.obliging fun _ => .ok (ReflectedTable.ofNames ["a"] ["a"]))
    obtain ⟨outcome', after', hrun'⟩ := hruns .notFound
    have halike : AnsweredAlike (Call.IsDrop keyedImportKept) keyedImportExchanges
        (keyedImportRefused .notFound) := by
      apply Script.answeredAlike_exchanges
      intro before call hother
      unfold refusingDrop
      split
      · next target bindings timeout =>
        rw [if_neg]
        intro heq
        rw [heq] at hother
        exact hother ⟨bindings, timeout, rfl⟩
      · rfl
    refine ⟨outcome, after, outcome', after', hrun, hrun',
      (kept_drop_decides hstages hrun).2 _ _ _ hrun' halike ?_⟩
    refine List.forall_mem_append.mpr ⟨fun exchange hmem => ?_, fun exchange hmem => ?_⟩
    · obtain ⟨earlier, hanswer⟩ := Script.answer_of_mem_exchanges hmem
      exact rids_of_obliging hanswer
    · obtain ⟨earlier, hanswer⟩ := Script.answer_of_mem_exchanges hmem
      exact rids_of_refusing hanswer

end Handler

end WarehouseImport
