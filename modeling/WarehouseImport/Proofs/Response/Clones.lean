import WarehouseImport.Proofs.Run.Every
import WarehouseImport.Proofs.Run.Opening
import WarehouseImport.Proofs.Run.Tally

/-!
# Clones that are refused

A source that cannot be cloned is copied by a query. Whether it is depends on the answer to the
statement that clones and on nothing else: the copy is submitted exactly where the service refuses
the clone with the words for such a source. This holds of every run, however it ends.

Neither statement is sent for another reason, so it is enough to follow the clone and to see that
the rest of a run sends neither.
-/

namespace WarehouseImport

open WarehouseImport.Action Trace

/-- Whether the statement makes a table with the rows of another one. -/
def Statement.duplicates : Statement → Bool
  | cloneTable .. | createTableAs .. => true
  | _ => false

namespace FromTable

/-- The exchange clones the source of a command, and the service refuses it with the words about a
source that cannot be cloned. -/
def RefusesClone (command : TableCommand) (exchange : Exchange) : Prop :=
  exchange.statement? = some (.cloneTable command.destination.label.tableName
    command.source.label.tableName) ∧
  ∃ error, exchange.Fails (.backend error) ∧ error.kind = .badRequest ∧
    Failure.mentions error.message cloneRefusal = true

/-- The copy by a query is submitted exactly if a clone of the source is refused. -/
def FallsBack (command : TableCommand) (exchanges : List Exchange) : Prop :=
  (∃ exchange ∈ exchanges, exchange.statement? = some
    (.createTableAs command.destination.label.tableName command.source.label.tableName)) ↔
  ∃ exchange ∈ exchanges, RefusesClone command exchange

variable {command : TableCommand} {warehouse : Warehouse} {source destination : TableName}
  {session after : Session} {before exchanges behind : List Exchange}

/-- A failure is a refusal of a clone by its kind and its words. -/
theorem isCloneRefusal_iff {failure : Failure} :
    isCloneRefusal failure = true ↔ ∃ error, failure = .backend error ∧
      error.kind = .badRequest ∧ Failure.mentions error.message cloneRefusal = true := by
  cases failure <;> simp [isCloneRefusal]

/-- What the verdict on a clone means: it was made, it has to be copied by a query, or it failed. -/
def cloned (verdict : Except Failure JobResult) : Except Failure Bool :=
  match verdict with
  | .ok _ => .ok true
  | .error failure =>
    if isCloneRefusal failure then .ok false else .error failure.asConflict

/-- The exchange that clones is refused where its verdict asks for a copy. -/
theorem refusesClone_iff {bindings : List Binding} {timeout : Option Int}
    {answer : Except Fault Job} :
    RefusesClone command ⟨.query (.cloneTable command.destination.label.tableName
        command.source.label.tableName) bindings timeout, answer⟩ ↔
      cloned (Warehouse.verdict answer) = .ok false := by
  constructor
  · rintro ⟨-, error, ⟨_, _, _, _, hexchange, hfails⟩, hkind, hwords⟩
    cases hexchange
    rw [hfails, cloned, if_pos (isCloneRefusal_iff.mpr ⟨error, rfl, hkind, hwords⟩)]
  · intro hcloned
    unfold cloned at hcloned
    split at hcloned
    · cases hcloned
    · next failure hfails =>
      split at hcloned
      · next hrefusal =>
        obtain ⟨error, rfl, hkind, hwords⟩ := isCloneRefusal_iff.mp hrefusal
        exact ⟨rfl, error, ⟨_, _, _, _, rfl, hfails⟩, hkind, hwords⟩
      · cases hcloned

/-- Exchanges around that send neither statement leave the fallback as it is. -/
theorem FallsBack.around (h : FallsBack command exchanges)
    (hbefore : ∀ exchange ∈ before, exchange.counts Statement.duplicates = false)
    (hbehind : ∀ exchange ∈ behind, exchange.counts Statement.duplicates = false) :
    FallsBack command (before ++ (exchanges ++ behind)) := by
  have hinside {statement : Statement} (hduplicates : statement.duplicates = true)
      {exchange : Exchange} (hsent : exchange.statement? = some statement)
      (hmem : exchange ∈ before ++ (exchanges ++ behind)) : exchange ∈ exchanges := by
    have hcounts := (Exchange.counts_of_statement hsent).trans hduplicates
    simp only [List.mem_append] at hmem
    rcases hmem with hmem | hmem | hmem
    · cases (hbefore exchange hmem).symm.trans hcounts
    · exact hmem
    · cases (hbehind exchange hmem).symm.trans hcounts
  constructor
  · rintro ⟨exchange, hmem, hcopies⟩
    obtain ⟨refused, hrefused, hrefuses⟩ := h.mp ⟨exchange, hinside rfl hcopies hmem, hcopies⟩
    exact ⟨refused, by simp [hrefused], hrefuses⟩
  · rintro ⟨refused, hmem, hrefuses⟩
    obtain ⟨exchange, hsent, hcopies⟩ := h.mpr ⟨refused, hinside rfl hrefuses.1 hmem, hrefuses⟩
    exact ⟨exchange, by simp [hsent], hcopies⟩

/-- So do exchanges in front. -/
theorem FallsBack.append_left (h : FallsBack command exchanges)
    (hbefore : ∀ exchange ∈ before, exchange.counts Statement.duplicates = false) :
    FallsBack command (before ++ exchanges) := by
  simpa using h.around hbefore (List.forall_mem_nil _)

/-- Where neither statement is sent there is nothing to fall back from. -/
theorem fallsBack_of_rests
    (h : ∀ exchange ∈ exchanges, exchange.counts Statement.duplicates = false) :
    FallsBack command exchanges := by
  have hnone : FallsBack command [] := by simp [FallsBack]
  simpa using hnone.append_left h

/-- A clone is made where its verdict is good. -/
theorem cloned_eq_true {verdict : Except Failure JobResult} (h : cloned verdict = .ok true) :
    ∃ brought, verdict = .ok brought := by
  unfold cloned at h
  split at h
  · next brought => exact ⟨brought, rfl⟩
  · split at h <;> cases h

/-- A clone is tried by one statement, whose verdict says how to go on. -/
theorem runs_tryClone {outcome : Except Failure Bool} (hsends : warehouse.dryRun = false)
    (h : Runs (tryClone warehouse source destination) session exchanges outcome after)
    (hopen : session.Open) :
    ∃ answer, exchanges = [⟨.query (.cloneTable destination source) [] warehouse.timeout, answer⟩] ∧
      outcome = cloned (Warehouse.verdict answer) ∧ after.Open := by
  rcases runs_tryCatch.mp h with ⟨value, rfl, hv⟩ | ⟨first, failure, caught, last, rfl, hf, hl⟩
  · obtain ⟨_, rows, ran, _, rfl, hruns, hreturn⟩ := runs_bind_ok hv
    obtain ⟨answer, rfl, hrows⟩ := Warehouse.runs_run_of_open hsends hruns hopen
    obtain ⟨result, hresult, -⟩ := map_eq_ok.mp hrows.symm
    obtain ⟨rfl, hvalue, rfl⟩ := runs_pure.mp hreturn
    refine ⟨answer, by simp, ?_, Warehouse.steady_run _ _ hruns hopen⟩
    rw [hvalue, hresult]
    rfl
  · have hfailed : Runs (warehouse.run (.cloneTable destination source)) session first
        (.error failure) caught := by
      rcases runs_bind.mp hf with ⟨other, hsame, hruns⟩ | ⟨_, _, _, _, -, -, hreturn⟩
      · rw [Except.error.inj hsame]
        exact hruns
      · cases (runs_pure.mp hreturn).2.1
    obtain ⟨answer, rfl, hanswer⟩ := Warehouse.runs_run_of_open hsends hfailed hopen
    have hverdict := map_eq_error.mp hanswer.symm
    have hcaught := Warehouse.steady_run _ _ hfailed hopen
    refine ⟨answer, ?_⟩
    rw [hverdict, cloned]
    split at hl
    · next hrefusal =>
      obtain ⟨⟨⟩, noted, hnoted, hreturn⟩ :=
        (sure_notice _ _).runs_bind (quiet_notice _ _) hl hcaught
      obtain ⟨rfl, rfl, rfl⟩ := runs_pure.mp hreturn
      rw [if_pos hrefusal]
      exact ⟨rfl, rfl, hnoted⟩
    · next hother =>
      obtain ⟨rfl, rfl, rfl⟩ := runs_throw.mp hl
      rw [if_neg hother]
      exact ⟨rfl, rfl, hcaught⟩

/-- A statement that creates an object ends as it does, but for the name of its failure. -/
theorem runs_creating {action : Action Int} {outcome : Except Failure Unit}
    (h : Runs (creating action) session exchanges outcome after) :
    ∃ ran, outcome = (ran.map fun _ => ()).mapError Failure.asConflict ∧
      Runs action session exchanges ran after := by
  obtain ⟨discarded, rfl, hdiscarded⟩ := runs_rethrow.mp h
  obtain ⟨ran, rfl, hruns⟩ := runs_map.mp hdiscarded
  exact ⟨ran, rfl, hruns⟩

/-- A copy by a query is submitted, and what it gives is read behind it. -/
theorem runs_copyByQuery {outcome : Except Failure ImportResult}
    (hsends : warehouse.dryRun = false)
    (h : Runs (copyByQuery warehouse source destination) session exchanges outcome after)
    (hopen : session.Open) :
    ∃ answer rest, exchanges =
        ⟨.query (.createTableAs destination source) [] warehouse.timeout, answer⟩ :: rest ∧
      (∀ exchange ∈ rest, exchange.counts Statement.duplicates = false) ∧
      ∀ result, outcome = .ok result → ∃ brought described found counting,
        Warehouse.verdict answer = .ok brought ∧
        rest = ⟨.reflect destination, described⟩ :: counting ∧
        Warehouse.defined destination described = .ok found ∧
        Warehouse.Counted destination counting result.rows ∧
        result.columns = (found.map TableDefinition.columnNames).getD [] := by
  have hcreating {created : Except Failure Unit} {first : List Exchange} {middle : Session}
      (hc : Runs (creating (warehouse.run (.createTableAs destination source))) session first
        created middle) :
      ∃ answer, first = [⟨.query (.createTableAs destination source) [] warehouse.timeout,
        answer⟩] ∧ (created.isOk = true → ∃ brought, Warehouse.verdict answer = .ok brought) := by
    obtain ⟨ran, rfl, hruns⟩ := runs_creating hc
    obtain ⟨answer, rfl, rfl⟩ := Warehouse.runs_run_of_open hsends hruns hopen
    refine ⟨answer, rfl, fun hok => ?_⟩
    cases hverdict : Warehouse.verdict answer with
    | ok brought => exact ⟨brought, rfl⟩
    | error failure =>
      rw [hverdict] at hok
      cases hok
  rcases runs_bind.mp h with ⟨failure, rfl, hf⟩ | ⟨first, ⟨⟩, middle, rest, rfl, hc, hreads⟩
  · obtain ⟨answer, rfl, -⟩ := hcreating hf
    exact ⟨answer, [], rfl, by simp, by simp⟩
  obtain ⟨answer, rfl, hbrought⟩ := hcreating hc
  obtain ⟨brought, hverdict⟩ := hbrought rfl
  have hrests : Rests Statement.duplicates
      ((Warehouse.describes destination).andThen (Warehouse.counts destination)) :=
    (rests_describes _).andThen (rests_counts rfl)
  have hfollows := (Warehouse.follows_definition destination).bind fun found =>
    (Warehouse.follows_rowCount warehouse destination).bind_quiet fun rows =>
      quiet_pure (⟨rows, (found.map TableDefinition.columnNames).getD [], [], []⟩ : ImportResult)
  refine ⟨answer, rest, rfl, hrests (hfollows hreads).1, ?_⟩
  rintro result rfl
  obtain ⟨_, found, _, _, rfl, hdefines, hcounts⟩ := runs_bind_ok hreads
  obtain ⟨described, rfl, hfound, rfl⟩ := Warehouse.runs_definition_of_answer hdefines
  obtain ⟨counting, rows, _, _, rfl, hrows, hreturn⟩ := runs_bind_ok hcounts
  obtain ⟨rfl, hresult, -⟩ := runs_pure.mp hreturn
  obtain rfl := Except.ok.inj hresult
  exact ⟨brought, described, found, counting, hverdict, by simp, hfound.symm,
    Warehouse.runs_rowCount_ok hrows, rfl⟩

/-- A clone or a copy by a query leaves the log file open. -/
theorem steady_clone (warehouse : Warehouse) (source destination : TableName) :
    Steady (clone warehouse source destination) := by
  have htry : Steady (tryClone warehouse source destination) := by
    refine ((Warehouse.steady_run _ _).bind fun _ => (sure_pure _).steady).tryCatch fun failure => ?_
    split
    · exact (sure_notice _ _).steady.bind fun _ => (sure_pure _).steady
    · exact steady_throw _
  refine htry.bind fun made => ?_
  split
  · exact (sure_pure _).steady
  · refine ((Warehouse.steady_run _ _).map.tryCatch fun _ => steady_throw _).bind fun _ => ?_
    exact (Warehouse.steady_definition _).bind fun _ =>
      (Warehouse.steady_rowCount _ _).bind fun _ => (sure_pure _).steady

/-- So does the step of it, with its checks. -/
theorem steady_cloneStep (warehouse : Warehouse) (command : TableCommand) : Steady (do
    clone warehouse (← Action.ofExcept command.source.label.check)
      (← Action.ofExcept command.destination.label.check)) :=
  (steady_ofExcept _).bind fun _ => (steady_ofExcept _).bind fun _ => steady_clone _ _ _

/-- A clone falls back exactly if it is refused. -/
theorem fallsBack_clone {outcome : Except Failure ImportResult} (hsends : warehouse.dryRun = false)
    (h : Runs (clone warehouse command.source.label.tableName command.destination.label.tableName)
      session exchanges outcome after) (hopen : session.Open) :
    FallsBack command exchanges := by
  -- A clone that is made or fails otherwise is the only exchange.
  have halone {answer : Except Fault Job} (hother : cloned (Warehouse.verdict answer) ≠ .ok false) :
      FallsBack command [⟨.query (.cloneTable command.destination.label.tableName
        command.source.label.tableName) [] warehouse.timeout, answer⟩] := by
    simp [FallsBack, Exchange.statement?, refusesClone_iff, hother]
  rcases runs_bind.mp h with ⟨failure, rfl, hf⟩ | ⟨first, made, tried, rest, rfl, htry, hrest⟩
  · obtain ⟨answer, rfl, hcloned, -⟩ := runs_tryClone hsends hf hopen
    exact halone (by simp [← hcloned])
  obtain ⟨answer, rfl, hcloned, htried⟩ := runs_tryClone hsends htry hopen
  cases made with
  | true =>
    obtain ⟨rfl, -, -⟩ := runs_pure.mp hrest
    exact halone (by simp [← hcloned])
  | false =>
    obtain ⟨copied, reading, rfl, -, -⟩ := runs_copyByQuery hsends hrest htried
    constructor
    · intro _
      exact ⟨_, List.mem_cons_self, refusesClone_iff.mpr hcloned.symm⟩
    · intro _
      exact ⟨_, List.mem_cons_of_mem _ List.mem_cons_self, rfl⟩

variable {context : SourceContext} {expected : ColumnCollection}
  {existing : Option TableDefinition} {options : TransferOptions} {name : String}
  {finished : Bool}

/-- An insertion neither clones nor copies by a query. -/
theorem rests_inserts (source : Source) (target : TableName) (columns : List String)
    (options : TransferOptions) :
    Rests Statement.duplicates (Filling.inserts warehouse source target columns options) := by
  refine (every_once fun exchange h => ?_).skippedIf _
  obtain ⟨select, -, hsent⟩ := h
  exact Exchange.counts_of_statement hsent

/-- Moving rows through a staging table neither clones nor copies by a query. -/
theorem rests_stagesAndDrops {staging target : TableDefinition} :
    Rests Statement.duplicates (stagesAndDrops warehouse context staging target options) := by
  have hwritten (insert : StagedInsert) :
      Rests Statement.duplicates (Writing.writesFrom warehouse .replace insert) := by
    refine (every_once fun exchange h => ?_).skippedIf _
    obtain ⟨written, hwritten, hsent⟩ := h
    cases hwritten
    exact Exchange.counts_of_statement hsent
  have hwrites : Rests Statement.duplicates
      (Writing.writes warehouse .replace staging target options) := by
    unfold Writing.writes
    split
    · exact hwritten _
    · exact (rests_sends rfl).andThen ((hwritten _).closedBy (Every.attempt (rests_sends rfl)))
  refine Every.closedBy ?_ (Every.attempt (rests_sends rfl))
  unfold stages
  split
  · refine Every.andThen (Every.andThen ?_ (rests_counts rfl)) hwrites
    refine (every_once fun exchange h => ?_).skippedIf _
    obtain ⟨_, _, _, -, hsent⟩ := h
    exact Exchange.counts_of_statement hsent
  · exact (rests_sends rfl).andThen ((rests_inserts _ _ _ _).andThen hwrites)

/-- What another import type asks for neither clones nor copies by a query. -/
theorem Performs.not_duplicates (himport : command.options.importType ≠ .clone)
    (h : Performs warehouse command context expected existing options name exchanges finished) :
    ∀ exchange ∈ exchanges, exchange.counts Statement.duplicates = false := by
  unfold Performs at h
  split at h
  · rw [h]
    simp
  · have hviews : Rests Statement.duplicates (views warehouse command) := rests_sends rfl
    exact hviews h
  · next hclone => exact (himport hclone).elim
  have hcreates : Rests Statement.duplicates (Destination.creates warehouse
      command.destination.label command.options expected options.stamped existing) := by
    cases existing with
    | some definition => exact every_silent
    | none =>
      refine (every_once fun exchange h => ?_).skippedIf _
      obtain ⟨definition, -, hsent⟩ := h
      exact Exchange.counts_of_statement hsent
  rcases h with ⟨-, hallows⟩ | ⟨creating, moving, base, target, rfl, hallows, -, -, hmoves⟩
  · exact hcreates hallows
  intro exchange hmem
  rcases List.mem_append.mp hmem with hmem | hmem
  · exact hcreates hallows exchange hmem
  unfold Moves at hmoves
  split at hmoves
  · exact rests_inserts _ _ _ _ hmoves exchange hmem
  · rcases hmoves with ⟨rfl, -⟩ | ⟨staging, -, hallows⟩
    · cases hmem
    · exact rests_stagesAndDrops hallows exchange hmem

variable {beginning : String}

/-- Whatever the import type asks for falls back exactly if a clone is refused. -/
theorem fallsBack_perform {outcome : Except Failure ImportResult}
    (hsends : warehouse.dryRun = false)
    (h : Runs (perform warehouse beginning command context expected existing options) session
      exchanges outcome after) (hopen : session.Open) : FallsBack command exchanges := by
  by_cases himport : command.options.importType = .clone
  · unfold perform at h
    rw [himport] at h
    obtain ⟨_, _, hbefore, hbody, -⟩ := runs_step_of_open (by decide) (steady_cloneStep _ _) h hopen
    rcases runs_ofExcept_bind.mp hbody with ⟨failure, -, rfl, -⟩ | ⟨source, hsource, h₁⟩
    · exact fallsBack_of_rests (by simp)
    rcases runs_ofExcept_bind.mp h₁ with ⟨failure, -, rfl, -⟩ | ⟨destination, hdestination, h₂⟩
    · exact fallsBack_of_rests (by simp)
    obtain rfl := TableLabel.eq_of_check hsource
    obtain rfl := TableLabel.eq_of_check hdestination
    exact fallsBack_clone hsends h₂ hbefore
  · exact fallsBack_of_rests (Performs.not_duplicates himport (runs_perform h))

/-- An import falls back exactly if its clone is refused. -/
theorem fallsBack_run {features : List String} {outcome : Except Failure ImportResponse}
    (hsends : warehouse.dryRun = false)
    (h : Runs (run warehouse beginning command features) session exchanges outcome after) :
    FallsBack command exchanges := by
  have hreplaces : Rests Statement.duplicates
      (Destination.replaces warehouse command.destination.label command.options) :=
    Destination.rests_replaces (fun _ _ _ => rfl) _ _ _
  rcases runs_opened h with
    ⟨hopens, -⟩ | ⟨first, second, applied, rest, context, expected, found, existing, opened, rfl,
      hdescribes, happlied, -, -, hopen, hrest⟩
  · have hrests : Rests Statement.duplicates (opens warehouse command) :=
      (rests_describes _).andThen ((rests_describes _).andThen hreplaces)
    exact fallsBack_of_rests (hrests hopens)
  obtain ⟨full, hfull, -⟩ := hdescribes.source
  have hopening : ∀ exchange ∈ first :: second :: applied,
      exchange.counts Statement.duplicates = false := by
    simp only [List.forall_mem_cons]
    exact ⟨Exchange.counts_of_reflect hfull.call_eq,
      Exchange.counts_of_reflect hdescribes.destination.call_eq, hreplaces happlied⟩
  rcases runs_bind.mp hrest with
    ⟨failure, rfl, hf⟩ | ⟨performed, result, behind, closing, rfl, hv, hbuild⟩
  · exact (fallsBack_perform hsends hf hopen).append_left hopening
  · exact (fallsBack_perform hsends hv hopen).around hopening
      (rests_describes _ (follows_build command result hbuild).1)

end FromTable

namespace Handler

/-- So does a run of a handler. -/
theorem fallsBack_of_runs {config : Config} {credentials : Credentials} {command : TableCommand}
    {features : List String} {options : RuntimeOptions} {session after : Session}
    {exchanges : List Exchange} {outcome : Except Failure ImportResponse}
    (h : Runs (Handler.tables.run config credentials (.table command) features options) session
      exchanges outcome after) : FromTable.FallsBack command exchanges := by
  rcases runs_connected h with
    ⟨rfl, -⟩ | ⟨request, project, performed, begun, given, ended, rfl, -, hperform, -⟩
  · exact FromTable.fallsBack_of_rests (by simp)
  have hran : FromTable.FallsBack command performed := FromTable.fallsBack_run rfl hperform
  have hconnect : ∀ exchange ∈ [(⟨.connect request, project⟩ : Exchange)],
      exchange.counts Statement.duplicates = false := by
    simp [Exchange.counts]
  exact hran.append_left hconnect

end Handler

end WarehouseImport
