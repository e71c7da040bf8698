import WarehouseImport.Proofs.Safety.Cleanup

/-!
# The end of the table of keys

Staged rows reach a destination with keys through a table of keys, which is dropped whether the
destination could be written or not. The program takes the table to exist only once the statement
that creates it has ended well. So a table that comes into being while its statement fails, or ends
in another state than done, is left behind.
-/

namespace WarehouseImport.Writing

open WarehouseImport.Action Trace

variable {warehouse : Warehouse} {mode : WriteMode} {staging destination : TableDefinition}
  {options : TransferOptions} {session after : Session} {exchanges : List Exchange}

/-- The exchange creates the table of keys of an import. -/
def CreatesKept (staging destination : TableDefinition) (exchange : Exchange) : Prop :=
  exchange.statement? = some (.createKeyedCopy (keyedCopy staging destination))

/-- The statement that writes the destination creates no table of keys. -/
theorem not_createsKept_of_statement {insert : StagedInsert} {written : Statement}
    {exchange : Exchange} (hwritten : statement mode insert = .ok written)
    (hsent : exchange.statement? = some written) : ¬ CreatesKept staging destination exchange := by
  intro hcreates
  obtain rfl := Option.some.inj (hsent.symm.trans hcreates)
  cases mode <;> cases hwritten

/-- Writing from a table beside the destination creates no table of keys. -/
theorem writesFrom_keeps (insert : StagedInsert) :
    Every (writesFrom warehouse mode insert) fun exchange =>
      ¬ CreatesKept staging destination exchange := by
  apply Every.skippedIf
  apply every_once
  rintro exchange ⟨written, hwritten, hsent⟩
  exact not_createsKept_of_statement hwritten hsent

/-- The table of keys is created by one statement, whose verdict decides whether its name is
known. -/
theorem runs_deduplicate {outcome : Except Failure TableName}
    (h : Runs (deduplicate warehouse staging destination) session exchanges outcome after) :
    exchanges = [] ∨
      ∃ create, exchanges = [create] ∧ CreatesKept staging destination create ∧
        warehouse.dryRun = false ∧ after.Open ∧ (outcome.isOk = true ↔ create.Done) := by
  have haside : Aside (do
      warehouse.run (← Action.ofExcept (Statement.keyedCopy (keyedCopy staging destination)))) :=
    (aside_ofExcept _).bind fun _ => Warehouse.aside_run _ _
  have hsteady : Steady (do
      warehouse.run (← Action.ofExcept (Statement.keyedCopy (keyedCopy staging destination)))) :=
    (steady_ofExcept _).bind fun _ => Warehouse.steady_run _ _
  obtain ⟨timed, middle, htimed, hended⟩ : ∃ timed middle,
      Runs (Action.timed dedupTimer do
        warehouse.run (← Action.ofExcept (Statement.keyedCopy (keyedCopy staging destination))))
        session exchanges timed middle ∧ timed.isOk = outcome.isOk ∧ after = middle := by
    rcases runs_bind.mp h with ⟨failure, rfl, hf⟩ | ⟨first, value, _, _, rfl, hv, hl⟩
    · exact ⟨_, after, hf, rfl, rfl⟩
    · obtain ⟨rfl, rfl, rfl⟩ := runs_pure.mp hl
      exact ⟨_, _, by simpa using hv, rfl, rfl⟩
  obtain ⟨hoks, rfl⟩ := hended
  rw [← hoks]
  rcases runs_timed haside htimed with ⟨rfl, -⟩ | ⟨before, behind, hrun, -, hbehind⟩
  · exact .inl rfl
  rcases runs_ofExcept_bind.mp hrun with ⟨failure, -, hnone, -⟩ | ⟨statement, hstatement, hsent⟩
  · exact .inl hnone
  by_cases hnone : exchanges = []
  · exact .inl hnone
  obtain ⟨hopen, hsends⟩ := Warehouse.open_of_runs_run hsent hnone
  obtain ⟨answer, rfl, hverdict⟩ := Warehouse.runs_run_of_open hsends hsent hopen
  refine .inr ⟨_, rfl, ?_, hsends, hbehind (hsteady hrun hopen), ?_⟩
  · unfold Statement.keyedCopy at hstatement
    split at hstatement
    · cases hstatement
    · cases hstatement
      rfl
  · rw [Warehouse.done_iff, hverdict]
    cases Warehouse.verdict answer with
    | ok result => exact ⟨fun _ => ⟨result, rfl⟩, fun _ => rfl⟩
    | error failure => exact ⟨fun hnever => (by cases hnever), fun ⟨_, hnever⟩ => (by cases hnever)⟩

/-- The destination is written from the table of keys, and the table is dropped behind that. -/
theorem runs_write_kept {kept : TableName} {outcome : Except Failure Unit}
    (hsends : warehouse.dryRun = false) (hopen : session.Open)
    (h : Runs (afterwards (writeFrom warehouse mode staging destination options kept.table) do
      let _ ← warehouse.drop .table kept true) session exchanges outcome after) :
    ∃ between drop, exchanges = between ++ [drop] ∧ Call.IsDrop kept drop.call := by
  obtain ⟨between, result, middle, rest, cleaned, rfl, hwritten, hcleaned, -⟩ :=
    runs_afterwards.mp h
  have hmiddle := steady_writeFrom _ _ _ _ _ _ hwritten hopen
  obtain ⟨dropped, last, hdropped, -, -⟩ := runs_bind_quiet (fun _ => quiet_pure _) hcleaned
  obtain ⟨answer, rfl, -⟩ := Warehouse.runs_drop_of_open hsends hdropped hmiddle
  exact ⟨between, _, rfl, _, _, rfl⟩

/-- Writing from the table of keys and dropping it creates none. -/
theorem write_kept_keeps {kept : TableName} {outcome : Except Failure Unit}
    (h : Runs (afterwards (writeFrom warehouse mode staging destination options kept.table) do
      let _ ← warehouse.drop .table kept true) session exchanges outcome after) :
    ∀ exchange ∈ exchanges, ¬ CreatesKept staging destination exchange := by
  have hdrops : Every (warehouse.sends (.drop .table kept false)) fun exchange =>
      ¬ CreatesKept staging destination exchange := by
    apply every_sends
    intro exchange hdrop hcreates
    cases hdrop.symm.trans hcreates
  have hfollows := (follows_writeFrom warehouse mode staging destination options
    kept.table).afterwards
    ((Warehouse.follows_drop warehouse .table kept true).bind_quiet fun _ => quiet_pure ())
  exact ((writesFrom_keeps _).closedBy hdrops.attempt) (hfollows h).1

/-- If the statement that creates the table of keys ends well, the table is dropped last, however
the import ends. If it does not, the import ends there and leaves the table, even where the
statement has created it. -/
theorem kept_dropped_if_done {outcome : Except Failure ImportResult} {create : Exchange}
    {earlier later : List Exchange}
    (hrun : Runs (finish warehouse mode staging destination options) session exchanges outcome
      after)
    (hsplit : exchanges = earlier ++ create :: later)
    (hcreates : CreatesKept staging destination create) :
    (create.Done → ∃ between drop, later = between ++ [drop] ∧
      Call.IsDrop (keyedCopy staging destination).target drop.call) ∧
    (¬ create.Done → later = [] ∧ outcome.isOk = false ∧
      ∀ exchange ∈ exchanges, ¬ exchange.Drops (keyedCopy staging destination).target) := by
  have hcreated : create ∈ exchanges := by simp [hsplit]
  rcases (quiet_ofExcept _).runs_bind hrun with ⟨rfl, -⟩ | ⟨_, begun, -, -, hfinished⟩
  · simp at hcreated
  obtain ⟨written, middle, hwritten, -, hends⟩ := runs_bind_quiet (fun _ =>
    (quiet_setColumns _).bind fun _ => quiet_progress.bind fun _ => quiet_pure _) hfinished
  unfold write at hwritten
  split at hwritten
  · exact absurd hcreates (writesFrom_keeps _ (follows_writeFrom _ _ _ _ _ _ hwritten).1 _ hcreated)
  rcases runs_bind.mp hwritten with
    ⟨failure, rfl, hf⟩ | ⟨first, kept, created, last, rfl, hkept, hlast⟩
  · rcases runs_deduplicate hf with rfl | ⟨only, rfl, honly, -, -, hdone⟩
    · simp at hcreated
    obtain ⟨rfl, rfl, rfl⟩ : earlier = [] ∧ create = only ∧ later = [] := by
      cases earlier with
      | nil => simpa [eq_comm] using hsplit
      | cons exchange rest => simp at hsplit
    refine ⟨fun hwell => ?_, fun _ => ⟨rfl, ?_, ?_⟩⟩
    · cases hdone.mpr hwell
    · cases outcome with
      | error failure => rfl
      | ok result => obtain ⟨value, hvalue⟩ := hends result rfl; cases hvalue
    · simp only [List.mem_singleton, forall_eq]
      rintro ⟨statement, hstatement, hdrops⟩
      obtain rfl := Option.some.inj (hstatement.symm.trans honly)
      exact hdrops
  · obtain rfl := returns_deduplicate _ _ _ hkept
    have hkeeps := write_kept_keeps hlast
    rcases runs_deduplicate hkept with rfl | ⟨only, rfl, honly, hsends, hopen, hdone⟩
    · exact absurd hcreates (hkeeps create (by simpa using hcreated))
    obtain ⟨rfl, rfl, rfl⟩ : earlier = [] ∧ create = only ∧ later = last := by
      cases earlier with
      | nil => simpa [eq_comm] using hsplit
      | cons exchange rest =>
        have hlater : create ∈ last := by
          simp only [List.cons_append, List.nil_append, List.cons.injEq] at hsplit
          simp [hsplit.2]
        exact absurd hcreates (hkeeps create hlater)
    exact ⟨fun _ => runs_write_kept hsends hopen hlast, fun hundone => absurd (hdone.mp rfl) hundone⟩

/-- A table of one text column, which is its key. -/
def keyedTable (table : String) : TableDefinition where
  name := ⟨"data", table⟩
  columns := ⟨[⟨"a", "STRING", none, .flag true, none, none⟩], by decide⟩
  primaryKeys := ["a"]
  temporary := false
  rows := none
  bytes := none
  keys_known := by decide

/-- An outside in which no job is done when it ends. -/
def unfinishing (before : List Call) (call : Call) : call.Answer :=
  match call with
  | .query .. => .ok ⟨"job", 0, .ok ⟨"RUNNING", none, []⟩⟩
  | call => Script.obliging (fun _ => .ok (ReflectedTable.ofNames ["a"] ["a"])) before call

/-- The exchanges of writing a keyed destination from a staging table, with an outside. -/
def keyedWriting (outside : List Call → (call : Call) → call.Answer) : List Exchange :=
  (finish ⟨"project", false, none⟩ .replace (keyedTable "staging") (keyedTable "report")
    (TransferOptions.ofImport {} [])).against Session.plain outside

/-- The statement that creates the table of keys there, with the state in which its job ends. -/
def keyedCreation (state : String) : Exchange :=
  ⟨.query (.createKeyedCopy (keyedCopy (keyedTable "staging") (keyedTable "report"))) [] none,
    .ok ⟨"job", 0, .ok ⟨state, none, []⟩⟩⟩

/-- Where jobs are done the table of keys is dropped last, and where they are not it is left. -/
theorem kept_dropped_if_done_keyed :
    (∃ later, keyedWriting (Script.obliging fun _ => .ok (ReflectedTable.ofNames ["a"] ["a"])) =
        keyedCreation Warehouse.doneState :: later ∧
      ∃ between drop, later = between ++ [drop] ∧
        Call.IsDrop ⟨"data", "staging_dedup"⟩ drop.call) ∧
    keyedWriting unfinishing = [keyedCreation "RUNNING"] ∧
      ∀ exchange ∈ keyedWriting unfinishing, ¬ exchange.Drops ⟨"data", "staging_dedup"⟩ := by
  have hcreates (state : String) :
      CreatesKept (keyedTable "staging") (keyedTable "report") (keyedCreation state) := rfl
  constructor
  · obtain ⟨outcome, after, hrun⟩ := runs_against
      (finish ⟨"project", false, none⟩ .replace (keyedTable "staging") (keyedTable "report")
        (TransferOptions.ofImport {} [])) Session.plain
      (Script.obliging fun _ => .ok (ReflectedTable.ofNames ["a"] ["a"]))
    have hdone : (keyedCreation Warehouse.doneState).Done := ⟨_, _, rfl, rfl, rfl⟩
    obtain ⟨later, hlater⟩ : ∃ later,
        keyedWriting (Script.obliging fun _ => .ok (ReflectedTable.ofNames ["a"] ["a"])) =
          [] ++ keyedCreation Warehouse.doneState :: later := ⟨_, rfl⟩
    exact ⟨later, hlater, (kept_dropped_if_done hrun hlater (hcreates _)).1 hdone⟩
  · obtain ⟨outcome, after, hrun⟩ := runs_against
      (finish ⟨"project", false, none⟩ .replace (keyedTable "staging") (keyedTable "report")
        (TransferOptions.ofImport {} [])) Session.plain unfinishing
    have hundone : ¬ (keyedCreation "RUNNING").Done := by
      rintro ⟨job, result, hjob, hresult, hstate⟩
      cases hjob
      cases hresult
      exact absurd hstate (by decide)
    have honly : keyedWriting unfinishing = [] ++ keyedCreation "RUNNING" :: [] := rfl
    exact ⟨honly, ((kept_dropped_if_done hrun honly (hcreates _)).2 hundone).2.2⟩

end WarehouseImport.Writing
