import WarehouseImport.Proofs.Routing.Descent
import WarehouseImport.Proofs.Routing.Outlines
import WarehouseImport.Proofs.Run.Ending

/-!
# Columns that are written

The columns that the insertions of a full import list, over every run that ends well. A direct import
lists the expected columns. A staged one lists them as well, but for the time column, which it leaves
to its own time; where the import is not stamped, nothing is written there.
-/

namespace WarehouseImport

open WarehouseImport.Action Exchange Trace
open WarehouseImport.Text

/-- The table and the columns that an insertion lists. -/
def Statement.inserts? : Statement → Option (TableName × List String)
  | insertSelect target columns _ => some (target, columns)
  | insertMapped target select _ => some (target, select.columnNames)
  | insertStaged insert => some (insert.target, insert.targets)
  | replaceContents insert => some (insert.target, insert.targets)
  | _ => none

/-- The tables and columns that the insertions among the exchanges list, in their order. -/
def Exchange.insertions (exchanges : List Exchange) : List (TableName × List String) :=
  exchanges.filterMap fun exchange => exchange.statement?.bind Statement.inserts?

/-- An insertion moves rows. -/
theorem Statement.movesRows_of_inserts {statement : Statement}
    (h : statement.inserts?.isSome = true) : statement.movesRows = true := by
  cases statement with
  | insertSelect target columns select => rfl
  | insertMapped target select cast => rfl
  | insertStaged insert => rfl
  | replaceContents insert => rfl
  | _ => cases h

/-- What builds nothing is no insertion. -/
theorem Statement.inserts?_of_builds {statement : Statement} (h : statement.builds = false) :
    statement.inserts? = none := by
  cases hinserts : statement.inserts? with
  | none => rfl
  | some insertion =>
    have hmoves : statement.movesRows = true := movesRows_of_inserts (by rw [hinserts]; rfl)
    rw [statement.builds_of_movesRows hmoves] at h
    cases h

/-- The insertions of a run that keeps all of a plan are those of the plan. -/
theorem Exchange.insertions_of_keeps {exchanges : List Exchange} {plan : List Statement}
    (h : Keeps Statement.builds exchanges plan true) :
    insertions exchanges = plan.filterMap Statement.inserts? := by
  rw [insertions, ← filterMap_sent fun _ => Statement.inserts?_of_builds, h.2 rfl,
    List.filterMap_map]
  rfl

/-- Staged rows are written by one insertion, which lists the staged columns but the time column,
and that one where the import is stamped. -/
theorem Writing.inserts_plan (staging destination : TableDefinition) (options : TransferOptions) :
    (plan staging destination options).filterMap Statement.inserts? =
      [(destination.name,
        stagedColumns staging ++ if options.stamped then [timestampColumn] else [])] := by
  have hwriting (source : String) :
      (Statement.replaceContents (insertion staging destination options source)).inserts? =
        some (destination.name,
          stagedColumns staging ++ if options.stamped then [timestampColumn] else []) := by
    unfold Statement.inserts? StagedInsert.targets insertion
    cases options.stamped <;> simp
  have hkeeping : (Statement.createKeyedCopy (keyedCopy staging destination)).inserts? = none := rfl
  unfold plan
  split
  · simp [hwriting]
  · simp [hwriting, hkeeping]

/-- Creating the destination inserts nothing. -/
theorem Destination.inserts_creation (existing : Option TableDefinition) (base : TableDefinition) :
    (creation existing base).filterMap Statement.inserts? = [] := by
  cases existing <;> rfl

/-- The expected columns that an import writes of its own accord: all of them where duplicates are
kept, and otherwise all but the time column. -/
def DedupType.written (type : DedupType) (expected : ColumnCollection) : List String :=
  match type with
  | .insertDuplicates => expected.names
  | .updateDuplicates => expected.names.filter fun name => lower name != timestampColumn

namespace FromTable

variable {command : TableCommand} {full destination staging : TableDefinition}
  {options : TransferOptions} {context : SourceContext} {expected : ColumnCollection}
  {existing : Option TableDefinition} {name : String} {outline way : List Statement}
  {first second : Exchange}

/-- A staging table takes along the expected columns but the time column. -/
theorem Stages.stagedColumns_eq
    (hcontext : SourceContext.ofDefinition command.source.request full = .ok context)
    (hexpected : ColumnMapping.expected context.effective command.source.mappings = .ok expected)
    (hnamed : destination.Named) (h : Stages command context destination name staging) :
    Writing.stagedColumns staging = DedupType.updateDuplicates.written expected := by
  rw [Writing.stagedColumns, h.names_eq hcontext,
    ← SourceContext.names_of_expected hcontext (h.routes_named hnamed hcontext) hexpected]
  rfl

/-- The insertions on a way fill the staging table, if there is one, and write the destination. -/
theorem Way.inserts (himport : command.options.importType = .full)
    (hunstamped : options.stamped = false)
    (hcontext : SourceContext.ofDefinition command.source.request full = .ok context)
    (hexpected : ColumnMapping.expected context.effective command.source.mappings = .ok expected)
    (hlabel : destination.name = command.destination.label.tableName) (hnamed : destination.Named)
    (h : Way command full context expected destination options name way) :
    ∃ staged, (∀ insertion ∈ staged, insertion.1 = ⟨command.destination.dataset, name⟩) ∧
      way.filterMap Statement.inserts? = staged ++
        [(command.destination.label.tableName, command.options.dedupType.written expected)] := by
  have hstraight : isDirect command options = (command.options.dedupType == .insertDuplicates) := by
    simp [isDirect, himport, hunstamped]
  have hwrites {staging : TableDefinition} (hstaged : isDirect command options = false)
      (hstages : Stages command context destination name staging) :
      (Writing.plan staging destination options).filterMap Statement.inserts? =
        [(command.destination.label.tableName, command.options.dedupType.written expected)] := by
    have hdedup : command.options.dedupType = .updateDuplicates := by
      cases hdedup : command.options.dedupType with
      | insertDuplicates =>
        rw [hstraight, hdedup] at hstaged
        cases hstaged
      | updateDuplicates => rfl
    rw [Writing.inserts_plan, hunstamped, hlabel, hdedup,
      hstages.stagedColumns_eq hcontext hexpected hnamed]
    simp
  cases h with
  | @direct select routes hdirect hsources hnames hcarries =>
    have hdedup : command.options.dedupType = .insertDuplicates := by
      rw [hstraight] at hdirect
      exact beq_iff_eq.mp hdirect
    have hlisted : select.columnNames = expected.names := by
      rw [MappedSelect.columnNames, hcarries.mappings, hnames]
    refine ⟨[], by simp, ?_⟩
    rw [hdedup, hlabel]
    simp [Statement.inserts?, hlisted, DedupType.written]
  | @staged staging select hstaged hstages hcarries =>
    refine ⟨[(staging.name, select.columnNames)], ?_, ?_⟩
    · simpa using hstages.name_eq hlabel
    · rw [← hwrites hstaged hstages]
      rfl
  | @copied staging hstaged hstages hcopy => exact ⟨[], by simp, hwrites hstaged hstages⟩

end FromTable

namespace Handler

variable {handler : Handler} {config : Config} {credentials : Credentials}
  {command : TableCommand} {features : List String} {options : RuntimeOptions}
  {session after : Session} {exchanges : List Exchange} {response : ImportResponse}

/-- A full import that ends well and is not stamped writes the expected columns of its destination
in one insertion behind those into its staging table. It lists them all where duplicates are kept,
and all but the time column where they are not. -/
theorem written_columns
    (hrun : Runs (handler.run config credentials (.table command) features options) session
      exchanges (.ok response) after)
    (himport : command.options.importType = .full)
    (hunstamped : (TransferOptions.ofImport command.options features).stamped = false) :
    ∃ first full context expected staged,
      exchanges[1]? = some first ∧
      first.Describes command.source.label.tableName (some full) ∧
      SourceContext.ofDefinition command.source.request full = .ok context ∧
      ColumnMapping.expected context.effective command.source.mappings = .ok expected ∧
      (∀ insertion ∈ staged, insertion.1 =
        ⟨command.destination.dataset, (session.drawName config.stagingNames).1⟩) ∧
      insertions exchanges = staged ++
        [(command.destination.label.tableName, command.options.dedupType.written expected)] := by
  rcases settled_of_runs hrun himport with ⟨hfailed, -⟩ | ⟨⟨settlement⟩⟩
  · cases hfailed
  have hexpected := settlement.hdescribes.expected
  obtain ⟨staged, hstaged, hinserts⟩ := settlement.hway.inserts himport hunstamped
    settlement.hcontext hexpected settlement.name_eq
    (settlement.hdescribes.named settlement.hsettled settlement.hkeyed)
  refine ⟨settlement.first, settlement.full, settlement.context, settlement.expected, staged,
    settlement.hfirst, settlement.hfull, settlement.hcontext, hexpected, hstaged, ?_⟩
  rw [insertions_of_keeps settlement.hkeeps, List.filterMap_append, Destination.inserts_creation,
    List.nil_append, hinserts]

/-- A command without mappings that keeps duplicates or not. -/
def timedImport (type : DedupType) : TableCommand where
  source := { dataset := "data", table := "sales" }
  destination := ⟨"data", "report"⟩
  options := { dedupType := type }

/-- What its tables look like, which have a time column. -/
def timedImportTables : TableName → Except Fault ReflectedTable :=
  fun _ => .ok (ReflectedTable.ofNames ["_timestamp", "b"] [])

/-- The exchanges of this command. -/
def timedImportExchanges (type : DedupType) : List Exchange :=
  (Handler.tables.connectAndPerform Config.plain Credentials.plain (.table (timedImport type)) []
    {}).against Session.plain (Script.obliging timedImportTables)

/-- The command has a run through these exchanges that ends well. -/
def TimedImportEnds (type : DedupType) : Prop :=
  ∃ response after, Runs (Handler.tables.run Config.plain Credentials.plain
    (.table (timedImport type)) [] {}) Session.plain (timedImportExchanges type) (.ok response) after

/-- It does, whether it keeps duplicates or not. -/
theorem timedImport_ends (type : DedupType) : TimedImportEnds type := by
  have hperformed := Script.runs_run (Script.obliging timedImportTables) []
    ((Handler.tables.connectAndPerform Config.plain Credentials.plain (.table (timedImport type)) []
      {}).run.run Session.plain)
  obtain ⟨response, after, hended, hlogs⟩ : ∃ response after, (Script.run
      (Script.obliging timedImportTables) [] ((Handler.tables.connectAndPerform Config.plain
        Credentials.plain (.table (timedImport type)) [] {}).run.run Session.plain)).1 =
          (.ok response, after) ∧ after.logs = [] := by
    cases type <;> exact ⟨_, _, rfl, rfl⟩
  rw [hended] at hperformed
  have hopen : after.Open := by simp [Session.Open, hlogs]
  obtain ⟨closed, hrun⟩ := exists_run rfl hperformed hopen
  exact ⟨response, closed, hrun⟩

/-- Such a run ends well and writes the expected columns but the time column. -/
theorem written_columns_timed :
    TimedImportEnds .updateDuplicates ∧
      (timedImport .updateDuplicates).options.importType = .full ∧
      (TransferOptions.ofImport (timedImport .updateDuplicates).options []).stamped = false ∧
      ∃ first full context expected staged,
        (timedImportExchanges .updateDuplicates)[1]? = some first ∧
        first.Describes ⟨"data", "sales"⟩ (some full) ∧
        SourceContext.ofDefinition (timedImport .updateDuplicates).source.request full =
          .ok context ∧
        ColumnMapping.expected context.effective
          (timedImport .updateDuplicates).source.mappings = .ok expected ∧
        insertions (timedImportExchanges .updateDuplicates) = staged ++
          [(⟨"data", "report"⟩, DedupType.updateDuplicates.written expected)] := by
  obtain ⟨response, after, hrun⟩ := timedImport_ends .updateDuplicates
  obtain ⟨first, full, context, expected, staged, hfirst, hfull, hcontext, hexpected, -, hinserts⟩ :=
    written_columns hrun rfl rfl
  exact ⟨⟨response, after, hrun⟩, rfl, rfl, first, full, context, expected, staged, hfirst, hfull,
    hcontext, hexpected, hinserts⟩

/-- The time column is expected of this destination. It is written where duplicates are kept, but not
where they are not, though both runs end well. -/
theorem time_column_not_written :
    TimedImportEnds .insertDuplicates ∧ TimedImportEnds .updateDuplicates ∧
      (∃ first full context expected,
        (timedImportExchanges .updateDuplicates)[1]? = some first ∧
        first.Describes ⟨"data", "sales"⟩ (some full) ∧
        SourceContext.ofDefinition (timedImport .updateDuplicates).source.request full =
          .ok context ∧
        ColumnMapping.expected context.effective
          (timedImport .updateDuplicates).source.mappings = .ok expected ∧
        expected.names = ["_timestamp", "b"]) ∧
      insertions (timedImportExchanges .insertDuplicates) =
        [(⟨"data", "report"⟩, ["_timestamp", "b"])] ∧
      insertions (timedImportExchanges .updateDuplicates) = [(⟨"data", "report"⟩, ["b"])] :=
  ⟨timedImport_ends _, timedImport_ends _,
    ⟨_, _, _, _, rfl, ⟨_, rfl, _, rfl, rfl⟩, rfl, rfl, rfl⟩, rfl, rfl⟩

end Handler

end WarehouseImport
