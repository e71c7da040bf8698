import WarehouseImport.Proofs.Run.Every

/-!
# What an import drops

Drops come from three places: a create mode that replaces the destination of a view or a clone, the
cleanup of the table of keys, and the cleanup of the staging table. So nothing else is dropped,
whatever the warehouse answers.

Source and destination are never compared. A view or clone that replaces its own source therefore
drops it, and every other command leaves its source alone as long as the drawn names are new.
-/

namespace WarehouseImport

open WarehouseImport.Action Trace

namespace Statement

/-- The statement may drop a table or view: it is a drop of it, or a text that may be anything. -/
def MayDrop : Statement → TableName → Prop
  | drop _ target _, table => target = table
  | verbatim _, _ => True
  | _, _ => False

end Statement

namespace Exchange

/-- The exchange sends a statement that may drop a table or view. -/
def Drops (exchange : Exchange) (table : TableName) : Prop :=
  ∃ statement, exchange.statement? = some statement ∧ statement.MayDrop table

/-- Whatever the exchange may drop is one of some tables. -/
def DropsOnly (tables : TableName → Prop) (exchange : Exchange) : Prop :=
  ∀ table, exchange.Drops table → tables table

variable {tables : TableName → Prop} {exchange : Exchange} {statement : Statement}

/-- A statement drops what it says. -/
theorem dropsOnly_of_statement (h : exchange.statement? = some statement)
    (htables : ∀ table, statement.MayDrop table → tables table) : DropsOnly tables exchange := by
  rintro table ⟨sent, hsent, hdrops⟩
  obtain rfl := Option.some.inj (h.symm.trans hsent)
  exact htables table hdrops

/-- Other calls drop nothing. -/
theorem dropsOnly_of_no_statement (h : exchange.statement? = none) :
    DropsOnly tables exchange := by
  rintro table ⟨sent, hsent, -⟩
  rw [h] at hsent
  cases hsent

/-- A description drops nothing. -/
theorem dropsOnly_of_reflect {table : TableName} (h : exchange.call = .reflect table) :
    DropsOnly tables exchange := by
  obtain ⟨call, answer⟩ := exchange
  cases h
  exact dropsOnly_of_no_statement rfl

end Exchange

open Exchange

variable {warehouse : Warehouse} {tables : TableName → Prop}

/-- The trace of a description has no drop. -/
theorem describes_drops (table : TableName) :
    Every (Warehouse.describes table) (DropsOnly tables) :=
  every_describes fun _ => dropsOnly_of_reflect

/-- Counting rows drops nothing. -/
theorem counts_drops (table : TableName) : Every (Warehouse.counts table) (DropsOnly tables) := by
  refine (describes_drops table).andThen (every_silent.either (every_once fun exchange h => ?_))
  exact dropsOnly_of_statement h fun table hdrops => hdrops.elim

/-- A statement drops what it says, whether it is sent or not. -/
theorem sends_drops {statement : Statement}
    (htables : ∀ table, statement.MayDrop table → tables table) :
    Every (warehouse.sends statement) (DropsOnly tables) :=
  every_sends fun _ h => dropsOnly_of_statement h htables

/-- An insertion drops nothing. -/
theorem inserts_drops (source : Source) (target : TableName) (columns : List String)
    (options : TransferOptions) :
    Every (Filling.inserts warehouse source target columns options) (DropsOnly tables) := by
  refine (every_once fun exchange h => ?_).skippedIf _
  obtain ⟨select, -, hstatement⟩ := h
  exact dropsOnly_of_statement hstatement fun table hdrops => hdrops.elim

/-- A copy drops nothing. -/
theorem copies_drops (source : Source) (staging : TableName) :
    Every (Filling.copies warehouse source staging) (DropsOnly tables) := by
  refine ((every_once fun exchange h => ?_).skippedIf _).andThen (counts_drops staging)
  obtain ⟨name, columns, keys, -, hstatement⟩ := h
  exact dropsOnly_of_statement hstatement fun table hdrops => hdrops.elim

/-- The statement that writes the destination drops nothing. -/
theorem writesFrom_drops (mode : WriteMode) (insert : StagedInsert) :
    Every (Writing.writesFrom warehouse mode insert) (DropsOnly tables) := by
  refine (every_once fun exchange h => ?_).skippedIf _
  obtain ⟨written, hwritten, hstatement⟩ := h
  refine dropsOnly_of_statement hstatement fun table hdrops => ?_
  cases mode with
  | undecided => cases hwritten
  | _ =>
    cases hwritten
    exact hdrops.elim

/-- Writing the destination drops the table of keys at most. -/
theorem writes_drops {staging destination : TableDefinition}
    (hkept : tables (Writing.keyedCopy staging destination).target) (mode : WriteMode)
    (options : TransferOptions) :
    Every (Writing.writes warehouse mode staging destination options) (DropsOnly tables) := by
  unfold Writing.writes
  split
  · exact writesFrom_drops _ _
  · refine Every.andThen (sends_drops fun table hdrops => hdrops.elim) ?_
    refine (writesFrom_drops _ _).closedBy ?_
    refine (sends_drops fun table hdrops => ?_).attempt
    obtain rfl : _ = table := hdrops
    exact hkept

namespace FromTable

/-- The tables that an import may drop: its staging table, its table of keys, and a destination that
it replaces. -/
def MayDrop (command : TableCommand) (name : String) (table : TableName) : Prop :=
  table = ⟨command.destination.dataset, name⟩ ∨
    table = ⟨command.destination.dataset, name ++ Writing.dedupEnding⟩ ∨
    (table = command.destination.label.tableName ∧ command.options.createMode = some .replace ∧
      command.options.importType.createsDestination = true)

variable {command : TableCommand} {options : TransferOptions} {name : String}
  {exchanges : List Exchange} {finished : Bool}

/-- Filling and writing drop the table of keys at most. -/
theorem stages_drops {context : SourceContext} {staging destination : TableDefinition}
    (hkept : tables (Writing.keyedCopy staging destination).target) :
    Every (stages warehouse context staging destination options) (DropsOnly tables) := by
  have hwrites : Every (Writing.writes warehouse .replace staging destination options)
      (DropsOnly tables) := writes_drops hkept .replace options
  unfold stages
  split
  · exact (copies_drops _ _).andThen hwrites
  · refine Every.andThen (sends_drops fun table hdrops => hdrops.elim) ?_
    exact (inserts_drops _ _ _ _).andThen hwrites

/-- Filling, writing and cleaning up drop the staging table and the table of keys at most. -/
theorem stagesAndDrops_drops {context : SourceContext} {staging destination : TableDefinition}
    (hstaging : tables staging.name)
    (hkept : tables (Writing.keyedCopy staging destination).target) :
    Every (stagesAndDrops warehouse context staging destination options) (DropsOnly tables) := by
  refine (stages_drops hkept).closedBy (Every.attempt (sends_drops fun table hdrops => ?_))
  obtain rfl : _ = table := hdrops
  exact hstaging

/-- A full import drops its staging table and its table of keys at most. -/
theorem Fills.drops {context : SourceContext} {expected : ColumnCollection}
    {existing : Option TableDefinition}
    (hexisting : ∀ definition, existing = some definition →
      definition.name = command.destination.label.tableName)
    (h : Fills warehouse command context expected existing options name exchanges finished) :
    ∀ exchange ∈ exchanges, exchange.DropsOnly (MayDrop command name) := by
  have hcreates : Every (Destination.creates warehouse command.destination.label command.options
      expected options.stamped existing) (DropsOnly (MayDrop command name)) := by
    cases existing with
    | some definition => exact every_silent
    | none =>
      refine (every_once fun exchange h => ?_).skippedIf _
      obtain ⟨definition, -, hstatement⟩ := h
      exact dropsOnly_of_statement hstatement fun table hdrops => hdrops.elim
  rcases h with ⟨-, hallows⟩ | ⟨creating, moving, base, destination, rfl, hallows, hsettled, hkeyed,
    hmoves⟩
  · exact hcreates hallows
  intro exchange hmem
  rcases List.mem_append.mp hmem with hmem | hmem
  · exact hcreates hallows exchange hmem
  unfold Moves at hmoves
  split at hmoves
  · exact inserts_drops _ _ _ _ hmoves exchange hmem
  rcases hmoves with ⟨rfl, -⟩ | ⟨staging, hstages, hallows⟩
  · cases hmem
  have hnamed : staging.name = ⟨command.destination.dataset, name⟩ := by
    rw [hstages.parts.1, (parts_of_keyed hkeyed).1, Destination.name_of_settled hexisting hsettled]
    rfl
  refine stagesAndDrops_drops ?_ ?_ hallows exchange hmem
  · exact .inl hnamed
  · refine .inr (.inl ?_)
    rw [Writing.keyedCopy, hnamed]
    rfl

/-- Making a view drops nothing. -/
theorem views_drops : Every (views warehouse command) (DropsOnly tables) :=
  sends_drops fun _ hdrops => hdrops.elim

/-- Making a clone drops nothing, nor does the copy in its place. -/
theorem clones_drops : Every (clones warehouse command) (DropsOnly tables) := by
  refine Every.andThen (Every.attempt ?_) (every_silent.either (Every.andThen ?_ ?_))
  · exact sends_drops fun table hdrops => hdrops.elim
  · exact sends_drops fun table hdrops => hdrops.elim
  · exact (describes_drops _).andThen (counts_drops _)

/-- What the import type of a command asks for drops no other table. -/
theorem Performs.drops {context : SourceContext} {expected : ColumnCollection}
    {existing : Option TableDefinition}
    (hexisting : command.options.importType.createsDestination = false →
      ∀ definition, existing = some definition →
        definition.name = command.destination.label.tableName)
    (h : Performs warehouse command context expected existing options name exchanges finished) :
    ∀ exchange ∈ exchanges, exchange.DropsOnly (MayDrop command name) := by
  unfold Performs at h
  cases himport : command.options.importType with
  | incremental =>
    rw [himport] at h
    obtain rfl : exchanges = [] := h
    simp
  | view =>
    rw [himport] at h
    exact views_drops h
  | clone =>
    rw [himport] at h
    exact clones_drops h
  | full =>
    rw [himport] at h
    exact h.drops (hexisting (by rw [himport]; rfl))

/-- An import from a table drops no other table. -/
theorem Course.drops (h : Course warehouse command options name exchanges finished) :
    ∀ exchange ∈ exchanges, exchange.DropsOnly (MayDrop command name) := by
  have hreplaces : Every (Destination.replaces warehouse command.destination.label command.options)
      (DropsOnly (MayDrop command name)) := by
    unfold Destination.replaces
    split
    · next hreplaced =>
      simp only [Bool.and_eq_true, decide_eq_true_eq] at hreplaced
      have hdestination {kind : ObjectKind} :
          Every (warehouse.sends (.drop kind command.destination.label.tableName false))
            (DropsOnly (MayDrop command name)) := by
        refine sends_drops fun table hdrops => ?_
        obtain rfl : _ = table := hdrops
        exact .inr (.inr ⟨rfl, hreplaced⟩)
      refine every_silent.either ((describes_drops _).andThen (every_silent.either ?_))
      exact hdestination.attempt.either hdestination.attempt
    · exact every_silent
  exact Course.every (fun _ _ => dropsOnly_of_reflect) hreplaces
    (fun _ _ _ _ _ hexisting hperformed => Performs.drops hexisting hperformed) h

end FromTable

namespace Handler

variable {handler : Handler} {config : Config} {credentials : Credentials}
  {command : TableCommand} {features : List String} {options : RuntimeOptions}
  {session after : Session} {exchanges : List Exchange} {outcome : Except Failure ImportResponse}

/-- A run drops the staging table, the table of keys, and a destination that it replaces, but no
other table. -/
theorem drops_of_runs
    (hrun : Runs (handler.run config credentials (.table command) features options) session
      exchanges outcome after) :
    ∀ exchange ∈ exchanges,
      exchange.DropsOnly (FromTable.MayDrop command (session.drawName config.stagingNames).1) := by
  refine every_of_runs hrun (fun request project => ?_) fun _ _ _ hcourse => ?_
  · exact dropsOnly_of_no_statement rfl
  · exact FromTable.Course.drops hcourse

/-- The source of an import is never dropped, unless a view or a clone replaces its own source. The
drawn names of the staging table and of the table of keys are taken not to be that of the source. -/
theorem source_not_dropped
    (hrun : Runs (handler.run config credentials (.table command) features options) session
      exchanges outcome after)
    (hstaging : command.source.label.tableName ≠
      ⟨command.destination.dataset, (session.drawName config.stagingNames).1⟩)
    (hkept : command.source.label.tableName ≠
      ⟨command.destination.dataset,
        (session.drawName config.stagingNames).1 ++ Writing.dedupEnding⟩)
    (hother : ¬ (command.source.label = command.destination.label ∧
      command.options.createMode = some .replace ∧
      (command.options.importType = .view ∨ command.options.importType = .clone))) :
    ∀ exchange ∈ exchanges, ¬ exchange.Drops command.source.label.tableName := by
  intro exchange hmem hdrops
  rcases drops_of_runs hrun exchange hmem _ hdrops with h | h | ⟨hsame, hmode, hcreates⟩
  · exact hstaging h
  · exact hkept h
  · refine hother ⟨TableLabel.eq_of_tableName hsame, hmode, ?_⟩
    cases himport : command.options.importType with
    | view => exact .inl rfl
    | clone => exact .inr rfl
    | full => simp [himport, ImportType.createsDestination] at hcreates
    | incremental => simp [himport, ImportType.createsDestination] at hcreates

/-- A command that makes a view of a table in the place of another one, which it replaces. -/
def replacingView (source destination : String) : TableCommand where
  source := { dataset := "data", table := source }
  destination := ⟨"data", destination⟩
  options := { importType := .view, createMode := some .replace }

/-- The tables that are there when such a command is run. -/
def replacingViewTables : List TableName := [⟨"data", "sales"⟩, ⟨"data", "report"⟩]

/-- The exchanges of such a command. -/
def replacingViewExchanges (source destination : String) : List Exchange :=
  (Handler.tables.run Config.plain Credentials.plain (.table (replacingView source destination)) []
    {}).against Session.plain
      (Script.obliging ((ReflectedTable.ofNames ["a"] []).among replacingViewTables))

/-- They are those of a run. -/
theorem runs_replacingView (source destination : String) :
    ∃ outcome after,
      Runs (Handler.tables.run Config.plain Credentials.plain
        (.table (replacingView source destination)) [] {}) Session.plain
        (replacingViewExchanges source destination) outcome after :=
  runs_against _ _ _

/-- A view that replaces another table drops that table, and not its source. -/
theorem source_not_dropped_by_view :
    (∃ exchange ∈ replacingViewExchanges "sales" "report", exchange.Drops ⟨"data", "report"⟩) ∧
      ∀ exchange ∈ replacingViewExchanges "sales" "report", ¬ exchange.Drops ⟨"data", "sales"⟩ := by
  obtain ⟨outcome, after, hrun⟩ := runs_replacingView "sales" "report"
  refine ⟨⟨_, List.mem_iff_getElem?.mpr ⟨4, rfl⟩, .drop .table ⟨"data", "report"⟩ false, rfl, rfl⟩,
    source_not_dropped hrun (by decide) (by decide) (by decide)⟩

/-- A view that replaces its own source drops it, though the drawn names are new. -/
theorem view_in_place_drops_source :
    (∀ table ∈ replacingViewTables,
      table.table ≠ (Session.plain.drawName Config.plain.stagingNames).1 ∧
        table.table ≠
          (Session.plain.drawName Config.plain.stagingNames).1 ++ Writing.dedupEnding) ∧
      ∃ exchanges outcome after,
        Runs (Handler.tables.run Config.plain Credentials.plain
          (.table (replacingView "sales" "sales")) [] {}) Session.plain exchanges outcome after ∧
        ∃ exchange ∈ exchanges,
          exchange.Drops (replacingView "sales" "sales").source.label.tableName := by
  obtain ⟨outcome, after, hrun⟩ := runs_replacingView "sales" "sales"
  exact ⟨by decide, _, outcome, after, hrun, _, List.mem_iff_getElem?.mpr ⟨4, rfl⟩,
    .drop .table ⟨"data", "sales"⟩ false, rfl, rfl⟩

end Handler

end WarehouseImport
