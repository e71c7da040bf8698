import WarehouseImport.Proofs.Routing.Copies
import WarehouseImport.Proofs.Routing.Typing

/-!
# Types of what is inserted

A full import whose destination is missing creates it with the types of its source, and a staging
table with those of the destination. Every value that it inserts then has the type of its column, on
whichever way, but for two: a cast to a text fits only a column that was a text before, and the time
of the import only a time column that no route brings another type to.
-/

namespace WarehouseImport

open WarehouseImport.Action Exchange Trace
open WarehouseImport.Text

namespace FromTable

variable {command : TableCommand} {full base destination staging : TableDefinition}
  {options : TransferOptions} {context : SourceContext} {expected : ColumnCollection}
  {stamped : Bool} {name : String} {way : List Statement}

/-- What the descriptions settle for a destination that is missing: how it is created, and with which
keys its rows are written. -/
structure Creates (command : TableCommand) (full : TableDefinition) (context : SourceContext)
    (expected : ColumnCollection) (stamped : Bool) (base destination : TableDefinition) : Prop where
  reads : SourceContext.ofDefinition command.source.request full = .ok context
  expects : ColumnMapping.expected context.effective command.source.mappings = .ok expected
  defines : Destination.settled command.destination.label command.options expected stamped none =
    .ok base
  keys : keyed command.options base = .ok destination
  named : destination.Named

/-- A route to an expected column ends at a column of the new destination that has the type of the
one where it begins. -/
theorem Creates.exists_column
    (h : Creates command full context expected stamped base destination)
    {routes : List ColumnMapping} (hsources : routes.map (·.source) = context.selected)
    (hnames : routes.map (·.destination) = expected.names) {route : ColumnMapping}
    (hroute : route ∈ routes) :
    ∃ column original, Column.named? base.columns.columns route.destination = some column ∧
      full.columns.get? route.source = some original ∧
      column.writtenType = original.writtenType := by
  obtain ⟨column, original, hcolumn, horiginal, hsame⟩ :=
    SourceContext.exists_of_expected h.reads h.expects hsources hnames hroute
  refine ⟨column, original, ?_, horiginal, hsame⟩
  rw [Column.named?_eq_get?]
  exact Destination.get?_of_define h.defines hcolumn

/-- A route that ends at the time column brings the type of an expected time column there. -/
theorem Creates.get?_time (h : Creates command full context expected stamped base destination)
    (hnames : (command.routes full).map (·.destination) = expected.names) {route : ColumnMapping}
    (hroute : route ∈ command.routes full) (hend : lower route.destination = timestampColumn) :
    ∃ column original, expected.get? timestampColumn = some column ∧
      full.columns.get? route.source = some original ∧ column.dataType = original.dataType := by
  obtain ⟨column, original, hcolumn, horiginal, hsame⟩ := SourceContext.exists_of_expected
    h.reads h.expects (SourceContext.selected_eq h.reads).symm hnames hroute
  obtain ⟨hmem, hname⟩ := ColumnCollection.mem_of_get? hcolumn
  have htime : lower column.name = lower timestampColumn := by
    rw [hname, hend]
    decide
  exact ⟨column, original, ColumnCollection.get?_of_lower_eq hmem htime, horiginal,
    Column.dataType_congr hsame⟩

/-- The time column of a new destination of a stamped import is a time exactly if all routes that end
there begin at one. -/
theorem Creates.exists_time (h : Creates command full context expected true base destination)
    (hnames : (command.routes full).map (·.destination) = expected.names) :
    ∃ column, Column.named? base.columns.columns timestampColumn = some column ∧
      (column.dataType = "TIMESTAMP" ↔ Origin.time.Fits full (command.routes full)) := by
  rw [Column.named?_eq_get?]
  cases hexpected : expected.get? timestampColumn with
  | none =>
    -- The column is added to those that are expected, and no route ends there.
    obtain ⟨column, hcolumn, htype⟩ := Destination.get?_time_of_define h.defines hexpected
    have hdata : column.dataType = "TIMESTAMP" := by
      rw [Column.dataType, htype]
      decide
    refine ⟨column, hcolumn, fun _ route hroute hend => ?_, fun _ => hdata⟩
    obtain ⟨found, original, hfound, -⟩ := h.get?_time hnames hroute hend
    rw [hexpected] at hfound
    cases hfound
  | some column =>
    refine ⟨column, Destination.get?_of_define h.defines hexpected, fun hdata route hroute hend => ?_,
      fun hfits => ?_⟩
    · obtain ⟨found, original, hfound, horiginal, hsame⟩ := h.get?_time hnames hroute hend
      obtain rfl := Option.some.inj (hexpected.symm.trans hfound)
      exact ⟨original, horiginal, hsame.symm.trans hdata⟩
    · obtain ⟨hmem, hname⟩ := ColumnCollection.mem_of_get? hexpected
      have hlisted : column.name ∈ (command.routes full).map (·.destination) := by
        rw [hnames]
        exact List.mem_map_of_mem hmem
      obtain ⟨route, hroute, hends⟩ := List.mem_map.mp hlisted
      have hend : lower route.destination = timestampColumn := by
        rw [hends, hname]
        decide
      obtain ⟨found, original, hfound, horiginal, hsame⟩ := h.get?_time hnames hroute hend
      obtain rfl := Option.some.inj (hexpected.symm.trans hfound)
      obtain ⟨other, hother, hdata⟩ := hfits route hroute hend
      obtain rfl := Option.some.inj (horiginal.symm.trans hother)
      exact hsame.trans hdata

/-- Where rows are staged for a new destination, the routes of the command lead to the expected
columns. -/
theorem Creates.names_eq (h : Creates command full context expected stamped base destination)
    (hstages : Stages command context destination name staging) :
    (command.routes full).map (·.destination) = expected.names :=
  (SourceContext.names_of_expected h.reads (hstages.routes_named h.named h.reads)
    h.expects).symm

/-- A route of the command ends at a staged column, whose type is that of the column of the new
destination and of the one where the route begins. -/
theorem Creates.exists_staged (h : Creates command full context expected stamped base destination)
    (hstages : Stages command context destination name staging) {route : ColumnMapping}
    (hroute : route ∈ command.routes full) :
    ∃ staged ∈ staging.columns.columns, staged.name = route.destination ∧
      ∃ column original, Column.named? base.columns.columns route.destination = some column ∧
        full.columns.get? route.source = some original ∧
        staged.writtenType = column.writtenType ∧ column.writtenType = original.writtenType := by
  obtain ⟨column, original, hcolumn, horiginal, hsame⟩ := h.exists_column
    (SourceContext.selected_eq h.reads).symm (h.names_eq hstages) hroute
  have hlisted : route.destination ∈ staging.columnNames := by
    rw [hstages.names_eq h.reads]
    exact List.mem_map_of_mem hroute
  obtain ⟨staged, hstaged, hname⟩ := List.mem_map.mp hlisted
  obtain ⟨nullable, hmade⟩ := hstages.exists_column hstaged
  have hfound : destination.columns.get? staged.name = some column := by
    rw [(parts_of_keyed h.keys).2.1, hname, ← Column.named?_eq_get?]
    exact hcolumn
  exact ⟨staged, hstaged, hname, column, original, hcolumn, horiginal,
    Staging.writtenType_of_column hmade hfound, hsame⟩

/-- On every way to a new destination the insertions are typed. -/
theorem Way.allTyped
    (h : Creates command full context expected options.stamped base destination)
    (hway : Way command full context expected destination options name way) :
    Statement.AllTyped full (command.routes full) (Destination.creation none base) way := by
  have hnamed : destination.name = base.name := (parts_of_keyed h.keys).1
  have hcreated : .createTable destination.name base.columns.columns base.primaryKeys ∈
      Destination.creation none base := by
    rw [hnamed]
    exact List.mem_singleton_self _
  have htime {staging : TableDefinition} (hstages : Stages command context destination name staging)
      (hstamped : options.stamped = true) :
      ∃ column, Column.named? base.columns.columns timestampColumn = some column ∧
        (column.dataType = "TIMESTAMP" ↔ Origin.time.Fits full (command.routes full)) := by
    rw [hstamped] at h
    exact h.exists_time (h.names_eq hstages)
  have hroute {staging : TableDefinition} (hstages : Stages command context destination name staging)
      {target : String} (hmem : target ∈ Writing.stagedColumns staging) :
      lower target ≠ timestampColumn ∧ ∃ route ∈ command.routes full, route.destination = target := by
    obtain ⟨hlisted, hkept⟩ := List.mem_filter.mp hmem
    rw [hstages.names_eq h.reads] at hlisted
    exact ⟨bne_iff_ne.mp hkept, List.mem_map.mp hlisted⟩
  cases hway with
  | @direct select routes hdirect hsources hnames hcarries =>
    refine ⟨fun _ => ?_, trivial⟩
    exact Statement.typed_mapped _ hcreated hcarries fun route hroute =>
      h.exists_column hsources hnames hroute
  | @staged staging select hstaged hstages hcarries =>
    refine ⟨fun hnone => (by cases hnone), fun _ => ?_, ?_⟩
    · apply Statement.typed_mapped _ List.mem_cons_self hcarries
      intro route hroute
      obtain ⟨staged, hstaged, hname, column, original, -, horiginal, hsame, hsame'⟩ :=
        h.exists_staged hstages hroute
      rw [← hname]
      exact ⟨staged, original, Column.named?_of_mem hstaged, horiginal, hsame.trans hsame'⟩
    · have hholds : Statement.createTable staging.name staging.columns.columns staging.primaryKeys ∈
          .insertMapped staging.name select (options.typing == .text) ::
            .createTable staging.name staging.columns.columns staging.primaryKeys ::
              Destination.creation none base :=
        List.mem_cons_of_mem _ List.mem_cons_self
      apply Statement.allTyped_plan hstages.parts.1
        (List.mem_cons_of_mem _ (List.mem_cons_of_mem _ hcreated)) (.created hholds) _
        (htime hstages)
      intro target hmem
      obtain ⟨-, route, hbegins, rfl⟩ := hroute hstages hmem
      obtain ⟨staged, hstaged, hname, column, original, hcolumn, -, hsame, -⟩ :=
        h.exists_staged hstages hbegins
      rw [← hname] at hcolumn ⊢
      exact ⟨column, staged, hcolumn, Column.named?_of_mem hstaged, hsame.symm⟩
  | @copied staging hstaged hstages hcopy =>
    -- The columns of the copy are the source's, whatever the staging table was to be created with.
    refine ⟨fun hnone => (by cases hnone), ?_⟩
    apply Statement.allTyped_plan hstages.parts.1 (List.mem_cons_of_mem _ hcreated)
      (.copied List.mem_cons_self .described) _ (htime hstages)
    intro target hmem
    obtain ⟨hother, route, hbegins, rfl⟩ := hroute hstages hmem
    obtain ⟨staged, hstaged, hname, column, original, hcolumn, -, hsame, -⟩ :=
      h.exists_staged hstages hbegins
    rw [← hname] at hcolumn hother ⊢
    obtain ⟨held, hheld, htype⟩ := exists_of_canCopy h.reads hcopy hstaged hother
    rw [← Column.named?_eq_get?] at hheld
    exact ⟨column, held, hcolumn, hheld, (htype.trans hsame).symm⟩

/-- So are all those of an import whose destination is missing. -/
theorem Settlement.allTyped {exchanges : List Exchange} {finished : Bool}
    (settlement : Settlement command options name exchanges finished)
    (hmissing : settlement.existing = none) :
    Statement.AllTyped settlement.full (command.routes settlement.full) []
      (Destination.creation settlement.existing settlement.base ++ settlement.way) := by
  have hsettled := settlement.hsettled
  have hdescribes := settlement.hdescribes
  rw [hmissing] at hsettled hdescribes ⊢
  have hcreates : Creates command settlement.full settlement.context settlement.expected
      options.stamped settlement.base settlement.destination :=
    ⟨settlement.hcontext, hdescribes.expected, hsettled, settlement.hkeyed,
      hdescribes.named hsettled settlement.hkeyed⟩
  exact ⟨fun hnone => (by cases hnone), settlement.hway.allTyped hcreates⟩

end FromTable

namespace Handler

variable {handler : Handler} {config : Config} {credentials : Credentials}
  {command : TableCommand} {features : List String} {options : RuntimeOptions}
  {session after : Session} {second inserting : Exchange} {exchanges : List Exchange}
  {outcome : Except Failure ImportResponse} {statement : Statement} {place : Nat}

/-- Every insertion of a full import whose destination is missing goes into a table that the run
created before. Each of its values has the type that its column was created with, exactly if it fits:
no cast to a text fits a column that was none before, nor the time a column of another type. -/
theorem inserted_types
    (hrun : Runs (handler.run config credentials (.table command) features options) session
      exchanges outcome after)
    (himport : command.options.importType = .full) (hsecond : exchanges[2]? = some second)
    (hmissing : second.Describes command.destination.label.tableName none)
    (hplace : exchanges[place]? = some inserting)
    (hsent : inserting.statement? = some statement)
    (hinserts : statement.inserts?.isSome = true) :
    ∃ first full, exchanges[1]? = some first ∧
      first.Describes command.source.label.tableName (some full) ∧
      statement.Typed full (command.routes full)
        ((exchanges.take place).filterMap Exchange.statement?) := by
  have hmoves : statement.movesRows = true := Statement.movesRows_of_inserts hinserts
  have hmoved : some statement ∈ moved exchanges := by
    rw [← hsent]
    exact mem_moved (List.mem_of_getElem? hplace) ((movesRows_of_statement hsent).trans hmoves)
  rcases settled_of_runs hrun himport with ⟨-, hnone⟩ | ⟨⟨settlement⟩⟩
  · rw [hnone] at hmoved
    cases hmoved
  have hdestination := settlement.hdescribes.destination
  rw [Option.some.inj (settlement.hsecond.symm.trans hsecond)] at hdestination
  have htyped := settlement.allTyped (hdestination.eq_none hmissing)
  obtain ⟨earlier, later, hplan, hearlier⟩ :=
    settlement.hkeeps.split hplace (statement.builds_of_movesRows hmoves) hsent
  rw [hplan] at htyped
  refine ⟨settlement.first, settlement.full, settlement.hfirst, settlement.hfull,
    (htyped.typed hinserts).mono ?_⟩
  intro other hother
  rw [List.append_nil, List.mem_reverse] at hother
  exact hearlier hother

/-- A command that imports as texts and keeps duplicates. -/
def countingImport : TableCommand where
  source := { dataset := "data", table := "sales" }
  destination := ⟨"data", "report"⟩
  options := { dedupType := .insertDuplicates, strategy := .stringTable }

/-- What its source looks like, which has one column of numbers. Its destination is missing. -/
def countingImportTables : TableName → Except Fault ReflectedTable :=
  ReflectedTable.among
    { kind := "TABLE", rows := some 0, bytes := some 0, primaryKeys := [],
      fields := [⟨some "a", some "INTEGER", "NULLABLE", none, none, none, none, [], .null⟩] }
    [⟨"data", "sales"⟩]

/-- The exchanges of this command. -/
def countingImportExchanges : List Exchange :=
  (Handler.tables.run Config.plain Credentials.plain (.table countingImport) [] {}).against
    Session.plain (Script.obliging countingImportTables)

/-- Such a run creates its destination with a column of numbers, and inserts a text into it. -/
theorem inserted_types_counting :
    ∃ second inserting statement first full,
      countingImport.options.importType = .full ∧ countingImportExchanges[2]? = some second ∧
      second.Describes ⟨"data", "report"⟩ none ∧
      countingImportExchanges[4]? = some inserting ∧ inserting.statement? = some statement ∧
      statement.inserts?.isSome = true ∧
      countingImportExchanges[1]? = some first ∧ first.Describes ⟨"data", "sales"⟩ (some full) ∧
      statement.assignments? = some [⟨"a", .text (.column "a")⟩] ∧
      ¬ (Origin.text (.column "a")).Fits full (countingImport.routes full) ∧
      statement.Typed full (countingImport.routes full)
        ((countingImportExchanges.take 4).filterMap Exchange.statement?) := by
  obtain ⟨outcome, after, hrun⟩ := runs_against
    (Handler.tables.run Config.plain Credentials.plain (.table countingImport) [] {}) Session.plain
    (Script.obliging countingImportTables)
  obtain ⟨second, hsecond, hmissing⟩ : ∃ second, countingImportExchanges[2]? = some second ∧
      second.Describes ⟨"data", "report"⟩ none := ⟨_, rfl, _, rfl, _, rfl, rfl⟩
  obtain ⟨inserting, statement, hplace, hsent, hinserts, hassigns⟩ : ∃ inserting statement,
      countingImportExchanges[4]? = some inserting ∧ inserting.statement? = some statement ∧
        statement.inserts?.isSome = true ∧
          statement.assignments? = some [⟨"a", .text (.column "a")⟩] := ⟨_, _, rfl, rfl, rfl, rfl⟩
  obtain ⟨first, full, hfirst, hfull, htyped⟩ :=
    inserted_types hrun rfl hsecond hmissing hplace hsent hinserts
  obtain ⟨described, numbers, original, hdescribed, hnumbers, horiginal, htype⟩ :
      ∃ described numbers original, countingImportExchanges[1]? = some described ∧
        described.Describes ⟨"data", "sales"⟩ (some numbers) ∧
        numbers.columns.get? "a" = some original ∧ original.dataType = "INT64" :=
    ⟨_, _, _, rfl, ⟨_, rfl, _, rfl, rfl⟩, rfl, rfl⟩
  obtain rfl := Option.some.inj (hfirst.symm.trans hdescribed)
  obtain rfl := hfull.definition_eq hnumbers
  refine ⟨second, inserting, statement, first, full, rfl, hsecond, hmissing, hplace, hsent, hinserts,
    hfirst, hfull, hassigns, ?_, htyped⟩
  intro hfits
  obtain ⟨other, hother, htext⟩ := hfits
  obtain rfl := Option.some.inj (horiginal.symm.trans hother)
  rw [htype] at htext
  exact absurd htext (by decide)

end Handler

end WarehouseImport
