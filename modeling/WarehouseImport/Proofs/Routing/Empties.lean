import WarehouseImport.Proofs.Routing.Copies
import WarehouseImport.Proofs.Routing.Descent

/-!
# Empty texts on their way

An import of texts is told of columns whose empty texts are to become null. Where rows are staged,
what is written to a column passes that conversion exactly if the column is among them, no matter
whether the staging table is filled or is a copy of the source. A direct import converts nothing,
whatever it is told.

A copy assigns nothing: its columns hold what the source's columns of their names hold.
-/

namespace WarehouseImport

open WarehouseImport.Action Exchange Trace
open WarehouseImport.Text

/-- Whether empty texts become null on the way to a value. -/
def Origin.emptied : Origin → Bool
  | column _ => false
  | text value => value.emptied
  | unlessEmpty _ => true
  | time => false

/-- Of the values that a staged import delivers, those for the columns that it is told of are
emptied. -/
theorem TransferOptions.emptied_passed {options : TransferOptions} {column : String} {value : Origin}
    (htyping : options.typing = .text) (hvalue : value.emptied = false) :
    (options.passed column value).emptied = true ↔
      ∃ name ∈ options.emptyToNull, lower name = lower column := by
  have htold : (NameIndex.ofNames options.emptyToNull).contains column = true ↔
      ∃ name ∈ options.emptyToNull, lower name = lower column := by
    rw [NameIndex.contains_ofNames, List.contains_iff_mem, List.mem_map]
  rw [← htold, passed]
  split
  · next hboth => simp [Origin.emptied, hboth.2]
  · next hneither =>
    have hnone : ¬ (NameIndex.ofNames options.emptyToNull).contains column = true :=
      fun hcontains => hneither ⟨htyping, hcontains⟩
    simp [hvalue, hnone]

namespace TableDefinition

/-- What the column of a table holds that has a name. -/
def originOf (definition : TableDefinition) (name : String) : Origin :=
  .column (((definition.columns.get? name).map Column.name).getD name)

/-- A column that a table has is found among all that it holds. -/
theorem through_same {definition : TableDefinition} {name : String}
    (h : definition.columns.contains name = true) :
    (Origin.column name).through (Assignment.same definition.columnNames) =
      some (definition.originOf name) := by
  obtain ⟨column, hcolumn⟩ := ColumnCollection.exists_get?_of_contains h
  have hfind := hcolumn
  rw [ColumnCollection.get?_eq_find?] at hfind
  rw [Origin.through, Assignment.same, columnNames, ColumnCollection.names, List.map_map,
    List.find?_map]
  simp only [Function.comp_def]
  rw [hfind, originOf, hcolumn]
  rfl

end TableDefinition

/-- The selected columns are columns of the source. -/
theorem SourceContext.contains_of_selected {request : SourceRequest} {full : TableDefinition}
    {context : SourceContext} {name : String} (h : ofDefinition request full = .ok context)
    (hmem : name ∈ context.selected) : full.columns.contains name = true := by
  have hrestrict := (parts_of_ofDefinition h).2.2.1
  exact ColumnCollection.contains_of_missing
    (TableDefinition.parts_of_restrict hrestrict (List.ne_nil_of_mem hmem)).2.1 hmem

/-- Whether a statement assigns values to columns that it lists. -/
def Statement.assigns (statement : Statement) : Bool := statement.assignments?.isSome

/-- A statement that assigns values moves rows. -/
theorem Statement.filter_assigns (statements : List Statement) :
    (statements.filter movesRows).filter assigns = statements.filter assigns := by
  rw [List.filter_filter]
  apply List.filter_congr
  intro statement _
  cases statement <;> rfl

/-- All statements by which staged rows are written assign values. -/
theorem Writing.filter_assigns (staging destination : TableDefinition)
    (options : TransferOptions) :
    (plan staging destination options).filter Statement.assigns =
      plan staging destination options := by
  unfold plan
  split <;> rfl

/-- What staged rows are delivered as is emptied in the columns that the import is told of. -/
theorem TransferOptions.emptied_delivered {options : TransferOptions} {routes : List ColumnMapping}
    {value : ColumnMapping → Origin} (htyping : options.typing = .text)
    (hvalue : ∀ route, (value route).emptied = false) :
    ∀ assignment ∈ options.delivered routes value, assignment.value ≠ .time →
      (assignment.value.emptied = true ↔
        ∃ name ∈ options.emptyToNull, lower name = lower assignment.target) := by
  intro assignment hmem htime
  rcases List.mem_append.mp hmem with hrouted | hstamped
  · obtain ⟨route, -, rfl⟩ := List.mem_map.mp hrouted
    exact emptied_passed htyping (hvalue route)
  · split at hstamped
    · rw [List.mem_singleton.mp hstamped] at htime
      exact absurd rfl htime
    · cases hstamped

namespace FromTable

variable {command : TableCommand} {full destination staging : TableDefinition}
  {options : TransferOptions} {context : SourceContext} {expected : ColumnCollection}
  {existing : Option TableDefinition} {name : String} {way : List Statement}

/-- In a copy of the source, the columns that a staging table takes along hold what the source's
columns of their names hold. -/
theorem fill_copied
    (hcontext : SourceContext.ofDefinition command.source.request full = .ok context)
    (hcopy : canCopy context staging = true) :
    Assignment.Fill (Assignment.same full.columnNames)
      (ColumnMapping.kept (staging.columnNames.map ColumnMapping.same)) fun route =>
        full.originOf route.destination := by
  intro route hroute
  obtain ⟨hmem, hkept⟩ := List.mem_filter.mp hroute
  obtain ⟨name, hname, rfl⟩ := List.mem_map.mp hmem
  obtain ⟨staged, hstaged, rfl⟩ := List.mem_map.mp hname
  obtain ⟨held, hheld, -⟩ := exists_of_canCopy hcontext hcopy hstaged (bne_iff_ne.mp hkept)
  exact TableDefinition.through_same (ColumnCollection.contains_of_get? hheld)

/-- What a way assigns to the destination is emptied in the columns that the import is told of, if
its rows are staged. -/
theorem Way.emptied (htyping : options.typing = .text)
    (hcontext : SourceContext.ofDefinition command.source.request full = .ok context)
    (h : Way command full context expected destination options name way) :
    ∃ assignments,
      Assignment.composeAll (Assignment.same full.columnNames) (way.filter Statement.assigns) =
        some assignments ∧
      ∀ assignment ∈ assignments, assignment.value ≠ .time →
        (assignment.value.emptied = true ↔ isDirect command options = false ∧
          ∃ name ∈ options.emptyToNull, lower name = lower assignment.target) := by
  have hcast : (options.typing == .text) = true := beq_iff_eq.mpr htyping
  have hselects {select : MappedSelect} {routes : List ColumnMapping}
      (hcarries : select.Carries full.name routes)
      (hsources : routes.map (·.source) = context.selected) :
      Assignment.compose (Assignment.same full.columnNames) (select.assignments true) =
        some (ColumnMapping.assignments routes fun route => .text (full.originOf route.source)) := by
    apply Assignment.compose_mapped true hcarries.mappings
    intro route hroute
    apply TableDefinition.through_same
    apply SourceContext.contains_of_selected hcontext
    rw [← hsources]
    exact List.mem_map_of_mem hroute
  have hdelivers {routes : List ColumnMapping} {value : ColumnMapping → Origin}
      (hstaged : isDirect command options = false) (hvalue : ∀ route, (value route).emptied = false) :
      ∀ assignment ∈ options.delivered routes value, assignment.value ≠ .time →
        (assignment.value.emptied = true ↔ isDirect command options = false ∧
          ∃ name ∈ options.emptyToNull, lower name = lower assignment.target) := by
    intro assignment hmem htime
    rw [TransferOptions.emptied_delivered htyping hvalue assignment hmem htime]
    simp [hstaged]
  cases h with
  | @direct select routes hdirect hsources hnames hcarries =>
    refine ⟨ColumnMapping.assignments routes fun route => .text (full.originOf route.source), ?_, ?_⟩
    · change (Assignment.compose _ (select.assignments (options.typing == .text))).bind _ = _
      rw [hcast, hselects hcarries hsources]
      rfl
    · intro assignment hmem htime
      obtain ⟨route, -, rfl⟩ := List.mem_map.mp hmem
      simp [hdirect, Origin.emptied, TableDefinition.originOf]
  | @staged staging select hstaged hstages hcarries =>
    have hnames := hstages.names_eq hcontext
    refine ⟨options.delivered (command.routes full) fun route =>
      .text (full.originOf route.source), ?_, hdelivers hstaged fun _ => rfl⟩
    change Assignment.composeAll _ (.insertMapped staging.name select (options.typing == .text) ::
      (Writing.plan staging destination options).filter Statement.assigns) = _
    rw [Writing.filter_assigns, hcast]
    change (Assignment.compose _ (select.assignments true)).bind _ = _
    rw [hselects hcarries (SourceContext.selected_eq hcontext).symm]
    exact Writing.composeAll_plan hnames (Assignment.fill_assignments _ (TableDefinition.nodup_ends hnames)).kept
  | @copied staging hstaged hstages hcopy =>
    -- The copy assigns nothing, so what is staged is read off the source under its own names.
    refine ⟨options.delivered (staging.columnNames.map ColumnMapping.same) fun route =>
      full.originOf route.destination, ?_, hdelivers hstaged fun _ => rfl⟩
    change Assignment.composeAll _ ((Writing.plan staging destination options).filter
      Statement.assigns) = _
    rw [Writing.filter_assigns]
    apply Writing.composeAll_plan _ (fill_copied hcontext hcopy)
    rw [List.map_map]
    exact (List.map_id _).symm

/-- The last statement on a way that moves rows moves them to the destination. -/
theorem Way.target_eq (h : Way command full context expected destination options name way) :
    (way.filter Statement.movesRows).getLast?.bind Statement.target? = some destination.name := by
  have hwriting (before : List Statement) (staging : TableDefinition) :
      (before ++ Writing.plan staging destination options).getLast?.bind Statement.target? =
        some destination.name := by
    obtain ⟨keeping, source, hplan⟩ := Writing.exists_of_plan staging destination options
    rw [hplan, ← List.append_assoc, List.getLast?_concat]
    rfl
  cases h with
  | direct hdirect hsources hnames hcarries => rfl
  | @staged staging select hstaged hstages hcarries =>
    have hlast := hwriting [.insertMapped staging.name select (options.typing == .text)] staging
    rw [← filter_writing] at hlast
    exact hlast
  | @copied staging hstaged hstages hcopy =>
    have hlast := hwriting [.copyTable staging.name full.name] staging
    rw [← filter_writing] at hlast
    exact hlast

end FromTable

namespace Handler

variable {handler : Handler} {config : Config} {credentials : Credentials}
  {command : TableCommand} {features : List String} {options : RuntimeOptions}
  {session after : Session} {exchanges : List Exchange} {outcome : Except Failure ImportResponse}

/-- Every full import of texts moves no rows, or brings values from its source to its destination
that are emptied exactly in the columns that the command lists, if rows are staged, and in none if
they are not. The time of the import aside, this is all that it assigns. -/
theorem empties_converted
    (hrun : Runs (handler.run config credentials (.table command) features options) session
      exchanges outcome after)
    (himport : command.options.importType = .full)
    (htexts : command.options.strategy = .stringTable) :
    (outcome.isOk = false ∧ moved exchanges = []) ∨
      ∃ first full plan assignments,
        exchanges[1]? = some first ∧
        first.Describes command.source.label.tableName (some full) ∧
        Keep exchanges plan outcome.isOk ∧
        plan.getLast?.bind Statement.target? = some command.destination.label.tableName ∧
        Assignment.composeAll (Assignment.same full.columnNames) (plan.filter Statement.assigns) =
          some assignments ∧
        ∀ assignment ∈ assignments, assignment.value ≠ .time →
          (assignment.value.emptied = true ↔
            FromTable.isDirect command (TransferOptions.ofImport command.options features) = false ∧
              ∃ name ∈ command.options.emptyToNull, lower name = lower assignment.target) := by
  have htyping : (TransferOptions.ofImport command.options features).typing = .text := by
    rw [TransferOptions.ofImport, htexts]
  rcases settled_of_runs hrun himport with hnone | ⟨⟨settlement⟩⟩
  · exact .inl hnone
  have htarget := settlement.hway.target_eq
  rw [settlement.name_eq] at htarget
  obtain ⟨assignments, hcompose, hemptied⟩ := settlement.hway.emptied htyping settlement.hcontext
  rw [← Statement.filter_assigns] at hcompose
  exact .inr ⟨settlement.first, settlement.full, _, assignments, settlement.hfirst,
    settlement.hfull, settlement.keep, htarget, hcompose, hemptied⟩

/-- A command that keeps duplicates and lists the one column of its texts. -/
def listedImport : TableCommand where
  source := { dataset := "data", table := "sales" }
  destination := ⟨"data", "report"⟩
  options :=
    { dedupType := .insertDuplicates, strategy := .stringTable, emptyToNull := ["A"] }

/-- The exchanges of this command where both tables have the column. -/
def listedImportExchanges : List Exchange :=
  (Handler.tables.run Config.plain Credentials.plain (.table listedImport) [] {}).against
    Session.plain (Script.obliging fun _ => .ok (ReflectedTable.ofNames ["a"] []))

/-- Such a run fills the column that is listed with the text of the source's column. Nothing that
it assigns is emptied. -/
theorem empties_converted_listed :
    listedImport.options.importType = .full ∧ listedImport.options.strategy = .stringTable ∧
      (∃ name ∈ listedImport.options.emptyToNull, lower name = lower "a") ∧
      (∃ exchange ∈ listedImportExchanges, ∃ select,
        exchange.statement? = some (.insertMapped ⟨"data", "report"⟩ select true) ∧
          select.assignments true = [⟨"a", .text (.column "a")⟩]) ∧
      ∃ first full plan assignments finished,
        listedImportExchanges[1]? = some first ∧
        first.Describes ⟨"data", "sales"⟩ (some full) ∧
        Keep listedImportExchanges plan finished ∧
        Assignment.composeAll (Assignment.same full.columnNames) (plan.filter Statement.assigns) =
          some assignments ∧
        ∀ assignment ∈ assignments, assignment.value ≠ .time → ¬ assignment.value.emptied = true := by
  obtain ⟨outcome, after, hrun⟩ := runs_against
    (Handler.tables.run Config.plain Credentials.plain (.table listedImport) [] {}) Session.plain
    (Script.obliging fun _ => .ok (ReflectedTable.ofNames ["a"] []))
  have hinserts : ∃ exchange ∈ listedImportExchanges, ∃ select,
      exchange.statement? = some (.insertMapped ⟨"data", "report"⟩ select true) ∧
        select.assignments true = [⟨"a", .text (.column "a")⟩] :=
    ⟨_, List.mem_iff_getElem?.mpr ⟨3, rfl⟩, _, rfl, rfl⟩
  rcases empties_converted hrun rfl rfl with ⟨-, hnone⟩ | ⟨first, full, plan, assignments, hfirst,
    hfull, hkeep, -, hcompose, hemptied⟩
  · obtain ⟨exchange, hmem, select, hsent, -⟩ := hinserts
    have hmoved := mem_moved hmem (movesRows_of_statement hsent)
    rw [listedImportExchanges, hnone] at hmoved
    cases hmoved
  refine ⟨rfl, rfl, by decide, hinserts, first, full, plan, assignments, outcome.isOk, hfirst, hfull, hkeep,
    hcompose, ?_⟩
  intro assignment hmem htime hvalue
  have hstaged := ((hemptied assignment hmem htime).mp hvalue).1
  cases hstaged

end Handler

end WarehouseImport
