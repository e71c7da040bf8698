import WarehouseImport.Proofs.Definitions
import WarehouseImport.Proofs.Routing.Composition
import WarehouseImport.Proofs.Run.Sent

/-!
# Statements that move rows

The statements by which an import moves its rows are read off its exchanges. A plan says which ones
these are to be; an import that fails sends the first of them only, and one that ends well all of
them. Loads move rows too but send no statement, so no plan has one.

Each statement of a plan reads the table that the one before it fills. What the columns of the last
table hold is therefore what the assignments of all statements compose to.
-/

namespace WarehouseImport

open WarehouseImport.Action

namespace Statement

/-- Whether the statement moves rows, or is a text that may do anything. -/
def movesRows : Statement → Bool
  | createTable .. | createView .. | drop .. | countRows .. => false
  | cloneTable .. | createTableAs .. | copyTable .. | createKeyedCopy _ | insertSelect .. => true
  | insertMapped .. | insertStaged _ | replaceContents _ | verbatim _ => true

/-- What a statement assigns to the columns that it lists, if it lists any. -/
def assignments? : Statement → Option (List Assignment)
  | insertMapped _ select cast => some (select.assignments cast)
  | createKeyedCopy copy => some copy.assignments
  | insertStaged insert => some insert.assignments
  | replaceContents insert => some insert.assignments
  | _ => none

/-- A statement that lists columns takes them from a table. -/
def Reads (table : TableName) : Statement → Prop
  | insertMapped _ select _ => select.base.Gives table (select.mappings.map (·.source))
  | createKeyedCopy copy => copy.target.sibling copy.source = table
  | insertStaged insert => insert.target.sibling insert.source = table
  | replaceContents insert => insert.target.sibling insert.source = table
  | _ => False

end Statement

/-- A mapped selection that takes routes from a table reads the table. -/
theorem MappedSelect.Carries.reads {select : MappedSelect} {table target : TableName} {cast : Bool}
    {routes : List ColumnMapping} (h : select.Carries table routes) :
    (Statement.insertMapped target select cast).Reads table := by
  change select.base.Gives table (select.mappings.map (·.source))
  rw [h.mappings]
  exact h.base

/-- Each statement takes its columns from the table that the one before it fills, the first one from
a given table, and the last one fills a given table. -/
inductive Leads : TableName → List Statement → TableName → Prop where
  | done (table : TableName) : Leads table [] table
  | move {table next last : TableName} {statement : Statement} {rest : List Statement}
      (hreads : statement.Reads table) (htarget : statement.target? = some next)
      (hrest : Leads next rest last) : Leads table (statement :: rest) last

/-- What statements one behind the other assign, in terms of what the first of them reads. -/
def Assignment.composeAll (given : List Assignment) : List Statement → Option (List Assignment)
  | [] => some given
  | statement :: rest => do
    let filled ← compose given (← statement.assignments?)
    composeAll filled rest

namespace Exchange

/-- Whether the exchange moves rows. -/
def movesRows (exchange : Exchange) : Bool :=
  match exchange.call with
  | .query statement _ _ => statement.movesRows
  | .load .. => true
  | _ => false

/-- The statements of the exchanges that move rows, in their order. -/
def moved (exchanges : List Exchange) : List (Option Statement) :=
  (exchanges.filter movesRows).map statement?

/-- Rows are moved by the first statements of a plan, and by all of them where all ends well. -/
def Keep (exchanges : List Exchange) (plan : List Statement) (finished : Bool) : Prop :=
  moved exchanges <+: plan.map some ∧ (finished = true → moved exchanges = plan.map some)

/-- What is moved by exchanges one behind the other. -/
theorem moved_append (first last : List Exchange) :
    moved (first ++ last) = moved first ++ moved last :=
  sent_append first last

/-- Where no exchange moves rows, nothing is moved. -/
theorem moved_eq_nil {exchanges : List Exchange}
    (h : ∀ exchange ∈ exchanges, exchange.movesRows = false) : moved exchanges = [] :=
  sent_eq_nil h

/-- An exchange that sends a statement moves rows if the statement does. -/
theorem movesRows_of_statement {exchange : Exchange} {statement : Statement}
    (h : exchange.statement? = some statement) : exchange.movesRows = statement.movesRows :=
  counts_of_statement h

/-- An exchange that moves rows is among what is moved. -/
theorem mem_moved {exchange : Exchange} {exchanges : List Exchange} (hmem : exchange ∈ exchanges)
    (hmoves : exchange.movesRows = true) : exchange.statement? ∈ moved exchanges :=
  List.mem_map_of_mem (List.mem_filter.mpr ⟨hmem, hmoves⟩)

end Exchange

/-- Routes that end at the columns of a table end at different ones. -/
theorem TableDefinition.nodup_ends {definition : TableDefinition} {routes : List ColumnMapping}
    (hnames : definition.columnNames = routes.map (·.destination)) :
    (routes.map fun route => Text.lower route.destination).Nodup := by
  have hdistinct := definition.columns.nodup_lower_names
  rw [← columnNames, hnames, List.map_map] at hdistinct
  exact hdistinct

namespace Writing

/-- The statements that bring staged rows to their destination. -/
def plan (staging destination : TableDefinition) (options : TransferOptions) : List Statement :=
  if (keys staging destination).isEmpty then
    [.replaceContents (insertion staging destination options staging.name.table)]
  else
    [.createKeyedCopy (keyedCopy staging destination),
      .replaceContents (insertion staging destination options
        (keyedCopy staging destination).target.table)]

variable {staging destination : TableDefinition} {options : TransferOptions}

/-- It ends with the insertion into the destination. -/
theorem exists_of_plan (staging destination : TableDefinition) (options : TransferOptions) :
    ∃ keeping source, plan staging destination options =
      keeping ++ [.replaceContents (insertion staging destination options source)] := by
  unfold plan
  split
  · exact ⟨[], _, rfl⟩
  · exact ⟨[_], _, rfl⟩

/-- A staging table beside the destination is found there. -/
theorem sibling_staging {table : String} (hstaging : staging.name = destination.name.sibling table) :
    destination.name.sibling staging.name.table = staging.name := by
  rw [hstaging]
  rfl

/-- So is the table of the rows that are kept. -/
theorem sibling_kept {table : String} (hstaging : staging.name = destination.name.sibling table) :
    destination.name.sibling (keyedCopy staging destination).target.table =
      (keyedCopy staging destination).target := by
  rw [keyedCopy, hstaging]
  rfl

/-- It leads from a staging table beside the destination to the destination. -/
theorem leads_plan {table : String} (hstaging : staging.name = destination.name.sibling table) :
    Leads staging.name (plan staging destination options) destination.name := by
  unfold plan
  split
  · exact .move (sibling_staging hstaging) rfl (.done _)
  · have hrest : Leads (keyedCopy staging destination).target
        [.replaceContents (insertion staging destination options
          (keyedCopy staging destination).target.table)] destination.name :=
      .move (sibling_kept hstaging) rfl (.done _)
    exact .move rfl rfl hrest

/-- The ends of the routes but the time column are the columns that it takes along. -/
theorem stagedColumns_eq {routes : List ColumnMapping}
    (hnames : staging.columnNames = routes.map (·.destination)) :
    stagedColumns staging = (ColumnMapping.kept routes).map (·.destination) := by
  rw [stagedColumns, hnames, List.filter_map]
  rfl

/-- From a staging table that is filled at the ends of routes, it delivers what is staged there. -/
theorem composeAll_plan {given : List Assignment} {routes : List ColumnMapping}
    {value : ColumnMapping → Origin} (hnames : staging.columnNames = routes.map (·.destination))
    (hfill : Assignment.Fill given (ColumnMapping.kept routes) value) :
    Assignment.composeAll given (plan staging destination options) =
      some (options.delivered routes value) := by
  have hcolumns := stagedColumns_eq hnames
  unfold plan
  split
  · have hinsert := Assignment.compose_insertion destination options staging.name.table hcolumns hfill
    simp only [Assignment.composeAll, Statement.assignments?, Option.bind_eq_bind,
      Option.bind_some, hinsert]
  · have hdistinct : ((ColumnMapping.kept routes).map fun route =>
        Text.lower route.destination).Nodup :=
      (TableDefinition.nodup_ends hnames).sublist (List.filter_sublist.map _)
    have hcopy := Assignment.compose_keyedCopy (keyedCopy staging destination) hcolumns hfill
    have hkept : Assignment.Fill (ColumnMapping.assignments (ColumnMapping.kept routes) value)
        (ColumnMapping.kept routes) value := Assignment.fill_assignments value hdistinct
    -- The rows that are kept are written by routes that have already lost the time column.
    have hinsert := Assignment.compose_insertion destination options
      (keyedCopy staging destination).target.table hcolumns hkept
    simp only [Assignment.composeAll, Statement.assignments?, Option.bind_eq_bind,
      Option.bind_some, hcopy, hinsert]

end Writing

end WarehouseImport
