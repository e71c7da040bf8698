import WarehouseImport.Proofs.Routing.Plans

/-!
# Staging tables that are copies

A source that is read without a query becomes its own staging table by a copy, if its columns agree
with those of the staging table, in their order and apart from the time column. In a copy each
column holds what the source's column of the same name holds, while an insertion would follow the
routes of the command.

Both come to the same as long as no route begins or ends at the time column alone. The comparison
does not see such a route, so a copy is made all the same and its columns hold something else.
-/

namespace WarehouseImport

open WarehouseImport.Action Exchange Trace
open WarehouseImport.Text

/-- Columns that agree one by one have the same names without regard to case. -/
theorem map_lower_eq_of_zip {left right : List Column} (hlength : left.length = right.length)
    (h : ∀ pair ∈ left.zip right, lower pair.1.name = lower pair.2.name) :
    left.map (fun column => lower column.name) = right.map fun column => lower column.name := by
  induction left generalizing right with
  | nil => rw [List.length_eq_zero_iff.mp hlength.symm]
  | cons first rest ih =>
    cases right with
    | nil => cases hlength
    | cons other others =>
      rw [List.map_cons, List.map_cons, h (first, other) (by simp),
        ih (by simpa using hlength) fun pair hmem => h pair (List.mem_cons_of_mem _ hmem)]

/-- The time column is the one that the comparison of columns ignores. -/
theorem not_contains_timestampColumn (name : String) :
    (!(NameIndex.ofNames [timestampColumn]).contains name) = (lower name != timestampColumn) := by
  have htime : lower timestampColumn = timestampColumn := by decide
  rw [NameIndex.contains_ofNames, List.map_singleton, htime, Bool.eq_iff_iff]
  simp

/-- Columns that agree apart from the time column have the same names apart from that one. -/
theorem names_of_sameColumns {left right : List Column}
    (h : sameColumns left right [timestampColumn] = true) :
    (left.map fun column => lower column.name).filter (· != timestampColumn) =
      (right.map fun column => lower column.name).filter (· != timestampColumn) := by
  have hkept (columns : List Column) :
      (columns.map fun column => lower column.name).filter (· != timestampColumn) =
        (columns.filter fun column =>
          !(NameIndex.ofNames [timestampColumn]).contains column.name).map
            fun column => lower column.name := by
    rw [List.filter_map]
    congr 2
    funext column
    exact (not_contains_timestampColumn column.name).symm
  simp only [sameColumns, Bool.and_eq_true, beq_iff_eq, List.all_eq_true] at h
  rw [hkept, hkept]
  exact map_lower_eq_of_zip h.1 fun pair hmem => (h.2 pair hmem).1

/-- Where columns agree apart from the time column, any other one on the right has one on the left
of its name and its type. -/
theorem exists_of_sameColumns {left right : List Column} {column : Column}
    (h : sameColumns left right [timestampColumn] = true) (hmem : column ∈ right)
    (hother : lower column.name ≠ timestampColumn) :
    ∃ other ∈ left, lower other.name = lower column.name ∧
      other.writtenType = column.writtenType := by
  simp only [sameColumns, Bool.and_eq_true, beq_iff_eq, List.all_eq_true,
    not_contains_timestampColumn] at h
  obtain ⟨hlength, hall⟩ := h
  have hkept : column ∈ right.filter fun column => lower column.name != timestampColumn :=
    List.mem_filter.mpr ⟨hmem, by simpa using hother⟩
  rw [← List.map_snd_zip (Nat.le_of_eq hlength.symm)] at hkept
  obtain ⟨pair, hpair, rfl⟩ := List.mem_map.mp hkept
  exact ⟨pair.1, (List.mem_filter.mp (List.of_mem_zip hpair).1).1, hall pair hpair⟩

namespace ColumnCollection

/-- Where a name is contained, another one finds the same column exactly if it agrees with it. -/
theorem get?_eq_get?_iff {collection : ColumnCollection} {name : String}
    (hcontains : collection.contains name = true) (other : String) :
    collection.get? other = collection.get? name ↔ lower other = lower name := by
  constructor
  · intro hsame
    obtain ⟨column, hcolumn⟩ := exists_get?_of_contains hcontains
    have hother := (mem_of_get? (hsame.trans hcolumn)).2
    exact hother.symm.trans (mem_of_get? hcolumn).2
  · intro hlower
    rw [get?_eq_find?, get?_eq_find?, hlower]

end ColumnCollection

namespace ColumnMapping

/-- Routes that begin and end at the same names, in the same order and apart from one name, keep
all names exactly if they keep that one in its places. -/
theorem forall_lower_eq_iff {routes : List ColumnMapping} {name : String}
    (h : (routes.map fun route => lower route.source).filter (· != name) =
      (routes.map fun route => lower route.destination).filter (· != name)) :
    (∀ route ∈ routes, lower route.destination = lower route.source) ↔
      ∀ route ∈ routes, (lower route.source = name ↔ lower route.destination = name) := by
  refine ⟨fun hall route hroute => by rw [hall route hroute], fun hplaces => ?_⟩
  induction routes with
  | nil => simp
  | cons route rest ih =>
    have hplace := hplaces route (by simp)
    have hrest := fun other hother => hplaces other (List.mem_cons_of_mem _ hother)
    rw [List.map_cons, List.map_cons] at h
    by_cases hsource : lower route.source = name
    · have hdestination := hplace.mp hsource
      rw [List.filter_cons_of_neg (by simp [hsource]),
        List.filter_cons_of_neg (by simp [hdestination])] at h
      intro other hother
      rcases List.mem_cons.mp hother with rfl | hother
      · rw [hsource, hdestination]
      · exact ih h hrest other hother
    · have hdestination : ¬ lower route.destination = name :=
        fun hsame => hsource (hplace.mpr hsame)
      rw [List.filter_cons_of_pos (by simp [hsource]),
        List.filter_cons_of_pos (by simp [hdestination])] at h
      obtain ⟨hhead, htail⟩ := List.cons.inj h
      intro other hother
      rcases List.mem_cons.mp hother with rfl | hother
      · exact hhead.symm
      · exact ih htail hrest other hother

end ColumnMapping

namespace FromTable

variable {command : TableCommand} {full destination staging : TableDefinition}
  {options : TransferOptions} {context : SourceContext} {name : String}

/-- Where a copy is made, all columns of the source are selected in their order, and they agree with
the staged ones apart from the time column. -/
theorem sameColumns_of_canCopy
    (hcontext : SourceContext.ofDefinition command.source.request full = .ok context)
    (hcopy : canCopy context staging = true) :
    context.selected.map lower = full.columnNames.map lower ∧
      sameColumns full.columns.columns staging.columns.columns [timestampColumn] = true := by
  rw [canCopy, Bool.and_eq_true] at hcopy
  obtain ⟨hdirect, hsame⟩ := hcopy
  obtain ⟨-, hselected⟩ := SourceContext.parts_of_isDirect hcontext hdirect
  rw [TableDefinition.columns_of_restrict_all
    (SourceContext.parts_of_ofDefinition hcontext).2.2.1 hselected] at hsame
  exact ⟨hselected, hsame⟩

/-- What a staged column other than the time column is called, a column of the source is called as
well in a copy, and it has its type. -/
theorem exists_of_canCopy {staged : Column}
    (hcontext : SourceContext.ofDefinition command.source.request full = .ok context)
    (hcopy : canCopy context staging = true) (hstaged : staged ∈ staging.columns.columns)
    (hother : lower staged.name ≠ timestampColumn) :
    ∃ held, full.columns.get? staged.name = some held ∧ held.writtenType = staged.writtenType := by
  obtain ⟨held, hheld, hlower, htype⟩ :=
    exists_of_sameColumns (sameColumns_of_canCopy hcontext hcopy).2 hstaged hother
  exact ⟨held, ColumnCollection.get?_of_lower_eq hheld hlower, htype⟩

/-- Where a copy is made, the routes begin and end at the same names apart from the time column. -/
theorem routes_of_canCopy
    (hcontext : SourceContext.ofDefinition command.source.request full = .ok context)
    (hstages : Stages command context destination name staging)
    (hcopy : canCopy context staging = true) :
    ((command.routes full).map fun route => lower route.source).filter (· != timestampColumn) =
      ((command.routes full).map fun route => lower route.destination).filter
        (· != timestampColumn) := by
  obtain ⟨hselected, hsame⟩ := sameColumns_of_canCopy hcontext hcopy
  have hsources : full.columns.columns.map (fun column => lower column.name) =
      (command.routes full).map fun route => lower route.source := by
    rw [SourceContext.selected_eq hcontext, List.map_map, TableDefinition.columnNames,
      ColumnCollection.names, List.map_map] at hselected
    exact hselected.symm
  have hdestinations : staging.columns.columns.map (fun column => lower column.name) =
      (command.routes full).map fun route => lower route.destination := by
    have hnames := congrArg (List.map lower) (hstages.names_eq hcontext)
    rw [TableDefinition.columnNames, ColumnCollection.names, List.map_map, List.map_map] at hnames
    exact hnames
  have hnames := names_of_sameColumns hsame
  rw [hsources, hdestinations] at hnames
  exact hnames

/-- A copy gives each column what its route brings exactly if the routes that begin at the time
column are those that end there. -/
theorem copied_iff (hroutes : WellRouted full (command.routes full))
    (hcontext : SourceContext.ofDefinition command.source.request full = .ok context)
    (hstages : Stages command context destination name staging)
    (hcopy : canCopy context staging = true) :
    (∀ route ∈ command.routes full,
        full.columns.get? route.destination = full.columns.get? route.source) ↔
      ∀ route ∈ command.routes full,
        (lower route.source = timestampColumn ↔ lower route.destination = timestampColumn) := by
  rw [← ColumnMapping.forall_lower_eq_iff (routes_of_canCopy hcontext hstages hcopy)]
  exact forall₂_congr fun route hroute =>
    ColumnCollection.get?_eq_get?_iff (hroutes.known route hroute) route.destination

/-- The only copy of a plan is the staging table, if it is one. -/
theorem Plan.copied_of_mem {plan : List Statement} {target source : TableName}
    (h : Plan command full options name plan) (hmem : .copyTable target source ∈ plan) :
    ∃ context staging destination,
      SourceContext.ofDefinition command.source.request full = .ok context ∧
      destination.name = command.destination.label.tableName ∧
      Stages command context destination name staging ∧ canCopy context staging = true ∧
      target = staging.name ∧ source = full.name := by
  have hwriting (staging destination : TableDefinition) :
      .copyTable target source ∉ Writing.plan staging destination options := by
    unfold Writing.plan
    split <;> simp
  cases h with
  | direct hdirect hcarries => simp at hmem
  | @staged context staging destination select hstaged hcontext hnamed hstages hcarries =>
    rcases List.mem_cons.mp hmem with hinsert | hmem
    · cases hinsert
    · exact (hwriting staging destination hmem).elim
  | @copied context staging destination hstaged hcontext hnamed hstages hcopy =>
    rcases List.mem_cons.mp hmem with hsame | hmem
    · cases hsame
      exact ⟨context, staging, destination, hcontext, hnamed, hstages, hcopy, rfl, rfl⟩
    · exact (hwriting staging destination hmem).elim

end FromTable

/-- A statement that moves rows and is sent is among the statements of the plan. -/
theorem Exchange.Keep.mem_of_movesRows {exchanges : List Exchange} {exchange : Exchange}
    {plan : List Statement} {finished : Bool} {statement : Statement}
    (h : Keep exchanges plan finished) (hmem : exchange ∈ exchanges)
    (hsent : exchange.statement? = some statement) (hmoves : statement.movesRows = true) :
    statement ∈ plan := by
  have hmoved : some statement ∈ moved exchanges := by
    rw [← hsent]
    exact mem_moved hmem ((movesRows_of_statement hsent).trans hmoves)
  obtain ⟨other, hother, hsame⟩ := List.mem_map.mp (h.1.subset hmoved)
  rw [← Option.some.inj hsame]
  exact hother

/-- A copy that is sent is among the statements of the plan. -/
theorem Exchange.Keep.mem_of_copy {exchanges : List Exchange} {exchange : Exchange}
    {plan : List Statement} {finished : Bool} {target source : TableName}
    (h : Keep exchanges plan finished) (hmem : exchange ∈ exchanges)
    (hcopy : exchange.statement? = some (.copyTable target source)) :
    .copyTable target source ∈ plan :=
  h.mem_of_movesRows hmem hcopy rfl

/-- Whether the statement fills a table with the columns that a command maps. -/
def Statement.fills : Statement → Bool
  | insertMapped .. | copyTable .. => true
  | _ => false

namespace FromTable

variable {warehouse : Warehouse} {command : TableCommand} {full : TableDefinition}
  {options : TransferOptions} {context : SourceContext} {expected : ColumnCollection}
  {existing : Option TableDefinition} {name : String} {exchanges : List Exchange} {finished : Bool}

/-- What another import type asks for fills nothing. -/
theorem Performs.not_fills (himport : command.options.importType ≠ .full)
    (h : Performs warehouse command context expected existing options name exchanges finished) :
    ∀ exchange ∈ exchanges, exchange.counts Statement.fills = false := by
  unfold Performs at h
  split at h
  · rw [h]
    simp
  · have hviews : Rests Statement.fills (views warehouse command) := rests_sends rfl
    exact hviews h
  · have hchecks : Rests Statement.fills
        ((Warehouse.describes command.destination.label.tableName).andThen
          (Warehouse.counts command.destination.label.tableName)) :=
      (rests_describes _).andThen (rests_counts rfl)
    have hclones : Rests Statement.fills (clones warehouse command) :=
      (Every.attempt (rests_sends rfl)).andThen
        (every_silent.either ((rests_sends rfl).andThen hchecks))
    exact hclones h
  · next hfull => exact (himport hfull).elim

/-- So the course of another import fills nothing. -/
theorem Course.not_fills (himport : command.options.importType ≠ .full)
    (h : Course warehouse command options name exchanges finished) :
    ∀ exchange ∈ exchanges, exchange.counts Statement.fills = false := by
  refine Course.every (fun exchange table hcall => counts_of_reflect hcall)
    (Destination.rests_replaces (fun _ _ _ => rfl) _ _ _) ?_ h
  exact fun _ _ _ _ _ _ hperformed => Performs.not_fills himport hperformed

end FromTable

namespace Handler

variable {handler : Handler} {config : Config} {credentials : Credentials}
  {command : TableCommand} {full : TableDefinition} {features : List String}
  {options : RuntimeOptions} {session after : Session} {first copied : Exchange}
  {exchanges : List Exchange} {outcome : Except Failure ImportResponse}
  {target source : TableName}

/-- Only a full import fills a table with mapped columns. -/
theorem full_of_fills
    (hrun : Runs (handler.run config credentials (.table command) features options) session
      exchanges outcome after)
    {exchange : Exchange} {statement : Statement} (hmem : exchange ∈ exchanges)
    (hsent : exchange.statement? = some statement) (hfills : statement.fills = true) :
    command.options.importType = .full := by
  refine Decidable.byContradiction fun himport => ?_
  have hnone : ∀ exchange ∈ exchanges, exchange.counts Statement.fills = false := by
    refine every_of_runs hrun (fun request project => rfl) fun _ _ _ hcourse => ?_
    exact FromTable.Course.not_fills himport hcourse
  have hcounts := (counts_of_statement hsent).symm.trans (hnone exchange hmem)
  rw [hfills] at hcounts
  cases hcounts

/-- Only a full import makes a copy. -/
theorem full_of_copied
    (hrun : Runs (handler.run config credentials (.table command) features options) session
      exchanges outcome after)
    (hmem : copied ∈ exchanges) (hcopied : copied.statement? = some (.copyTable target source)) :
    command.options.importType = .full :=
  full_of_fills hrun hmem hcopied rfl

/-- A staging table that is made as a copy of the source holds in each column what the routes of the
command bring there, exactly if the routes that begin at the time column are those that end there.
No other copy is made. -/
theorem copied_columns
    (hrun : Runs (handler.run config credentials (.table command) features options) session
      exchanges outcome after)
    (hfirst : exchanges[1]? = some first)
    (hfull : first.Describes command.source.label.tableName (some full))
    (hroutes : WellRouted full (command.routes full))
    (hmem : copied ∈ exchanges) (hcopied : copied.statement? = some (.copyTable target source)) :
    target = ⟨command.destination.dataset, (session.drawName config.stagingNames).1⟩ ∧
      source = full.name ∧
      ((∀ route ∈ command.routes full,
          full.columns.get? route.destination = full.columns.get? route.source) ↔
        ∀ route ∈ command.routes full,
          (lower route.source = timestampColumn ↔ lower route.destination = timestampColumn)) := by
  have himport := full_of_copied hrun hmem hcopied
  rcases planned_of_runs hrun himport hfirst hfull hroutes with
    ⟨-, hnone⟩ | ⟨plan, hplan, hkeep⟩
  · have hmoved := mem_moved hmem (movesRows_of_statement hcopied)
    rw [hnone] at hmoved
    cases hmoved
  · obtain ⟨context, staging, destination, hcontext, hnamed, hstages, hcopy, htarget, hsource⟩ :=
      hplan.copied_of_mem (hkeep.mem_of_copy hmem hcopied)
    refine ⟨?_, hsource, FromTable.copied_iff hroutes hcontext hstages hcopy⟩
    rw [htarget, hstages.name_eq hnamed]

/-- A command that swaps a column with the time column. -/
def timeSwappingImport : TableCommand where
  source :=
    { dataset := "data", table := "sales", mappings := [⟨"_timestamp", "b"⟩, ⟨"b", "_timestamp"⟩] }
  destination := ⟨"data", "report"⟩
  options := { dedupType := .updateDuplicates }

/-- The exchanges of this command where both tables have both columns. -/
def timeSwappingImportExchanges : List Exchange :=
  (Handler.tables.run Config.plain Credentials.plain (.table timeSwappingImport) [] {}).against
    Session.plain (Script.obliging fun _ => .ok (ReflectedTable.ofNames ["_timestamp", "b"] []))

/-- Such a run makes a copy, whose columns are not swapped. -/
theorem copied_columns_unswapped :
    ∃ copied ∈ timeSwappingImportExchanges, ∃ target source full,
      copied.statement? = some (.copyTable target source) ∧
        WellRouted full (timeSwappingImport.routes full) ∧
        ¬ ∀ route ∈ timeSwappingImport.routes full,
          full.columns.get? route.destination = full.columns.get? route.source := by
  obtain ⟨outcome, after, hrun⟩ := runs_against
    (Handler.tables.run Config.plain Credentials.plain (.table timeSwappingImport) [] {})
    Session.plain (Script.obliging fun _ => .ok (ReflectedTable.ofNames ["_timestamp", "b"] []))
  obtain ⟨full, hfull, hroutes⟩ : ∃ full,
      (ReflectedTable.ofNames ["_timestamp", "b"] []).definition ⟨"data", "sales"⟩ = .ok full ∧
        WellRouted full (timeSwappingImport.routes full) :=
    ⟨_, rfl, ⟨by decide, by decide, by decide, by decide⟩⟩
  obtain ⟨copied, hmem, target, source, hcopied⟩ : ∃ copied ∈ timeSwappingImportExchanges,
      ∃ target source, copied.statement? = some (.copyTable target source) :=
    ⟨_, List.mem_iff_getElem?.mpr ⟨3, rfl⟩, _, _, rfl⟩
  refine ⟨copied, hmem, target, source, full, hcopied, hroutes, fun hall => ?_⟩
  have hplaces :=
    (copied_columns hrun rfl ⟨_, rfl, _, rfl, hfull⟩ hroutes hmem hcopied).2.2.mp hall
  have hplace : lower "_timestamp" = timestampColumn ↔ lower "b" = timestampColumn :=
    hplaces ⟨"_timestamp", "b"⟩ List.mem_cons_self
  revert hplace
  decide

end Handler

end WarehouseImport
