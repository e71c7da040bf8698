import WarehouseImport.Proofs.Payload.Commands
import WarehouseImport.Proofs.Routing.Restriction
import WarehouseImport.Proofs.Run.Opening
import WarehouseImport.Proofs.Sql.Conditions
import WarehouseImport.Proofs.Sql.Numbers
import WarehouseImport.Proofs.Validation.Printing

/-!
# What is read of a source

A command selects columns of its source and may leave out rows, by filters, by the age of rows and
up to a limit. Its source is read as a table if nothing is left out, and through a query otherwise;
the table must never be read in the place of a query that says something else. What decides is four
parts of the command, one of them compared with the names of the table position by position.

Selected columns and those of filters must all be there. They are looked up together, but only the
selected ones are read.
-/

namespace WarehouseImport

open WarehouseImport.Action

open WarehouseImport.Text

namespace FilterType

/-- Whether a text can be compared with columns of a type: every text with texts, and otherwise one
that writes a number of the type, if columns are cast to it. -/
def Reads : FilterType → String → Prop
  | string, _ => True
  | integer, text => (Number.wholeNumber? text).isSome = true
  | real, text => (Number.decimal? text).isSome = true
  | _, _ => False

/-- These are the texts that are converted, for types that columns are cast to. -/
theorem reads_iff (type : FilterType) (column text : String) : type.Reads text ↔
    (∃ cast, type.cast? = .ok cast) ∧ ∃ bound, type.convert column (.str text) = .ok bound := by
  cases type with
  | string => simp [Reads, cast?, convert, isWhole, isDecimal]
  | integer =>
    cases hnumber : Number.wholeNumber? text <;>
      simp [Reads, cast?, convert, isWhole, wholeValue?, hnumber]
  | real =>
    cases hnumber : Number.decimal? text <;>
      simp [Reads, cast?, convert, isWhole, isDecimal, decimalValue?, hnumber]
  | double => simp [Reads, cast?]
  | bigint => simp [Reads, cast?]
  | decimal => simp [Reads, cast?]

end FilterType

namespace CommandFilter

variable {filter : CommandFilter}

/-- A filter with values, as many as its operator takes, that can all be compared. -/
structure WellFormed (filter : CommandFilter) : Prop extends filter.Supported where
  read : ∀ text ∈ filter.values, filter.type.Reads text

/-- A well-formed filter gives a condition and a value, of any number. -/
theorem WellFormed.exists_gives (h : filter.WellFormed) (number : Nat) :
    ∃ clause binding, filter.checked.Gives number clause binding := by
  obtain ⟨⟨hvalued, htaken⟩, hread⟩ := h
  have hreads (text : String) (htext : text ∈ filter.values) :=
    (filter.type.reads_iff filter.column text).mp (hread text htext)
  obtain ⟨text, htext⟩ := List.exists_mem_of_ne_nil _ hvalued
  obtain ⟨⟨cast, hcast⟩, -⟩ := hreads text htext
  by_cases hone : filter.values.length = 1
  · obtain ⟨value, hvalue⟩ := List.length_eq_one_iff.mp hone
    obtain ⟨bound, hbound⟩ := (hreads value (by simp [hvalue])).2
    exact ⟨_, _, .one (by rw [checked, hvalue]; rfl) hcast hbound⟩
  · obtain ⟨symbol, hsymbol⟩ := Option.isSome_iff_exists.mp (htaken.resolve_left hone)
    obtain ⟨bound, hbound⟩ : ∃ bound, filter.checked.values.mapM
        (filter.checked.type.convert filter.checked.column) = .ok bound := by
      refine exists_mapM_eq_ok fun value hvalue => ?_
      obtain ⟨text, htext, rfl⟩ := List.mem_map.mp hvalue
      exact (hreads text htext).2
    have hmany : 1 < filter.checked.values.length := by
      have hpos := List.length_pos_iff.mpr hvalued
      rw [checked, List.length_map]
      omega
    exact ⟨_, _, .several hmany hsymbol hcast hbound⟩

/-- A filter can be added to a selection exactly if it is well formed and has a column. -/
theorem exists_add_iff (filter : CommandFilter) (query : FilterQuery) :
    (∃ next, query.add filter.spec = .ok next) ↔ filter.column ≠ "" ∧ filter.WellFormed := by
  constructor
  · rintro ⟨next, hadd⟩
    obtain ⟨found, hcheck, hrestrict⟩ := bind_eq_ok.mp hadd
    obtain ⟨hcolumn, hvalued, rfl⟩ := parts_of_check_spec hcheck
    obtain ⟨clause, binding, hgives, -⟩ := FilterQuery.restrict_eq_ok.mp hrestrict
    refine ⟨hcolumn, ⟨hvalued, ?_⟩, fun text htext => ?_⟩
    · cases hgives with
      | one hvalues => exact .inl (by simpa [checked] using congrArg List.length hvalues)
      | several _ hsymbol => exact .inr (Option.isSome_of_eq_some hsymbol)
    · have hmem : Json.str text ∈ filter.checked.values := List.mem_map_of_mem htext
      apply (filter.type.reads_iff filter.column text).mpr
      cases hgives with
      | one hvalues hcast hbound =>
        rw [hvalues, List.mem_singleton] at hmem
        exact ⟨⟨_, hcast⟩, _, hmem ▸ hbound⟩
      | several _ _ hcast hbound =>
        obtain ⟨bound, -, hconverted⟩ := exists_mem_of_mapM hbound hmem
        exact ⟨⟨_, hcast⟩, bound, hconverted⟩
  · rintro ⟨hcolumn, hwell⟩
    obtain ⟨clause, binding, hgives⟩ := hwell.exists_gives (query.bindings.length + 1)
    exact ⟨_, bind_eq_ok.mpr ⟨_, check_spec hcolumn hwell.valued,
      FilterQuery.restrict_eq_ok.mpr ⟨clause, binding, hgives, rfl⟩⟩⟩

end CommandFilter

namespace FilterQuery

/-- The text that selects columns of every row of a table. -/
def unrestricted (table : TableName) (columns : List String) : SqlText :=
  [.text "SELECT "] ++ projection table.table columns ++
    [.text "\nFROM   ", .name table.dataset, .text ".", .name table.table]

/-- A selection is what selects every row, with its conditions and its limit behind. -/
theorem sql_eq_unrestricted (query : FilterQuery) (columns : List String) (limit : Int) :
    query.sql columns limit =
      unrestricted query.table columns ++ condition query.table.table query.clauses ++
        ending limit := rfl

/-- Without filters, seconds and a limit there is nothing behind, and nothing is bound. -/
theorem select_unrestricted (table : TableName) (columns : List String) :
    select table columns [] 0 0 = .ok (unrestricted table columns, []) := by
  have hcondition : condition table.table (start table).clauses = [] := rfl
  have hending : ending 0 = [] := rfl
  change Except.ok ((start table).sql columns 0, []) = _
  rw [sql_eq_unrestricted]
  change Except.ok (unrestricted table columns ++ condition table.table (start table).clauses ++
    ending 0, []) = _
  rw [hcondition, hending, List.append_nil, List.append_nil]

/-- Filters that can be added make a selection. -/
theorem exists_select {table : TableName} {columns : List String} {filters : List FilterSpec}
    {seconds limit : Int} (h : ∀ spec ∈ filters, ∀ query, ∃ next, add query spec = .ok next) :
    ∃ sql bindings, select table columns filters seconds limit = .ok (sql, bindings) := by
  have hadded (query : FilterQuery) : ∃ last, filters.foldlM add query = .ok last := by
    induction filters generalizing query with
    | nil => exact ⟨query, rfl⟩
    | cons spec rest ih =>
      obtain ⟨next, hnext⟩ := h spec (by simp) query
      obtain ⟨last, hlast⟩ := ih (fun other hother => h other (List.mem_cons_of_mem _ hother)) next
      exact ⟨last, by rw [List.foldlM_cons, hnext]; exact hlast⟩
  obtain ⟨last, hlast⟩ := hadded ((start table).within seconds)
  exact ⟨_, _, bind_eq_ok.mpr ⟨last, hlast, rfl⟩⟩

end FilterQuery

namespace SourceContext

variable {command : TableCommand} {full effective : TableDefinition} {selected : List String}
  {context : SourceContext}

/-- A command leaves nothing of a source out: there are no filters, no limit and no seconds, and it
selects all columns in the order of the table, without regard to case. -/
structure TakesAll (command : TableCommand) (full : TableDefinition) : Prop where
  unfiltered : command.source.filters = []
  unlimited : command.source.limit = 0
  ageless : command.source.seconds = 0
  whole : (selectedOf command.source.request full).map lower = full.columnNames.map lower

/-- A query is needed exactly if something is left out. -/
theorem needsQuery_eq_false_iff (full : TableDefinition) (hadmitted : command.source.Admitted) :
    needsQuery command.source.request full (selectedOf command.source.request full) = false ↔
      TakesAll command full := by
  obtain ⟨hlimit, hseconds⟩ := hadmitted
  unfold needsQuery ColumnCollection.isFullSet
  simp only [Bool.or_eq_false_iff, Bool.not_eq_false', beq_iff_eq, decide_eq_false_iff_not,
    Int.not_lt, List.isEmpty_iff]
  constructor
  · rintro ⟨⟨⟨hwhole, hage⟩, hlimited⟩, hfilters⟩
    exact ⟨List.map_eq_nil_iff.mp hfilters, Int.le_antisymm hlimited hlimit,
      Int.le_antisymm hage hseconds, hwhole⟩
  · rintro ⟨hfilters, hlimited, hage, hwhole⟩
    exact ⟨⟨⟨hwhole, Int.le_of_eq hage⟩, Int.le_of_eq hlimited⟩, List.map_eq_nil_iff.mpr hfilters⟩

/-- What is selected of a source with columns is never nothing. -/
theorem selectedOf_ne_nil (request : SourceRequest) (hcolumns : full.columns.columns ≠ []) :
    selectedOf request full ≠ [] := by
  unfold selectedOf
  split
  · simpa [TableDefinition.columnNames, ColumnCollection.names] using hcolumns
  · next hmappings => simpa using hmappings

/-- The columns of a command's filters in their order. -/
def filtered (command : TableCommand) : List String := command.source.filters.map (·.column)

/-- The filters of a command all name their columns. -/
theorem mapM_filterColumn (command : TableCommand) :
    command.source.request.filters.mapM filterColumn = .ok (filtered command) := by
  change (command.source.filters.map CommandFilter.spec).mapM filterColumn = _
  rw [List.mapM_map]
  change command.source.filters.mapM (fun filter => Except.ok filter.column) = _
  exact List.mapM_pure (m := Except Failure)

/-- Selected names that are absent are what the source fails for. -/
theorem ofDefinition_of_absent (h : full.absent (selectedOf command.source.request full) ≠ []) :
    ofDefinition command.source.request full = .error (.columnsNotFound full.name.label
      (full.absent (selectedOf command.source.request full))) :=
  bind_eq_error.mpr (.inl (TableDefinition.restrict_eq_error h))

/-- Where the selected names are there, the source is the table or the generated query. -/
theorem ofDefinition_eq {request : SourceRequest}
    (h : full.restrict (selectedOf request full) = .ok effective) :
    ofDefinition request full =
      (if needsQuery request full (selectedOf request full) then
        generate request full effective (selectedOf request full)
      else .ok (.table effective.name (selectedOf request full) effective.primaryKeys)).map
        fun source => ⟨source, effective, full, selectedOf request full⟩ := by
  unfold ofDefinition
  dsimp only
  rw [h]
  by_cases hquery : needsQuery request full (selectedOf request full)
  · rw [if_pos hquery]
    change (if _ then _ else _) = _
    rw [if_pos hquery]
    cases generate request full effective (selectedOf request full) <;> rfl
  · rw [if_neg hquery]
    change (if _ then _ else _) = _
    rw [if_neg hquery]
    rfl

/-- The columns of filters that are absent are what it fails for if the selected names are there. -/
theorem ofDefinition_of_absent_filtered
    (hselected : full.absent (selectedOf command.source.request full) = [])
    (h : full.absent (filtered command) ≠ []) :
    ofDefinition command.source.request full = .error (.columnsNotFound full.name.label
      (full.absent (firsts (filtered command)))) := by
  have hfilters : command.source.request.filters ≠ [] := by
    intro hnone
    rw [filtered, List.map_eq_nil_iff.mp hnone] at h
    exact h rfl
  obtain ⟨effective, heffective⟩ :=
    TableDefinition.exists_restrict (TableDefinition.absent_eq_nil_iff.mp hselected)
  have hnames := NameIndex.items_ofNames
    (selectedOf command.source.request full ++ filtered command)
  rw [Ne, ← TableDefinition.absent_firsts_eq_nil_iff,
    ← TableDefinition.absent_firsts_append hselected, ← hnames] at h
  rw [← TableDefinition.absent_firsts_append hselected, ← hnames]
  rw [ofDefinition_eq heffective, if_pos (needsQuery_of_filters _ hfilters)]
  refine map_eq_error.mpr (bind_eq_error.mpr (.inr ⟨_, mapM_filterColumn command, ?_⟩))
  exact bind_eq_error.mpr (.inl (TableDefinition.restrict_eq_error h))

/-- A query is generated where all names are there and the filters are well formed. -/
theorem exists_generate (hnamed : full.Named)
    (hselected : full.absent (selectedOf command.source.request full) = [])
    (hfiltered : full.absent (filtered command) = [])
    (hfilters : ∀ filter ∈ command.source.filters, filter.WellFormed) :
    ∃ source, generate command.source.request full effective
      (selectedOf command.source.request full) = .ok source := by
  rw [TableDefinition.absent_eq_nil_iff] at hselected hfiltered
  have hknown : ∀ name ∈ (NameIndex.ofNames
      (selectedOf command.source.request full ++ filtered command)).items,
      full.columns.contains name = true := by
    intro name hname
    rw [NameIndex.items_ofNames] at hname
    rcases List.mem_append.mp ((firstsBy_sublist lower _).subset hname) with hmem | hmem
    · exact hselected name hmem
    · exact hfiltered name hmem
  obtain ⟨known, hrestrict⟩ := TableDefinition.exists_restrict hknown
  have hadded : ∀ spec ∈ command.source.request.filters, ∀ query,
      ∃ next, FilterQuery.add query spec = .ok next := by
    intro spec hspec query
    obtain ⟨filter, hmem, rfl⟩ := List.mem_map.mp hspec
    obtain ⟨column, hcolumn⟩ := ColumnCollection.exists_get?_of_contains
      (hfiltered filter.column (List.mem_map_of_mem hmem))
    obtain ⟨hthere, hname⟩ := ColumnCollection.mem_of_get? hcolumn
    refine (filter.exists_add_iff query).mpr ⟨fun hempty => ?_, hfilters filter hmem⟩
    rw [hempty] at hname
    exact hnamed column hthere (eq_empty_of_lower hname)
  obtain ⟨sql, bindings, hselect⟩ := FilterQuery.exists_select hadded
  exact ⟨_, bind_eq_ok.mpr ⟨_, mapM_filterColumn command, bind_eq_ok.mpr ⟨known, hrestrict,
    bind_eq_ok.mpr ⟨(sql, bindings), hselect, rfl⟩⟩⟩⟩

/-- So the source is read. -/
theorem exists_ofDefinition (hnamed : full.Named)
    (hselected : full.absent (selectedOf command.source.request full) = [])
    (hfiltered : full.absent (filtered command) = [])
    (hfilters : ∀ filter ∈ command.source.filters, filter.WellFormed) :
    ∃ context, ofDefinition command.source.request full = .ok context := by
  obtain ⟨effective, heffective⟩ :=
    TableDefinition.exists_restrict (TableDefinition.absent_eq_nil_iff.mp hselected)
  rw [ofDefinition_eq heffective]
  split
  · obtain ⟨source, hsource⟩ := exists_generate hnamed hselected hfiltered hfilters
    exact ⟨_, map_eq_ok.mpr ⟨source, hsource, rfl⟩⟩
  · exact ⟨_, rfl⟩

/-- What is read of a source. The part that is read has the source's own columns under the first of
the selected names, in their order, and the source's keys among them. It is read as a table exactly
if nothing is left out, and then each selected name is that of the column in its place, and the
query that would be generated selects these columns and has nothing behind. Otherwise the query is
read: it selects the selected names and no others, under conditions and up to a limit. -/
structure Selects (command : TableCommand) (full : TableDefinition) (context : SourceContext) :
    Prop where
  source : context.full = full
  selected : context.selected = selectedOf command.source.request full
  name : context.effective.name = full.name
  columns : context.effective.columns.columns.map some =
    (firsts context.selected).map full.columns.get?
  keys : context.effective.primaryKeys =
    full.primaryKeys.filter fun key => (context.selected.map lower).contains (lower key)
  kind : context.source.kind = "DIRECT_TABLE" ↔ TakesAll command full
  direct : TakesAll command full →
    context.source = .table full.name context.selected context.effective.primaryKeys ∧
    context.selected.map full.columns.get? = full.columns.columns.map some ∧
    FilterQuery.select full.name context.selected command.source.request.filters
        command.source.request.seconds command.source.request.limit =
      .ok (FilterQuery.unrestricted full.name context.selected, [])
  generated : ¬ TakesAll command full → ∃ clauses bindings,
    context.source = .query (FilterQuery.unrestricted full.name context.selected ++
        FilterQuery.condition full.name.table clauses ++
        FilterQuery.ending command.source.limit)
      bindings context.selected context.effective.primaryKeys

/-- Names that are those of all columns in their order find the columns. -/
theorem TakesAll.map_get? (h : TakesAll command full) :
    (selectedOf command.source.request full).map full.columns.get? =
      full.columns.columns.map some := by
  have hget : full.columns.get? = (fun key => full.columns.columns.find? fun column =>
      lower column.name == key) ∘ lower :=
    funext fun name => full.columns.get?_eq_find? name
  calc (selectedOf command.source.request full).map full.columns.get?
      = full.columnNames.map full.columns.get? := by
        rw [hget, ← List.map_map, h.whole, List.map_map]
    _ = full.columns.columns.map some := by
        rw [TableDefinition.columnNames, ColumnCollection.names, List.map_map]
        exact List.map_congr_left fun column hcolumn => ColumnCollection.get?_of_mem hcolumn

/-- A query for them would have nothing behind. -/
theorem TakesAll.select_eq (h : TakesAll command full) :
    FilterQuery.select full.name (selectedOf command.source.request full)
        command.source.request.filters command.source.request.seconds
        command.source.request.limit =
      .ok (FilterQuery.unrestricted full.name (selectedOf command.source.request full), []) := by
  have hfilters : command.source.request.filters = [] := List.map_eq_nil_iff.mpr h.unfiltered
  have hseconds : command.source.request.seconds = 0 := h.ageless
  have hlimit : command.source.request.limit = 0 := h.unlimited
  rw [hfilters, hseconds, hlimit]
  exact FilterQuery.select_unrestricted _ _

/-- A query that is generated selects the selected names of the table, with conditions and a limit
behind. -/
theorem exists_clauses_of_generate {source : Source}
    (h : generate command.source.request full effective selected = .ok source) :
    ∃ clauses bindings, source = .query
      (FilterQuery.unrestricted full.name selected ++
        FilterQuery.condition full.name.table clauses ++
        FilterQuery.ending command.source.limit) bindings selected effective.primaryKeys := by
  obtain ⟨sql, bindings, hselect, rfl⟩ := select_of_generate h
  obtain ⟨query, htable, rfl⟩ := FilterQuery.exists_of_select hselect
  exact ⟨query.clauses, bindings, by rw [FilterQuery.sql_eq_unrestricted, htable]; rfl⟩

/-- A source that is read is read as it should be. -/
theorem selects_of_ofDefinition (hadmitted : command.source.Admitted)
    (hcolumns : full.columns.columns ≠ [])
    (h : ofDefinition command.source.request full = .ok context) :
    Selects command full context := by
  have hsome := selectedOf_ne_nil command.source.request hcolumns
  have hneeds := needsQuery_eq_false_iff full hadmitted
  obtain ⟨hfull, hselected, heffective, hsource⟩ := parts_of_ofDefinition h
  rw [hselected] at heffective hsource
  have hname : context.effective.name = full.name := TableDefinition.name_of_restrict heffective
  have heffectiveColumns := TableDefinition.found_of_restrict heffective hsome
  have hkeys := TableDefinition.keys_of_restrict heffective hsome
  by_cases hall : TakesAll command full
  · have hdirect : context.source = .table full.name (selectedOf command.source.request full)
        context.effective.primaryKeys := by
      rw [if_neg (by rw [hneeds.mpr hall]; decide), hname] at hsource
      exact hsource
    exact {
      source := hfull
      selected := hselected
      name := hname
      columns := hselected ▸ heffectiveColumns
      keys := hselected ▸ hkeys
      kind := ⟨fun _ => hall, fun _ => by rw [hdirect]; rfl⟩
      direct := fun _ => hselected ▸ ⟨hdirect, hall.map_get?, hall.select_eq⟩
      generated := fun hnot => absurd hall hnot }
  · have hquery : needsQuery command.source.request full
        (selectedOf command.source.request full) = true := by
      rw [← Bool.not_eq_false]
      exact fun hdirect => hall (hneeds.mp hdirect)
    rw [if_pos hquery] at hsource
    obtain ⟨clauses, bindings, hgenerated⟩ := exists_clauses_of_generate hsource
    have hkind : context.source.kind = "GENERATED_QUERY" := by
      rw [hgenerated]
      rfl
    exact {
      source := hfull
      selected := hselected
      name := hname
      columns := hselected ▸ heffectiveColumns
      keys := hselected ▸ hkeys
      kind := ⟨fun hdirect => absurd (hkind.symm.trans hdirect) (by decide),
        fun hnot => absurd hnot hall⟩
      direct := fun hnot => absurd hnot hall
      generated := fun _ => ⟨clauses, bindings, hselected ▸ hgenerated⟩ }

variable {session after : Session} {exchanges : List Exchange} {exchange : Exchange}
  {outcome : Except Failure SourceContext}

/-- Once a source is described, it is read or not as its definition says. -/
theorem outcome_of_described {request : SourceRequest}
    (hrun : Runs (resolve request) session exchanges outcome after) (hmem : exchange ∈ exchanges)
    (hdescribes : exchange.Describes request.label.tableName (some full)) :
    outcome = ofDefinition request full := by
  rcases runs_resolve_of_answer hrun with ⟨rfl, -⟩ | ⟨answer, rfl, houtcome⟩
  · cases hmem
  · obtain rfl := List.mem_singleton.mp hmem
    rw [houtcome, Warehouse.defined_eq_ok.mpr hdescribes]
    rfl

/-- What is read of a source is exact. Whenever the source of a command is described with a column
at least: if selected names are absent, reading it fails for these and no others; otherwise, if
columns of filters are absent, for these and no others, each once; otherwise, if the filters are
well formed, the source is read. It is read as a table exactly if there are no filters, no limit and
no seconds and the selected names are those of all columns in their order, without regard to case;
then the query that would be generated has no condition and no limit and selects every column in its
place. The part that is read has the source's own columns under the selected names, each once, and
the source's keys among them; a query selects the selected names only. -/
theorem selection_exact
    (hrun : Runs (resolve command.source.request) session exchanges outcome after)
    (hmem : exchange ∈ exchanges)
    (hdescribes : exchange.Describes command.source.label.tableName (some full))
    (hcolumns : full.columns.columns ≠ []) (hadmitted : command.source.Admitted) :
    (full.absent (selectedOf command.source.request full) ≠ [] →
      outcome = .error (.columnsNotFound full.name.label
        (full.absent (selectedOf command.source.request full)))) ∧
    (full.absent (selectedOf command.source.request full) = [] →
      full.absent (filtered command) ≠ [] →
      outcome = .error (.columnsNotFound full.name.label
        (full.absent (firsts (filtered command))))) ∧
    (full.absent (selectedOf command.source.request full) = [] →
      full.absent (filtered command) = [] →
      (∀ filter ∈ command.source.filters, filter.WellFormed) →
      ∃ context, outcome = .ok context ∧ Selects command full context) := by
  obtain rfl := outcome_of_described hrun hmem hdescribes
  refine ⟨ofDefinition_of_absent, ofDefinition_of_absent_filtered,
    fun hselected hfiltered hfilters => ?_⟩
  obtain ⟨context, hcontext⟩ :=
    exists_ofDefinition hdescribes.named hselected hfiltered hfilters
  exact ⟨context, hcontext, selects_of_ofDefinition hadmitted hcolumns hcontext⟩

/-- A command that reads mapped columns of a table of sales. -/
def readSales (mappings : List ColumnMapping) : TableCommand where
  source := { dataset := "data", table := "sales", mappings := mappings }
  destination := ⟨"data", "report"⟩

/-- The table of sales, with two texts. -/
def sales : TableDefinition where
  name := ⟨"data", "sales"⟩
  columns := ⟨[⟨"a", "STRING", none, .flag true, none, none⟩,
    ⟨"b", "STRING", none, .flag true, none, none⟩], by decide⟩
  primaryKeys := ["a"]
  temporary := false
  rows := some 0
  bytes := some 0
  keys_known := by decide

/-- The exchanges of a command with an outside that describes the table of sales. -/
def salesExchanges (mappings : List ColumnMapping) : List Exchange :=
  (resolve (readSales mappings).source.request).against Session.plain
    (Script.obliging fun _ => .ok (ReflectedTable.ofNames ["a", "b"] ["a"]))

/-- Columns in the order of the table are read from it, and in another order by a query; a name that
is not there is named. -/
theorem selection_exact_sales :
    (∃ context after, Runs (resolve (readSales [⟨"A", "x"⟩, ⟨"b", "y"⟩]).source.request) Session.plain
        (salesExchanges [⟨"A", "x"⟩, ⟨"b", "y"⟩]) (.ok context) after ∧
      context.source = .table ⟨"data", "sales"⟩ ["A", "b"] ["a"]) ∧
    (∃ context after, Runs (resolve (readSales [⟨"b", "y"⟩, ⟨"a", "x"⟩]).source.request) Session.plain
        (salesExchanges [⟨"b", "y"⟩, ⟨"a", "x"⟩]) (.ok context) after ∧
      context.source.kind ≠ "DIRECT_TABLE") ∧
    ∃ after, Runs (resolve (readSales [⟨"a", "x"⟩, ⟨"c", "y"⟩]).source.request) Session.plain
      (salesExchanges [⟨"a", "x"⟩, ⟨"c", "y"⟩]) (.error (.columnsNotFound ⟨"data", "sales"⟩ ["c"]))
      after := by
  have hends (mappings : List ColumnMapping) := runs_against
    (resolve (readSales mappings).source.request) Session.plain
    (Script.obliging fun _ => .ok (ReflectedTable.ofNames ["a", "b"] ["a"]))
  have hdescribes : Exchange.Describes
      ⟨.reflect ⟨"data", "sales"⟩, .ok (ReflectedTable.ofNames ["a", "b"] ["a"])⟩ ⟨"data", "sales"⟩
      (some sales) := ⟨_, rfl, _, rfl, rfl⟩
  have hadmitted (mappings : List ColumnMapping) : (readSales mappings).source.Admitted :=
    ⟨Int.le_refl 0, Int.le_refl 0⟩
  have hcolumns : sales.columns.columns ≠ [] := List.cons_ne_nil _ _
  refine ⟨?_, ?_, ?_⟩
  · obtain ⟨outcome, after, hrun⟩ := hends [⟨"A", "x"⟩, ⟨"b", "y"⟩]
    obtain ⟨-, -, hread⟩ :=
      selection_exact hrun (List.mem_singleton_self _) hdescribes hcolumns (hadmitted _)
    obtain ⟨context, rfl, hselects⟩ := hread (by decide) rfl (fun _ hmem => nomatch hmem)
    have hall : TakesAll (readSales [⟨"A", "x"⟩, ⟨"b", "y"⟩]) sales := ⟨rfl, rfl, rfl, by decide⟩
    refine ⟨context, after, hrun, ?_⟩
    rw [(hselects.direct hall).1, hselects.keys, hselects.selected]
    rfl
  · obtain ⟨outcome, after, hrun⟩ := hends [⟨"b", "y"⟩, ⟨"a", "x"⟩]
    obtain ⟨-, -, hread⟩ :=
      selection_exact hrun (List.mem_singleton_self _) hdescribes hcolumns (hadmitted _)
    obtain ⟨context, rfl, hselects⟩ := hread (by decide) rfl (fun _ hmem => nomatch hmem)
    exact ⟨context, after, hrun, fun hdirect =>
      absurd (hselects.kind.mp hdirect).whole (by decide)⟩
  · obtain ⟨outcome, after, hrun⟩ := hends [⟨"a", "x"⟩, ⟨"c", "y"⟩]
    obtain ⟨habsent, -, -⟩ :=
      selection_exact hrun (List.mem_singleton_self _) hdescribes hcolumns (hadmitted _)
    obtain rfl := habsent (by decide)
    exact ⟨after, hrun⟩

end SourceContext

end WarehouseImport
