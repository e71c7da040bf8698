import WarehouseImport.Proofs.Definitions

/-!
# Routes of columns

The routes of a command take each mapped column of its source to a name at its destination; without
mappings every column keeps its name. Here they are followed through the definitions that an import
makes of them: the part of the source that is read, the columns that are expected of a destination,
and the mapped selection that reads the source.

Mapping columns by position never fails on the way, since the source gives one column for each route
in their order.
-/

namespace WarehouseImport

open WarehouseImport.Text

/-- Routes begin at columns of the source and end at names, and no two share either without regard
to case. -/
structure WellRouted (full : TableDefinition) (routes : List ColumnMapping) : Prop where
  known : ∀ route ∈ routes, full.columns.contains route.source = true
  named : ∀ route ∈ routes, route.destination ≠ ""
  sources : (routes.map fun route => lower route.source).Nodup
  destinations : (routes.map fun route => lower route.destination).Nodup

/-- What is made of the items that are all there keeps what each item gives. -/
theorem map_filterMap_of_some {α β γ : Type} {f : α → Option β} {given : α → γ} {kept : β → γ}
    {items : List α} (h : ∀ item ∈ items, ∃ value, f item = some value ∧ kept value = given item) :
    (items.filterMap f).map kept = items.map given := by
  induction items with
  | nil => rfl
  | cons item rest ih =>
    obtain ⟨value, hvalue, hkept⟩ := h item (by simp)
    rw [List.filterMap_cons, hvalue, List.map_cons, List.map_cons, hkept,
      ih fun other hother => h other (List.mem_cons_of_mem _ hother)]

namespace TableDefinition

/-- A restricted definition keeps its name, and takes the columns under the given names. -/
theorem parts_of_restrict {definition restricted : TableDefinition} {names : List String}
    (h : definition.restrict names = .ok restricted) (hnames : names ≠ []) :
    restricted.name = definition.name ∧
      definition.columns.index.missing names = [] ∧
      restricted.columns.columns = (NameIndex.ofList
        ((names.filterMap definition.columns.get?).map fun column =>
          (column.name, column))).items := by
  have hsome : ¬ names.isEmpty = true := by simpa using hnames
  unfold restrict at h
  rw [if_neg hsome] at h
  dsimp only at h
  split at h
  · next hmissing =>
    obtain ⟨hname, hcolumns, -⟩ := parts_of_make h
    exact ⟨hname, List.isEmpty_iff.mp hmissing, hcolumns⟩
  · cases h

/-- A restricted definition keeps its name. -/
theorem name_of_restrict {definition restricted : TableDefinition} {names : List String}
    (h : definition.restrict names = .ok restricted) : restricted.name = definition.name := by
  by_cases hnames : names = []
  · rw [hnames, restrict] at h
    rw [← Except.ok.inj h]
  · exact (parts_of_restrict h hnames).1

/-- Restricted to all its columns in their order, a definition keeps them. -/
theorem columns_of_restrict_all {definition restricted : TableDefinition} {names : List String}
    (h : definition.restrict names = .ok restricted)
    (hall : names.map lower = definition.columnNames.map lower) :
    restricted.columns.columns = definition.columns.columns := by
  by_cases hnames : names = []
  · rw [hnames, restrict] at h
    rw [← Except.ok.inj h]
  have hget (name : String) : definition.columns.get? name =
      definition.columns.columns.find? fun column => lower column.name == lower name :=
    definition.columns.get?_eq_find? name
  have hcolumns : names.filterMap definition.columns.get? = definition.columns.columns := by
    calc names.filterMap definition.columns.get?
        = (names.map lower).filterMap fun key =>
            definition.columns.columns.find? fun column => lower column.name == key := by
          rw [List.filterMap_map]
          congr 1
          funext name
          exact hget name
      _ = definition.columns.columns.filterMap fun column =>
            definition.columns.get? column.name := by
          rw [hall, columnNames, ColumnCollection.names, List.map_map, List.filterMap_map]
          congr 1
          funext column
          exact (hget column.name).symm
      _ = definition.columns.columns := by
          have hmap : (definition.columns.columns.filterMap fun column =>
              definition.columns.get? column.name).map id = definition.columns.columns.map id :=
            map_filterMap_of_some fun column hcolumn =>
              ⟨column, definition.columns.get?_of_mem hcolumn, rfl⟩
          simpa using hmap
  rw [(parts_of_restrict h hnames).2.2, hcolumns, NameIndex.items_ofList]
  · rw [List.map_map]
    exact List.map_id _
  · have hdistinct := definition.columns.nodup_lower_names
    rw [ColumnCollection.names, List.map_map] at hdistinct
    rw [List.map_map]
    exact hdistinct

end TableDefinition

namespace ColumnMapping

/-- As many names on either side are mapped by position, into the mappings they come from. -/
theorem positional_map (routes : List ColumnMapping) :
    positional (routes.map (·.source)) (routes.map (·.destination)) = .ok routes := by
  have hzip : ((routes.map (·.source)).zip (routes.map (·.destination))).map
      (fun pair => (⟨pair.1, pair.2⟩ : ColumnMapping)) = routes := by
    induction routes with
    | nil => rfl
    | cons route rest ih => simpa using ih
  rw [positional, if_pos (by simp), hzip]

/-- Routes are settled by where they begin and where they end. -/
theorem eq_of_map {left right : List ColumnMapping}
    (hsources : left.map (·.source) = right.map (·.source))
    (hdestinations : left.map (·.destination) = right.map (·.destination)) : left = right := by
  have hleft := positional_map left
  rw [hsources, hdestinations, positional_map right] at hleft
  exact (Except.ok.inj hleft).symm

/-- What is kept of the columns that mappings expect is what each mapping gives. -/
theorem map_of_expected {source : TableDefinition} {mappings : List ColumnMapping}
    {expected : ColumnCollection} {γ : Type} {given : ColumnMapping → γ} {kept : Column → γ}
    (h : ColumnMapping.expected source mappings = .ok expected)
    (hmappings : ¬ mappings.isEmpty = true)
    (hkept : ∀ mapping ∈ mappings, ∀ column, source.columns.get? mapping.source = some column →
      kept (column.renamed mapping.destination) = given mapping) :
    expected.columns.map kept = mappings.map given := by
  unfold ColumnMapping.expected at h
  rw [if_neg hmappings] at h
  dsimp only at h
  split at h
  · next hmissing =>
    rw [ColumnCollection.columns_of_ofList h]
    apply map_filterMap_of_some
    intro mapping hmapping
    obtain ⟨column, hcolumn⟩ := ColumnCollection.exists_get?_of_contains
      (ColumnCollection.contains_of_missing (List.isEmpty_iff.mp hmissing)
        (List.mem_map_of_mem hmapping))
    exact ⟨column.renamed mapping.destination, by rw [column?, hcolumn]; rfl,
      hkept mapping hmapping column hcolumn⟩
  · cases h

/-- Without mappings the columns of the source are expected. -/
theorem columns_of_expected {source : TableDefinition} {mappings : List ColumnMapping}
    {expected : ColumnCollection} (h : ColumnMapping.expected source mappings = .ok expected)
    (hmappings : mappings.isEmpty = true) : expected.columns = source.columns.columns := by
  rw [ColumnMapping.expected, if_pos hmappings] at h
  exact ColumnCollection.columns_of_ofList h

/-- The columns that are expected have the names of the destination, if these are not empty. -/
theorem names_of_expected {source : TableDefinition} {mappings : List ColumnMapping}
    {expected : ColumnCollection} (h : ColumnMapping.expected source mappings = .ok expected)
    (hnamed : ∀ mapping ∈ mappings, mapping.destination ≠ "") :
    expected.names = if mappings.isEmpty then source.columnNames
      else mappings.map (·.destination) := by
  by_cases hmappings : mappings.isEmpty
  · rw [if_pos hmappings, ColumnCollection.names, columns_of_expected h hmappings]
    rfl
  · rw [if_neg hmappings]
    apply map_of_expected h hmappings
    intro mapping hmapping column _
    have hname : ¬ mapping.destination.isEmpty = true := by
      simpa [String.isEmpty_iff] using hnamed mapping hmapping
    rw [Column.renamed, if_neg hname]

/-- There is one expected column for each column of the source, or for each mapping. -/
theorem length_of_expected {source : TableDefinition} {mappings : List ColumnMapping}
    {expected : ColumnCollection} (h : ColumnMapping.expected source mappings = .ok expected) :
    expected.names.length = if mappings.isEmpty then source.columnNames.length
      else mappings.length := by
  by_cases hmappings : mappings.isEmpty
  · rw [if_pos hmappings, ColumnCollection.names, columns_of_expected h hmappings]
    rfl
  · rw [if_neg hmappings]
    have hcount : expected.columns.map (fun _ => ()) = mappings.map fun _ => () :=
      map_of_expected h hmappings (by simp)
    simpa [ColumnCollection.names] using congrArg List.length hcount

end ColumnMapping

namespace FilterQuery

/-- A filter leaves the table. -/
theorem table_of_restrict {query next : FilterQuery} {filter : WhereFilter}
    (h : query.restrict filter = .ok next) : next.table = query.table := by
  unfold restrict at h
  split at h
  · cases h
  · obtain ⟨cast, -, h⟩ := bind_eq_ok.mp h
    obtain ⟨value, -, h⟩ := bind_eq_ok.mp h
    rw [← Except.ok.inj h]
    rfl
  · split at h
    · cases h
    · obtain ⟨cast, -, h⟩ := bind_eq_ok.mp h
      obtain ⟨values, -, h⟩ := bind_eq_ok.mp h
      rw [← Except.ok.inj h]
      rfl

/-- Filters that are added one by one leave the table. -/
theorem table_of_foldlM {filters : List FilterSpec} {query last : FilterQuery}
    (h : filters.foldlM add query = .ok last) : last.table = query.table := by
  induction filters generalizing query with
  | nil =>
    rw [← Except.ok.inj h]
  | cons filter rest ih =>
    rw [List.foldlM_cons] at h
    obtain ⟨next, hadd, h⟩ := bind_eq_ok.mp h
    obtain ⟨checked, -, hrestrict⟩ := bind_eq_ok.mp hadd
    rw [ih h, table_of_restrict hrestrict]

/-- A selection under filters is the text of some query on its table. -/
theorem exists_of_select {table : TableName} {columns : List String} {filters : List FilterSpec}
    {seconds limit : Int} {sql : SqlText} {bindings : List Binding}
    (h : FilterQuery.select table columns filters seconds limit = .ok (sql, bindings)) :
    ∃ query : FilterQuery, query.table = table ∧ sql = query.sql columns limit := by
  obtain ⟨query, hquery, h⟩ := bind_eq_ok.mp h
  obtain ⟨hsql, -⟩ := Prod.mk.inj (Except.ok.inj h)
  refine ⟨query, ?_, hsql.symm⟩
  rw [table_of_foldlM hquery]
  unfold within
  split <;> rfl

end FilterQuery

/-- The base of a selection gives the named columns of a table: it is the table, or a query that
selects them from it. -/
def SelectBase.Gives (base : SelectBase) (table : TableName) (columns : List String) : Prop :=
  base = .table table ∨ ∃ (query : FilterQuery) (limit : Int),
    query.table = table ∧ base = .query (query.sql columns limit)

/-- A mapped selection takes the routes, from the columns of a table where they begin. -/
structure MappedSelect.Carries (select : MappedSelect) (table : TableName)
    (routes : List ColumnMapping) : Prop where
  mappings : select.mappings = routes
  base : select.base.Gives table (routes.map (·.source))

namespace SourceContext

/-- A generated query is the selection of the columns under the filters. -/
theorem select_of_generate {request : SourceRequest} {full effective : TableDefinition}
    {selected : List String} {source : Source}
    (h : generate request full effective selected = .ok source) :
    ∃ sql bindings, FilterQuery.select full.name selected request.filters request.seconds
        request.limit = .ok (sql, bindings) ∧
      source = .query sql bindings selected effective.primaryKeys := by
  obtain ⟨filtered, -, h⟩ := bind_eq_ok.mp h
  obtain ⟨known, -, h⟩ := bind_eq_ok.mp h
  obtain ⟨⟨sql, bindings⟩, hselection, h⟩ := bind_eq_ok.mp h
  exact ⟨sql, bindings, hselection, (Except.ok.inj h).symm⟩

/-- It selects them from the table. -/
theorem exists_of_generate {request : SourceRequest} {full effective : TableDefinition}
    {selected : List String} {source : Source}
    (h : generate request full effective selected = .ok source) :
    ∃ (query : FilterQuery) (limit : Int) (bindings : List Binding),
      query.table = full.name ∧
      source = .query (query.sql selected limit) bindings selected effective.primaryKeys := by
  obtain ⟨sql, bindings, hselection, rfl⟩ := select_of_generate h
  obtain ⟨query, htable, rfl⟩ := FilterQuery.exists_of_select hselection
  exact ⟨query, request.limit, bindings, htable, rfl⟩

/-- Names are mapped to the source by position along routes that begin at the selected columns, which
never fails. -/
theorem mappedTo_of_selected {request : SourceRequest} {full : TableDefinition}
    {context : SourceContext} {routes : List ColumnMapping}
    (h : ofDefinition request full = .ok context)
    (hselected : context.selected = routes.map (·.source)) :
    ∃ select, context.source.mappedTo (routes.map (·.destination)) = .ok select ∧
      select.Carries full.name routes := by
  obtain ⟨-, -, heffective, hsource⟩ := parts_of_ofDefinition h
  split at hsource
  · obtain ⟨query, limit, bindings, htable, hquery⟩ := exists_of_generate hsource
    refine ⟨⟨routes, .query (query.sql context.selected limit), bindings,
      context.effective.primaryKeys⟩, ?_, rfl, .inr ⟨query, limit, htable, by rw [hselected]⟩⟩
    rw [hquery, Source.mappedTo, Source.columns, hselected, ColumnMapping.positional_map]
    rfl
  · refine ⟨⟨routes, .table context.effective.name, [], context.effective.primaryKeys⟩, ?_, rfl,
      .inl ?_⟩
    · rw [hsource, Source.mappedTo, Source.columns, hselected, ColumnMapping.positional_map]
      rfl
    · rw [TableDefinition.name_of_restrict heffective]

/-- The destinations of the routes are mapped to the source by position. -/
theorem mappedTo_routes {command : TableCommand} {full : TableDefinition}
    {context : SourceContext} (h : ofDefinition command.source.request full = .ok context) :
    ∃ select, context.source.mappedTo ((command.routes full).map (·.destination)) = .ok select ∧
      select.Carries full.name (command.routes full) :=
  mappedTo_of_selected h (selected_eq h)

/-- Without mappings the part of the source that is read has all its columns. -/
theorem columns_of_no_mappings {command : TableCommand} {full : TableDefinition}
    {context : SourceContext} (h : ofDefinition command.source.request full = .ok context)
    (hmappings : command.source.mappings.isEmpty = true) :
    context.selected = full.columnNames ∧
      context.effective.columns.columns = full.columns.columns := by
  have hselected : context.selected = full.columnNames := by
    rw [selected_eq h, TableCommand.routes, if_pos hmappings, List.map_map]
    exact List.map_id _
  exact ⟨hselected, TableDefinition.columns_of_restrict_all (parts_of_ofDefinition h).2.2.1
    (by rw [hselected])⟩

/-- The expected columns have the names at the ends of the routes. -/
theorem names_of_expected {command : TableCommand} {full : TableDefinition}
    {context : SourceContext} {expected : ColumnCollection}
    (h : ofDefinition command.source.request full = .ok context)
    (hnamed : ∀ route ∈ command.routes full, route.destination ≠ "")
    (hexpected : ColumnMapping.expected context.effective command.source.mappings = .ok expected) :
    expected.names = (command.routes full).map (·.destination) := by
  unfold TableCommand.routes at hnamed ⊢
  by_cases hmappings : command.source.mappings.isEmpty
  · have hnames : expected.names = context.effective.columnNames := by
      rw [List.isEmpty_iff.mp hmappings] at hexpected
      exact ColumnMapping.names_of_expected hexpected (by simp)
    rw [if_pos hmappings, List.map_map, hnames, TableDefinition.columnNames,
      ColumnCollection.names, (columns_of_no_mappings h hmappings).2]
    exact (List.map_id _).symm
  · rw [if_neg hmappings] at hnamed ⊢
    rw [ColumnMapping.names_of_expected hexpected hnamed, if_neg hmappings]

/-- The expected columns are the ends of routes that begin at the selected columns, whatever their
names are. -/
theorem exists_routes_to_expected {command : TableCommand} {full : TableDefinition}
    {context : SourceContext} {expected : ColumnCollection}
    (h : ofDefinition command.source.request full = .ok context)
    (hexpected : ColumnMapping.expected context.effective command.source.mappings = .ok expected) :
    ∃ routes : List ColumnMapping, routes.map (·.source) = context.selected ∧
      routes.map (·.destination) = expected.names := by
  have hlength : context.selected.length = expected.names.length := by
    have hcount := ColumnMapping.length_of_expected hexpected
    by_cases hmappings : command.source.mappings.isEmpty
    · obtain ⟨hselected, hcolumns⟩ := columns_of_no_mappings h hmappings
      rw [hcount, if_pos hmappings, hselected, TableDefinition.columnNames,
        TableDefinition.columnNames, ColumnCollection.names, ColumnCollection.names, hcolumns]
    · rw [hcount, if_neg hmappings, selected_eq h, TableCommand.routes, if_neg hmappings,
        List.length_map]
  refine ⟨(context.selected.zip expected.names).map fun pair => ⟨pair.1, pair.2⟩, ?_, ?_⟩
  · rw [List.map_map]
    exact List.map_fst_zip (Nat.le_of_eq hlength)
  · rw [List.map_map]
    exact List.map_snd_zip (Nat.le_of_eq hlength.symm)

end SourceContext

end WarehouseImport
