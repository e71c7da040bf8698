import WarehouseImport.Proofs.Routing.Routes

/-!
# Where columns come from

Every column that an import works with comes from the description of a table, and only its name may
change on the way. The part of a source that is read has columns of the source; the columns that are
expected are columns of that part; a destination that is created has the expected columns, and the
time column if it is stamped.

Descriptions give every column a name, so no column is ever without one. A route that ends at the
empty name therefore keeps the name of its column where a destination is filled directly, while no
staging table can be made for it.
-/

namespace WarehouseImport

open WarehouseImport.Text

namespace NameIndex

variable {α : Type u}

/-- What is found in an index after items were added was there before, or is one of them. -/
theorem mem_items_foldl_add {items : List (String × α)} {index : NameIndex α} {item : α}
    (h : item ∈ (items.foldl (fun index item => index.add item.1 item.2) index).items) :
    item ∈ index.items ∨ item ∈ items.map Prod.snd := by
  induction items generalizing index with
  | nil => exact .inl h
  | cons first rest ih =>
    rcases ih h with hindex | hrest
    · change item ∈ (index.add first.1 first.2).items at hindex
      unfold add at hindex
      split at hindex
      · exact .inl hindex
      · rw [NameIndex.items, List.map_append, List.mem_append] at hindex
        rcases hindex with hbefore | hfirst
        · exact .inl hbefore
        · exact .inr (by simpa using Or.inl hfirst)
    · exact .inr (List.mem_cons_of_mem _ hrest)

/-- What is found in an index is one of its items. -/
theorem mem_items_ofList {items : List (String × α)} {item : α}
    (h : item ∈ (ofList items).items) : item ∈ items.map Prod.snd := by
  rcases mem_items_foldl_add h with hempty | hadded
  · cases hempty
  · exact hadded

end NameIndex

namespace TableDefinition

variable {definition restricted : TableDefinition} {names : List String} {column : Column}

/-- A restricted definition has columns of the definition. -/
theorem mem_of_restrict (h : definition.restrict names = .ok restricted)
    (hmem : column ∈ restricted.columns.columns) : column ∈ definition.columns.columns := by
  by_cases hnames : names = []
  · rw [hnames, restrict] at h
    rw [← Except.ok.inj h] at hmem
    exact hmem
  · rw [(parts_of_restrict h hnames).2.2] at hmem
    have hfound := NameIndex.mem_items_ofList hmem
    rw [List.map_map] at hfound
    obtain ⟨taken, htaken, rfl⟩ := List.mem_map.mp hfound
    obtain ⟨name, -, hget⟩ := List.mem_filterMap.mp htaken
    exact (ColumnCollection.mem_of_get? hget).1

/-- What a restricted definition finds under a name is what the definition finds there. -/
theorem get?_of_restrict {name : String} (h : definition.restrict names = .ok restricted)
    (hget : restricted.columns.get? name = some column) :
    definition.columns.get? name = some column := by
  obtain ⟨hmem, hname⟩ := ColumnCollection.mem_of_get? hget
  exact ColumnCollection.get?_of_lower_eq (mem_of_restrict h hmem) hname

/-- All columns of the definition have names. -/
def Named (definition : TableDefinition) : Prop :=
  ∀ column ∈ definition.columns.columns, column.name ≠ ""

/-- So have those of a restricted one. -/
theorem Named.restrict (hnamed : definition.Named) (h : definition.restrict names = .ok restricted) :
    restricted.Named :=
  fun column hmem => hnamed column (mem_of_restrict h hmem)

end TableDefinition

/-- Another name leaves the type of a column. -/
theorem Column.writtenType_renamed (column : Column) (name : String) :
    (column.renamed name).writtenType = column.writtenType := by
  unfold renamed
  split <;> rfl

/-- An expected column is a column of the source, under its own name or another one. -/
theorem ColumnMapping.exists_of_mem_expected {source : TableDefinition}
    {mappings : List ColumnMapping} {expected : ColumnCollection} {column : Column}
    (h : ColumnMapping.expected source mappings = .ok expected) (hmem : column ∈ expected.columns) :
    ∃ original ∈ source.columns.columns, ∃ name, column = original.renamed name := by
  by_cases hmappings : mappings.isEmpty
  · rw [columns_of_expected h hmappings] at hmem
    exact ⟨column, hmem, "", rfl⟩
  · unfold ColumnMapping.expected at h
    rw [if_neg hmappings] at h
    dsimp only at h
    split at h
    · rw [ColumnCollection.columns_of_ofList h] at hmem
      obtain ⟨mapping, -, hcolumn⟩ := List.mem_filterMap.mp hmem
      obtain ⟨original, hget, rfl⟩ := Option.map_eq_some_iff.mp hcolumn
      exact ⟨original, (ColumnCollection.mem_of_get? hget).1, mapping.destination, rfl⟩
    · cases h

/-- Along routes from the selected columns to the expected ones, each column keeps its type. -/
theorem SourceContext.exists_of_expected {command : TableCommand} {full : TableDefinition}
    {context : SourceContext} {expected : ColumnCollection} {routes : List ColumnMapping}
    (h : ofDefinition command.source.request full = .ok context)
    (hexpected : ColumnMapping.expected context.effective command.source.mappings = .ok expected)
    (hsources : routes.map (·.source) = context.selected)
    (hnames : routes.map (·.destination) = expected.names) {route : ColumnMapping}
    (hroute : route ∈ routes) :
    ∃ column original, expected.get? route.destination = some column ∧
      full.columns.get? route.source = some original ∧
      column.writtenType = original.writtenType := by
  let typeOf (name : String) : Option String := (full.columns.get? name).map Column.writtenType
  have htypes : expected.columns.map (fun column => some column.writtenType) =
      context.selected.map typeOf := by
    by_cases hmappings : command.source.mappings.isEmpty
    · obtain ⟨hselected, hcolumns⟩ := columns_of_no_mappings h hmappings
      rw [ColumnMapping.columns_of_expected hexpected hmappings, hcolumns, hselected,
        TableDefinition.columnNames, ColumnCollection.names, List.map_map]
      apply List.map_congr_left
      intro column hcolumn
      simp [typeOf, ColumnCollection.get?_of_mem hcolumn]
    · have hselected : context.selected = command.source.mappings.map (·.source) := by
        rw [selected_eq h, TableCommand.routes, if_neg hmappings]
      rw [hselected, List.map_map]
      apply ColumnMapping.map_of_expected hexpected hmappings
      intro mapping _ column hcolumn
      rw [Column.writtenType_renamed]
      simp [typeOf,
        TableDefinition.get?_of_restrict (parts_of_ofDefinition h).2.2.1 hcolumn]
  have hboth : expected.columns.map (fun column => (column.name, some column.writtenType)) =
      routes.map fun route => (route.destination, typeOf route.source) := by
    rw [← hsources, List.map_map] at htypes
    have hends : expected.columns.map Column.name = routes.map (·.destination) := hnames.symm
    rw [← List.zip_map', ← List.zip_map', htypes, hends]
    rfl
  have hmem : (route.destination, typeOf route.source) ∈
      expected.columns.map fun column => (column.name, some column.writtenType) := by
    rw [hboth]
    exact List.mem_map_of_mem hroute
  obtain ⟨column, hcolumn, hpair⟩ := List.mem_map.mp hmem
  obtain ⟨hname, htype⟩ := Prod.mk.inj hpair
  obtain ⟨original, horiginal, hsame⟩ := Option.map_eq_some_iff.mp htype.symm
  exact ⟨column, original, by rw [← hname]; exact ColumnCollection.get?_of_mem hcolumn, horiginal,
    hsame.symm⟩

/-- A destination that is created has the expected columns, and the time column where the import is
stamped. -/
theorem Destination.mem_columns {expected : ColumnCollection} {stamped : Bool}
    {columns : List Column} {column : Column} (h : Destination.columns expected stamped = .ok columns)
    (hmem : column ∈ columns) :
    column ∈ expected.columns ∨
      stamped = true ∧ Column.make timestampColumn "TIMESTAMP" none true = .ok column := by
  unfold Destination.columns at h
  split at h
  · next hstamped =>
    obtain ⟨time, htime, h⟩ := bind_eq_ok.mp h
    rw [← Except.ok.inj h, List.mem_append, List.mem_singleton] at hmem
    rw [Bool.and_eq_true] at hstamped
    rcases hmem with hexpected | rfl
    · exact .inl hexpected
    · exact .inr ⟨hstamped.1, htime⟩
  · rw [Except.ok.inj h]
    exact .inl hmem

/-- What is expected under a name is found there in a destination that is created. -/
theorem Destination.get?_of_define {label : TableLabel} {expected : ColumnCollection}
    {keys : List String} {stamped : Bool} {definition : TableDefinition} {name : String}
    {column : Column} (h : define label expected keys stamped = .ok definition)
    (hget : expected.get? name = some column) : definition.columns.get? name = some column := by
  have hcolumns := (parts_of_define h).2.1
  obtain ⟨hmem, hname⟩ := ColumnCollection.mem_of_get? hget
  have hthere : column ∈ definition.columns.columns := by
    unfold Destination.columns at hcolumns
    split at hcolumns
    · obtain ⟨time, -, hcolumns⟩ := bind_eq_ok.mp hcolumns
      rw [← Except.ok.inj hcolumns]
      exact List.mem_append_left _ hmem
    · rw [← Except.ok.inj hcolumns]
      exact hmem
  exact ColumnCollection.get?_of_lower_eq hthere hname

/-- A destination that is created for a stamped import without a time column has one of its own. -/
theorem Destination.get?_time_of_define {label : TableLabel} {expected : ColumnCollection}
    {keys : List String} {definition : TableDefinition}
    (h : define label expected keys true = .ok definition)
    (hmissing : expected.get? timestampColumn = none) :
    ∃ column, definition.columns.get? timestampColumn = some column ∧
      column.writtenType = "TIMESTAMP" := by
  have hcolumns := (parts_of_define h).2.1
  have hcontains : expected.contains timestampColumn = false := by
    rw [ColumnCollection.contains_eq_isSome_get?, hmissing]
    rfl
  rw [Destination.columns, hcontains, if_pos (by rfl)] at hcolumns
  obtain ⟨time, htime, hcolumns⟩ := bind_eq_ok.mp hcolumns
  have hthere : time ∈ definition.columns.columns := by
    rw [← Except.ok.inj hcolumns]
    simp
  cases htime
  exact ⟨_, ColumnCollection.get?_of_mem hthere, rfl⟩

/-- A column that passes its check has a name. -/
theorem ColumnSpec.name_ne_of_check {spec : ColumnSpec} {column : Column}
    (h : spec.check = .ok column) : column.name ≠ "" := by
  obtain ⟨name, hname, h⟩ := bind_eq_ok.mp h
  obtain ⟨type, -, h⟩ := bind_eq_ok.mp h
  obtain ⟨length, -, h⟩ := bind_eq_ok.mp h
  obtain ⟨nullable, -, h⟩ := bind_eq_ok.mp h
  rw [← Except.ok.inj h]
  change name ≠ ""
  unfold requiredText at hname
  split at hname
  · split at hname
    · cases hname
    · next hempty =>
      rw [← Except.ok.inj hname]
      simpa [String.isEmpty_iff] using hempty
  · split at hname <;> cases hname

/-- The column of a field has a name. -/
theorem SchemaField.name_ne_of_column {field : SchemaField} {column : Column}
    (h : field.column = .ok column) : column.name ≠ "" := by
  obtain ⟨spec, -, hspec⟩ := exists_check_of_column h
  exact ColumnSpec.name_ne_of_check hspec

/-- Descriptions name all columns. -/
theorem Exchange.Describes.named {exchange : Exchange} {table : TableName}
    {definition : TableDefinition} (h : exchange.Describes table (some definition)) :
    definition.Named := by
  obtain ⟨answer, -, described, -, hdefinition⟩ := h
  unfold ReflectedTable.definition at hdefinition
  obtain ⟨columns, hcolumns, hmade⟩ := bind_eq_ok.mp hdefinition
  intro column hmem
  rw [(TableDefinition.parts_of_make hmade).2.1] at hmem
  obtain ⟨field, -, hfield⟩ := exists_of_mem_mapM hcolumns hmem
  exact SchemaField.name_ne_of_column hfield

/-- A staged column is not without a name. -/
theorem Staging.name_ne_of_column {destination : TableDefinition} {name : String} {nullable : Bool}
    {staged : Column} (hnamed : destination.Named)
    (h : column destination name nullable = .ok staged) : staged.name ≠ "" := by
  unfold column at h
  split at h
  · next found hfound =>
    obtain ⟨hmem, hname⟩ := ColumnCollection.mem_of_get? hfound
    rw [← Except.ok.inj h]
    change (found.renamed name).name ≠ ""
    unfold Column.renamed
    split
    · exact hnamed found hmem
    · next hempty => simpa [String.isEmpty_iff] using hempty
  · exact ColumnSpec.name_ne_of_check h

/-- A staged column has the type of the destination's column of its name. -/
theorem Staging.writtenType_of_column {destination : TableDefinition} {name : String}
    {nullable : Bool} {staged found : Column}
    (h : column destination name nullable = .ok staged)
    (hfound : destination.columns.get? name = some found) :
    staged.writtenType = found.writtenType := by
  unfold column at h
  rw [hfound] at h
  rw [← Except.ok.inj h]
  exact found.writtenType_renamed name

namespace FromTable

variable {command : TableCommand} {full destination base staging : TableDefinition}
  {context : SourceContext} {expected : ColumnCollection} {existing : Option TableDefinition}
  {stamped : Bool} {name : String} {first second : Exchange}

/-- A destination has names for all its columns, whether it is there or created. -/
theorem Describes.named (h : Describes command first second context expected existing)
    (hsettled : Destination.settled command.destination.label command.options expected stamped
      existing = .ok base) (hkeyed : keyed command.options base = .ok destination) :
    destination.Named := by
  unfold TableDefinition.Named
  rw [(parts_of_keyed hkeyed).2.1]
  cases existing with
  | some definition =>
    rw [← Except.ok.inj hsettled]
    exact h.destination.named
  | none =>
    obtain ⟨full, hfull, hcontext⟩ := h.source
    have heffective : context.effective.Named :=
      hfull.named.restrict (SourceContext.parts_of_ofDefinition hcontext).2.2.1
    intro column hmem
    rcases Destination.mem_columns (Destination.parts_of_define hsettled).2.1 hmem with
      hexpected | ⟨-, htime⟩
    · obtain ⟨original, horiginal, name, rfl⟩ :=
        ColumnMapping.exists_of_mem_expected h.expected hexpected
      unfold Column.renamed
      split
      · exact heffective original horiginal
      · next hempty => simpa [String.isEmpty_iff] using hempty
    · exact ColumnSpec.name_ne_of_check htime

/-- Each column of a staging table is made for its name. -/
theorem Stages.exists_column {column : Column}
    (h : Stages command context destination name staging)
    (hmem : column ∈ staging.columns.columns) :
    ∃ nullable, Staging.column destination column.name nullable = .ok column := by
  obtain ⟨layout, hlayout, hdefine⟩ := h
  rw [(Staging.Layout.parts_of_define hdefine).2.1] at hmem
  obtain ⟨columns, hcolumns, rfl⟩ := map_eq_ok.mp hlayout
  obtain ⟨mapping, -, hmade⟩ := exists_of_mem_mapM hcolumns hmem
  have hname := Staging.name_of_column hmade
  rw [← hname] at hmade
  exact ⟨_, hmade⟩

/-- Where columns are laid out for the rows of an import, every route ends at a name. -/
theorem routes_named_of_layout {layout : Staging.Layout} (hnamed : destination.Named)
    (hcontext : SourceContext.ofDefinition command.source.request full = .ok context)
    (h : Staging.Layout.ofMappings destination (stagingMappings command context) = .ok layout) :
    ∀ route ∈ command.routes full, route.destination ≠ "" := by
  intro route hroute
  have hlisted : route.destination ∈ layout.columns.map (·.name) := by
    rw [names_of_layout hcontext h]
    exact List.mem_map_of_mem hroute
  obtain ⟨column, hcolumn, hname⟩ := List.mem_map.mp hlisted
  obtain ⟨columns, hcolumns, rfl⟩ := map_eq_ok.mp h
  obtain ⟨mapping, -, hmade⟩ := exists_of_mem_mapM hcolumns hcolumn
  rw [← hname]
  exact Staging.name_ne_of_column hnamed hmade

/-- Where rows are staged, every route ends at a name. -/
theorem Stages.routes_named (hnamed : destination.Named)
    (hcontext : SourceContext.ofDefinition command.source.request full = .ok context)
    (h : Stages command context destination name staging) :
    ∀ route ∈ command.routes full, route.destination ≠ "" := by
  obtain ⟨layout, hlayout, -⟩ := h
  exact routes_named_of_layout hnamed hcontext hlayout

end FromTable

end WarehouseImport
