import WarehouseImport.Proofs.Names
import WarehouseImport.Proofs.Run.FromFile
import WarehouseImport.Proofs.Run.FromTable

/-!
# The parts of definitions

The definitions that an import works with are made from others: a destination is given keys or is
created from the expected columns, a staging table takes its columns from mappings or names. What
each has for a name, columns and keys is stated here once, for the functions that make it.
-/

namespace WarehouseImport

open WarehouseImport.Text

namespace ColumnCollection

/-- A collection that can be made has the columns it is made of. -/
theorem columns_of_ofList {columns : List Column} {collection : ColumnCollection}
    (h : ofList columns = .ok collection) : collection.columns = columns := by
  unfold ofList at h
  split at h
  · rw [← Except.ok.inj h]
  · cases h

end ColumnCollection

namespace TableDefinition

/-- A definition that can be made has the name, columns and keys that it is made of. -/
theorem parts_of_make {name : TableName} {columns : List Column} {keys : List String}
    {temporary : Bool} {rows bytes : Option Int} {definition : TableDefinition}
    (h : make name columns keys temporary rows bytes = .ok definition) :
    definition.name = name ∧ definition.columns.columns = columns ∧
      definition.primaryKeys = keys := by
  unfold make at h
  obtain ⟨collection, hcolumns, h⟩ := bind_eq_ok.mp h
  unfold ofCollection at h
  split at h
  · rw [← Except.ok.inj h]
    exact ⟨rfl, ColumnCollection.columns_of_ofList hcolumns, rfl⟩
  · cases h

/-- Other keys leave name and columns as they are. -/
theorem parts_of_withPrimaryKeys {definition other : TableDefinition} {keys : List String}
    (h : definition.withPrimaryKeys keys = .ok other) :
    other.name = definition.name ∧ other.columns = definition.columns ∧
      other.primaryKeys = keys := by
  unfold withPrimaryKeys ofCollection at h
  split at h
  · rw [← Except.ok.inj h]
    exact ⟨rfl, rfl, rfl⟩
  · cases h

end TableDefinition

/-- A description that can be read defines the table it was asked for. -/
theorem Exchange.Describes.name_eq {exchange : Exchange} {table : TableName}
    {definition : TableDefinition} (h : exchange.Describes table (some definition)) :
    definition.name = table := by
  obtain ⟨answer, -, described, -, hdefinition⟩ := h
  unfold ReflectedTable.definition at hdefinition
  obtain ⟨columns, -, hmade⟩ := bind_eq_ok.mp hdefinition
  exact (TableDefinition.parts_of_make hmade).1

/-- The parts of a source that can be resolved: its selected columns are the mapped ones or all of
them, and the part that is read is the table restricted to these. -/
theorem SourceContext.parts_of_ofDefinition {request : SourceRequest} {full : TableDefinition}
    {context : SourceContext} (h : ofDefinition request full = .ok context) :
    context.full = full ∧ context.selected = selectedOf request full ∧
      full.restrict context.selected = .ok context.effective ∧
      (if needsQuery request full context.selected then
        generate request full context.effective context.selected = .ok context.source
      else context.source =
        .table context.effective.name context.selected context.effective.primaryKeys) := by
  unfold ofDefinition at h
  obtain ⟨effective, heffective, h⟩ := bind_eq_ok.mp h
  dsimp only at h
  split at h
  · next hquery =>
    obtain ⟨source, hsource, h⟩ := bind_eq_ok.mp h
    rw [← Except.ok.inj h]
    exact ⟨rfl, rfl, heffective, by rw [if_pos hquery]; exact hsource⟩
  · next hquery =>
    rw [← Except.ok.inj h]
    exact ⟨rfl, rfl, heffective, by rw [if_neg hquery]⟩

/-- The routes of a command: its mappings, or each column of the source under its own name. -/
def TableCommand.routes (command : TableCommand) (full : TableDefinition) : List ColumnMapping :=
  if command.source.mappings.isEmpty then full.columnNames.map ColumnMapping.same
  else command.source.mappings

/-- The selected columns are those where the routes begin. -/
theorem SourceContext.selected_eq {command : TableCommand} {full : TableDefinition}
    {context : SourceContext}
    (h : ofDefinition command.source.request full = .ok context) :
    context.selected = (command.routes full).map (·.source) := by
  rw [(parts_of_ofDefinition h).2.1, selectedOf, TableCommand.routes]
  change (if command.source.mappings.isEmpty then _ else _) = _
  by_cases hmappings : command.source.mappings.isEmpty
  · rw [if_pos hmappings, if_pos hmappings, List.map_map]
    exact (List.map_id _).symm
  · rw [if_neg hmappings, if_neg hmappings]
    rfl

/-- The keys that options give a destination with keys of its own. -/
def ImportOptions.keysOver (options : ImportOptions) (own : List String) : List String :=
  if options.dedupType = .updateDuplicates ∧ options.dedupColumns ≠ [] then options.dedupColumns
  else own

/-- A destination of rows from a table keeps name and columns, with the keys of the options. -/
theorem FromTable.parts_of_keyed {options : ImportOptions} {base destination : TableDefinition}
    (h : keyed options base = .ok destination) :
    destination.name = base.name ∧ destination.columns = base.columns ∧
      destination.primaryKeys = options.keysOver base.primaryKeys := by
  unfold keyed at h
  unfold ImportOptions.keysOver
  split at h
  · next hkeys =>
    rw [if_pos hkeys]
    exact TableDefinition.parts_of_withPrimaryKeys h
  · next hkeys =>
    rw [if_neg hkeys, ← Except.ok.inj h]
    exact ⟨rfl, rfl, rfl⟩

/-- A destination of rows from files likewise. -/
theorem FromFile.parts_of_keyed {command : FileCommand} {base destination : TableDefinition}
    (h : keyed command base = .ok destination) :
    destination.name = base.name ∧ destination.columns = base.columns ∧
      destination.primaryKeys = command.options.keysOver base.primaryKeys := by
  unfold keyed at h
  unfold ImportOptions.keysOver
  split at h
  · next hkeys =>
    rw [if_pos hkeys]
    obtain ⟨checked, -, h⟩ := bind_eq_ok.mp h
    exact TableDefinition.parts_of_withPrimaryKeys h
  · next hkeys =>
    rw [if_neg hkeys, ← Except.ok.inj h]
    exact ⟨rfl, rfl, rfl⟩

/-- A destination that is created has the name of the command and the keys it is given. -/
theorem Destination.parts_of_define {label : TableLabel} {expected : ColumnCollection}
    {keys : List String} {stamped : Bool} {definition : TableDefinition}
    (h : define label expected keys stamped = .ok definition) :
    definition.name = label.tableName ∧
      columns expected stamped = .ok definition.columns.columns ∧
      definition.primaryKeys = keys := by
  unfold define at h
  obtain ⟨columns, hcolumns, h⟩ := bind_eq_ok.mp h
  obtain ⟨name, hname, h⟩ := bind_eq_ok.mp h
  obtain ⟨hnamed, hmade, hkeys⟩ := TableDefinition.parts_of_make h
  exact ⟨hnamed.trans (TableLabel.eq_of_check hname), by rw [hcolumns, hmade], hkeys⟩

/-- A column that is made from a text has the text for its name. -/
theorem ColumnSpec.name_of_check {spec : ColumnSpec} {name : String} {column : Column}
    (hname : spec.name = .str name) (h : spec.check = .ok column) : column.name = name := by
  obtain ⟨_, type, length, nullable, default, arrayField⟩ := spec
  obtain rfl : _ = Json.str name := hname
  obtain ⟨given, hgiven, h⟩ := bind_eq_ok.mp h
  obtain ⟨type, -, h⟩ := bind_eq_ok.mp h
  obtain ⟨length, -, h⟩ := bind_eq_ok.mp h
  obtain ⟨nullable, -, h⟩ := bind_eq_ok.mp h
  rw [← Except.ok.inj h]
  change given = name
  simp only [requiredText] at hgiven
  split at hgiven
  · cases hgiven
  · exact (Except.ok.inj hgiven).symm

/-- The column of a field is checked last, under the name of the field. -/
theorem SchemaField.exists_check_of_column {field : SchemaField} {column : Column}
    (h : field.column = .ok column) :
    ∃ spec : ColumnSpec, spec.name = (field.name.map Json.str).getD .null ∧
      spec.check = .ok column := by
  obtain ⟨name, type, mode, maxLength, precision, scale, default, fields, document⟩ := field
  cases type with
  | none => simp [SchemaField.column] at h
  | some type =>
    -- A nested type and a repeated field are settled first; the check comes last in any case.
    unfold SchemaField.column at h
    dsimp only at h
    split at h <;> obtain ⟨nested, -, h⟩ := bind_eq_ok.mp h <;> split at h <;>
      obtain ⟨whole, hwhole, h⟩ := bind_eq_ok.mp h
    all_goals refine ⟨_, ?_, h⟩
    all_goals first
      | (obtain ⟨element, -, rfl⟩ := map_eq_ok.mp hwhole; rfl)
      | (rw [← Except.ok.inj hwhole])

/-- The column of a field has the name of the field. -/
theorem SchemaField.name_of_column {field : SchemaField} {column : Column}
    (h : field.column = .ok column) : field.name = some column.name := by
  obtain ⟨spec, hname, hcheck⟩ := exists_check_of_column h
  cases hfield : field.name with
  | none =>
    rw [hfield] at hname
    obtain ⟨given, hgiven, -⟩ := bind_eq_ok.mp hcheck
    rw [show spec.name = .null from hname] at hgiven
    cases hgiven
  | some name =>
    rw [hfield] at hname
    rw [ColumnSpec.name_of_check hname hcheck]

namespace Staging

/-- A staged column has the name it is staged under. -/
theorem name_of_column {destination : TableDefinition} {name : String} {nullable : Bool}
    {staged : Column} (h : column destination name nullable = .ok staged) : staged.name = name := by
  unfold column at h
  split at h
  · next found hfound =>
    rw [← Except.ok.inj h]
    change (found.renamed name).name = name
    unfold Column.renamed
    split
    · next hempty =>
      have hsame := (ColumnCollection.mem_of_get? hfound).2
      rw [String.isEmpty_iff.mp hempty] at hsame ⊢
      exact eq_empty_of_lower hsame
    · rfl
  · exact ColumnSpec.name_of_check rfl h

/-- The columns of a staging table for mappings have the names at the destination. -/
theorem Layout.names_of_ofMappings {destination : TableDefinition} {mappings : List ColumnMapping}
    {layout : Layout} (h : ofMappings destination mappings = .ok layout) :
    layout.columns.map (·.name) = mappings.map (·.destination) := by
  obtain ⟨columns, hcolumns, rfl⟩ := map_eq_ok.mp h
  exact map_of_mapM (fun _ _ => name_of_column) hcolumns

/-- The columns of a staging table for files have the names of the files' columns. -/
theorem Layout.names_of_ofNames {destination : TableDefinition} {names : List String}
    {layout : Layout} (h : ofNames destination names = .ok layout) :
    layout.columns.map (·.name) = names := by
  obtain ⟨columns, hcolumns, rfl⟩ := map_eq_ok.mp h
  simpa using map_of_mapM (fun _ _ => name_of_column) hcolumns

/-- A staging table is beside its destination, with the columns and keys of its layout. -/
theorem Layout.parts_of_define {layout : Layout} {destination staging : TableDefinition}
    {table : String} (h : layout.define destination table = .ok staging) :
    staging.name = destination.name.sibling table ∧ staging.columns.columns = layout.columns ∧
      staging.primaryKeys = layout.keys := by
  obtain ⟨name, hname, h⟩ := bind_eq_ok.mp h
  obtain ⟨hnamed, hcolumns, hkeys⟩ := TableDefinition.parts_of_make h
  exact ⟨hnamed.trans (TableName.eq_of_make hname), hcolumns, hkeys⟩

end Staging

/-- A destination has the name of the command, whether it is there or created. -/
theorem Destination.name_of_settled {label : TableLabel} {options : ImportOptions}
    {expected : ColumnCollection} {stamped : Bool} {existing : Option TableDefinition}
    {base : TableDefinition}
    (hexisting : ∀ definition, existing = some definition → definition.name = label.tableName)
    (h : settled label options expected stamped existing = .ok base) :
    base.name = label.tableName := by
  cases existing with
  | some definition =>
    rw [← Except.ok.inj h]
    exact hexisting definition rfl
  | none => exact (parts_of_define h).1

/-- The staging table of an import from a table is beside its destination, and has the columns of
the mappings. -/
theorem FromTable.Stages.parts {command : TableCommand} {context : SourceContext}
    {destination staging : TableDefinition} {name : String}
    (h : Stages command context destination name staging) :
    staging.name = destination.name.sibling name ∧
      staging.columnNames = (stagingMappings command context).map (·.destination) := by
  obtain ⟨layout, hlayout, hdefine⟩ := h
  obtain ⟨hname, hcolumns, -⟩ := Staging.Layout.parts_of_define hdefine
  refine ⟨hname, ?_⟩
  rw [TableDefinition.columnNames, ColumnCollection.names, hcolumns]
  exact Staging.Layout.names_of_ofMappings hlayout

/-- A destination that is described has the name of the command, with whatever keys. -/
theorem FromTable.Describes.name_eq {command : TableCommand} {first second : Exchange}
    {context : SourceContext} {expected : ColumnCollection} {existing : Option TableDefinition}
    {stamped : Bool} {base destination : TableDefinition}
    (h : Describes command first second context expected existing)
    (hsettled : Destination.settled command.destination.label command.options expected stamped
      existing = .ok base) (hkeyed : keyed command.options base = .ok destination) :
    destination.name = command.destination.label.tableName := by
  rw [(parts_of_keyed hkeyed).1]
  apply Destination.name_of_settled _ hsettled
  intro definition hexisting
  rw [hexisting] at h
  exact h.destination.name_eq

/-- A staging table that is beside the destination of a command has the drawn name. -/
theorem FromTable.Stages.name_eq {command : TableCommand} {context : SourceContext}
    {destination staging : TableDefinition} {name : String}
    (hnamed : destination.name = command.destination.label.tableName)
    (h : Stages command context destination name staging) :
    staging.name = ⟨command.destination.dataset, name⟩ := by
  rw [h.parts.1, hnamed]
  rfl

/-- The columns laid out for the rows of an import have the names at the ends of its routes. -/
theorem FromTable.names_of_layout {command : TableCommand} {context : SourceContext}
    {full destination : TableDefinition} {layout : Staging.Layout}
    (hdefinition : SourceContext.ofDefinition command.source.request full = .ok context)
    (h : Staging.Layout.ofMappings destination (stagingMappings command context) = .ok layout) :
    layout.columns.map (·.name) = (command.routes full).map (·.destination) := by
  rw [Staging.Layout.names_of_ofMappings h, stagingMappings, TableCommand.routes,
    (SourceContext.parts_of_ofDefinition hdefinition).2.1, SourceContext.selectedOf]
  by_cases hmappings : command.source.mappings.isEmpty
  · have hrequest : command.source.request.mappings.isEmpty := hmappings
    rw [if_pos hmappings, if_pos hmappings, if_pos hrequest]
  · rw [if_neg hmappings, if_neg hmappings]

/-- So have the columns that it stages. -/
theorem FromTable.Stages.names_eq {command : TableCommand} {context : SourceContext}
    {full staging destination : TableDefinition} {name : String}
    (hdefinition : SourceContext.ofDefinition command.source.request full = .ok context)
    (h : Stages command context destination name staging) :
    staging.columnNames = (command.routes full).map (·.destination) := by
  obtain ⟨layout, hlayout, hdefine⟩ := h
  rw [TableDefinition.columnNames, ColumnCollection.names,
    (Staging.Layout.parts_of_define hdefine).2.1, names_of_layout hdefinition hlayout]

/-- The staging table of an import of files likewise, with the columns of the files. -/
theorem FromFile.Stages.parts {command : FileCommand} {destination staging : TableDefinition}
    {name : String} (h : Stages command destination name staging) :
    staging.name = destination.name.sibling name ∧ staging.columnNames = command.csv.columns := by
  obtain ⟨layout, hlayout, hdefine⟩ := h
  obtain ⟨hname, hcolumns, -⟩ := Staging.Layout.parts_of_define hdefine
  refine ⟨hname, ?_⟩
  rw [TableDefinition.columnNames, ColumnCollection.names, hcolumns]
  exact Staging.Layout.names_of_ofNames hlayout

end WarehouseImport
