import WarehouseImport.Proofs.Routing.Descent
import WarehouseImport.Proofs.Validation.Failures

/-!
# Definitions that were checked before

A definition fails if the names of its columns repeat or its keys are no columns. An import makes
definitions after it has begun to write: the staging table's, the one with the keys of the command,
and that of a copy. None of these fails: an earlier check, or the definition they are made of, has
the same names and keys.
-/

namespace WarehouseImport

open WarehouseImport.Text

variable {kind : FailureKind}

namespace TableDefinition

/-- A definition can be given keys that are all columns. -/
theorem exists_withPrimaryKeys {definition : TableDefinition} {keys : List String}
    (h : definition.columns.index.missing keys = []) :
    ∃ other, definition.withPrimaryKeys keys = .ok other := by
  unfold withPrimaryKeys ofCollection
  rw [dif_pos h]
  exact ⟨_, rfl⟩

/-- A definition can be made of columns whose names differ, with keys among them. -/
theorem exists_make {name : TableName} {columns : List Column} {keys : List String}
    {temporary : Bool} {rows bytes : Option Int}
    (hdistinct : ((columns.map (·.name)).map lower).Nodup)
    (hkeys : ∀ key ∈ keys, lower key ∈ (columns.map (·.name)).map lower) :
    ∃ definition, make name columns keys temporary rows bytes = .ok definition := by
  have hnames : repeatedNames [] (columns.map (·.name)) = [] :=
    (repeatedNames_eq_nil_iff [] _).mpr ⟨hdistinct, by simp⟩
  have hcolumns : ColumnCollection.ofList columns = .ok ⟨columns, hnames⟩ := dif_pos hnames
  have hknown : (ColumnCollection.mk columns hnames).index.missing keys = [] := by
    apply List.filter_eq_nil_iff.mpr
    intro key hkey
    have hcontains : (ColumnCollection.mk columns hnames).contains key = true := by
      rw [ColumnCollection.contains_eq, NameIndex.contains_ofNames]
      exact List.contains_iff_mem.mpr (hkeys key hkey)
    simpa [ColumnCollection.contains] using hcontains
  refine ⟨⟨name, ⟨columns, hnames⟩, keys, temporary, rows, bytes, hknown⟩, ?_⟩
  unfold make
  rw [hcolumns]
  exact dif_pos hknown

/-- A definition can be restricted to names of its columns, even to names that repeat. -/
theorem exists_restrict {definition : TableDefinition} {names : List String}
    (h : ∀ name ∈ names, definition.columns.contains name = true) :
    ∃ restricted, definition.restrict names = .ok restricted := by
  have hmissing : definition.columns.index.missing names = [] := by
    apply List.filter_eq_nil_iff.mpr
    intro name hname
    simpa [ColumnCollection.contains] using h name hname
  unfold restrict
  rw [hmissing]
  split
  · exact ⟨definition, rfl⟩
  · refine exists_make ?_ fun key hkey => ?_
    · rw [List.map_map]
      exact NameIndex.nodup_lower_items Column.name _
    · have htaken := (List.mem_filter.mp hkey).2
      rw [List.map_map]
      exact List.contains_iff_mem.mp htaken

end TableDefinition

/-- A description in which the names of fields differ by more than case, with keys among them. -/
structure ReflectedTable.Sound (described : ReflectedTable) : Prop where
  distinct : ((described.fields.filterMap (·.name)).map lower).Nodup
  keyed : ∀ key ∈ described.primaryKeys,
    lower key ∈ (described.fields.filterMap (·.name)).map lower

/-- The definition of a sound description passes. -/
theorem ReflectedTable.Sound.passes_definition {described : ReflectedTable}
    (hsound : described.Sound) (table : TableName) : Passes kind (described.definition table) := by
  apply (passes_mapM SchemaField.passes_column _).bind
  intro columns hcolumns
  have hnames : described.fields.filterMap (·.name) = columns.map (·.name) := by
    have hsome : columns.map (fun column => some column.name) = described.fields.map (·.name) :=
      map_of_mapM (fun _ _ hcolumn => (SchemaField.name_of_column hcolumn).symm) hcolumns
    calc described.fields.filterMap (·.name)
        = (described.fields.map (·.name)).filterMap id := by rw [List.filterMap_map]; rfl
      _ = columns.map (·.name) := by rw [← hsome, List.filterMap_map]; simp
  obtain ⟨hdistinct, hkeyed⟩ := hsound
  rw [hnames] at hdistinct hkeyed
  obtain ⟨definition, hmade⟩ := TableDefinition.exists_make hdistinct hkeyed
  rw [hmade]
  exact passes_ok _

namespace Staging

/-- The columns of a staging table pass. -/
theorem passes_column (destination : TableDefinition) (name : String) (nullable : Bool) :
    Passes kind (column destination name nullable) := by
  unfold column
  split
  · exact passes_ok _
  · exact Column.passes_generic name

/-- So does their layout for mapped columns. -/
theorem Layout.passes_ofMappings (destination : TableDefinition) (mappings : List ColumnMapping) :
    Passes kind (ofMappings destination mappings) :=
  (passes_mapM (fun _ => passes_column _ _ _) _).map _

/-- The keys of a layout are names of its columns. -/
theorem Layout.keys_mem_names {destination : TableDefinition} {mappings : List ColumnMapping}
    {layout : Layout} (h : ofMappings destination mappings = .ok layout) :
    ∀ key ∈ layout.keys, lower key ∈ (layout.columns.map (·.name)).map lower := by
  obtain ⟨columns, -, rfl⟩ := map_eq_ok.mp h
  intro key hkey
  have hamong := (List.mem_filter.mp hkey).2
  rw [NameIndex.contains_ofNames] at hamong
  simpa using hamong

end Staging

namespace FromTable

variable {command : TableCommand} {first second : Exchange} {context : SourceContext}
  {expected : ColumnCollection} {existing : Option TableDefinition} {stamped : Bool}
  {base destination : TableDefinition}

/-- A destination takes the keys of a command once these were checked, or where the destination was
made with them. -/
theorem passes_keyed
    (hchecked : command.options.dedupType = .updateDuplicates → ∀ definition,
      existing = some definition →
        definition.columns.index.missing command.options.dedupColumns = [])
    (hsettled : Destination.settled command.destination.label command.options expected stamped
      existing = .ok base) :
    Passes kind (keyed command.options base) := by
  unfold keyed
  split
  · next hkeys =>
    have hknown : base.columns.index.missing command.options.dedupColumns = [] := by
      cases existing with
      | some definition =>
        obtain rfl := Except.ok.inj hsettled
        exact hchecked hkeys.1 definition rfl
      | none =>
        rw [← (Destination.parts_of_define hsettled).2.2]
        exact base.keys_known
    obtain ⟨other, hother⟩ := TableDefinition.exists_withPrimaryKeys hknown
    rw [hother]
    exact passes_ok _
  · exact passes_ok _

/-- The staging table of an import can be defined: its columns are those that were expected of the
destination. -/
theorem passes_define {layout : Staging.Layout}
    (hdescribes : Describes command first second context expected existing)
    (hsettled : Destination.settled command.destination.label command.options expected stamped
      existing = .ok base)
    (hkeyed : keyed command.options base = .ok destination)
    (hlayout : Staging.Layout.ofMappings destination (stagingMappings command context) = .ok layout)
    (table : String) : Passes kind (layout.define destination table) := by
  obtain ⟨full, -, hdefinition⟩ := hdescribes.source
  have hnames : layout.columns.map (·.name) = expected.names := by
    rw [names_of_layout hdefinition hlayout]
    exact (SourceContext.names_of_expected hdefinition (routes_named_of_layout
      (hdescribes.named hsettled hkeyed) hdefinition hlayout) hdescribes.expected).symm
  apply (TableName.passes_make _ _).bind
  intro name _
  obtain ⟨definition, hmade⟩ := TableDefinition.exists_make
    (by rw [hnames]; exact expected.nodup_lower_names) (Staging.Layout.keys_mem_names hlayout)
  rw [hmade]
  exact passes_ok _

end FromTable

end WarehouseImport
