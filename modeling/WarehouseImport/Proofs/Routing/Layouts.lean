import WarehouseImport.Proofs.Validation.Definitions

/-!
# Layouts beside expected columns

The expected columns and the layout of a staging table are made of the same mappings by different
functions: one renames columns of the source, the other looks the names up at the destination and
makes up columns for those it does not find. They agree on every name that is given. They part on
the empty name, which leaves a renamed column its name and is refused for a made up one.

Where a command has no mappings, its columns are written out as mappings to their own names before
they are laid out.
-/

namespace WarehouseImport

open WarehouseImport.Text

namespace ColumnMapping

/-- The mappings, or without any each column of a source to its own name. -/
def writtenOut (source : TableDefinition) (mappings : List ColumnMapping) : List ColumnMapping :=
  if mappings.isEmpty then source.columnNames.map same else mappings

/-- The expected columns have the names at the ends of the mappings as they are written out. -/
theorem names_of_writtenOut {source : TableDefinition} {mappings : List ColumnMapping}
    {expected : ColumnCollection} (h : ColumnMapping.expected source mappings = .ok expected)
    (hnamed : ∀ mapping ∈ writtenOut source mappings, mapping.destination ≠ "") :
    expected.names = (writtenOut source mappings).map (·.destination) := by
  unfold writtenOut at hnamed ⊢
  by_cases hmappings : mappings.isEmpty
  · rw [if_pos hmappings, ColumnCollection.names, columns_of_expected h hmappings, List.map_map]
    exact (List.map_id source.columnNames).symm
  · rw [if_neg hmappings] at hnamed ⊢
    rw [names_of_expected h hnamed, if_neg hmappings]

end ColumnMapping

/-- An import lays out the mappings of its command as they are written out. -/
theorem FromTable.stagingMappings_eq {command : TableCommand} {full : TableDefinition}
    {context : SourceContext}
    (h : SourceContext.ofDefinition command.source.request full = .ok context) :
    stagingMappings command context =
      ColumnMapping.writtenOut context.effective command.source.mappings := by
  unfold stagingMappings ColumnMapping.writtenOut
  by_cases hmappings : command.source.mappings.isEmpty
  · obtain ⟨hselected, hcolumns⟩ := SourceContext.columns_of_no_mappings h hmappings
    have hnames : context.effective.columnNames = full.columnNames := by
      simp only [TableDefinition.columnNames, ColumnCollection.names, hcolumns]
    rw [if_pos hmappings, if_pos hmappings, hselected, hnames]
  · rw [if_neg hmappings, if_neg hmappings]

/-- The column that is made up for a name that is given. -/
theorem Column.generic_eq {name : String} (hname : name ≠ "") :
    generic name =
      .ok ⟨name, "STRING", some DataType.greatestTextLength, .flag true, none, none⟩ := by
  have hgiven : name.isEmpty = false := by simpa [String.isEmpty_iff] using hname
  refine bind_eq_ok.mpr ⟨name, ?_, rfl⟩
  simp [ColumnSpec.generic, ColumnSpec.requiredText, hgiven]

namespace Staging

variable {destination : TableDefinition} {mappings : List ColumnMapping} {name table : String}
  {nullable : Bool} {layout : Layout}

/-- There is a staged column for every name that is given. -/
theorem exists_column (hname : name ≠ "") :
    ∃ staged, column destination name nullable = .ok staged := by
  unfold column
  split
  · exact ⟨_, rfl⟩
  · exact ⟨_, Column.generic_eq hname⟩

/-- There is none for the empty name, as no column of the destination has it. -/
theorem column_empty (hnamed : destination.Named) :
    column destination "" nullable = .error .missingArgument := by
  have hnone : destination.columns.get? "" = none := by
    cases hfound : destination.columns.get? "" with
    | none => rfl
    | some found =>
      obtain ⟨hmem, hname⟩ := ColumnCollection.mem_of_get? hfound
      exact absurd (eq_empty_of_lower hname) (hnamed found hmem)
  rw [column, hnone]
  rfl

/-- Mappings to names that are given can be laid out. -/
theorem exists_ofMappings (hnamed : ∀ mapping ∈ mappings, mapping.destination ≠ "") :
    ∃ layout, Layout.ofMappings destination mappings = .ok layout := by
  obtain ⟨columns, hcolumns⟩ := exists_mapM_eq_ok (f := fun mapping : ColumnMapping =>
      column destination mapping.destination
        (!(NameIndex.ofNames destination.primaryKeys).contains mapping.destination))
    fun mapping hmapping => exists_column (hnamed mapping hmapping)
  exact ⟨_, map_eq_ok.mpr ⟨columns, hcolumns, rfl⟩⟩

/-- Mappings of which one ends at the empty name cannot. -/
theorem ofMappings_of_empty (hnamed : destination.Named)
    (hempty : ∃ mapping ∈ mappings, mapping.destination = "") :
    Layout.ofMappings destination mappings = .error .missingArgument := by
  apply map_eq_error.mpr
  apply (mapM_eq_error ?_).mpr
  · obtain ⟨mapping, hmem, hmapping⟩ := hempty
    exact ⟨rfl, mapping, hmem, hmapping ▸ column_empty hnamed⟩
  · intro mapping failure hfailed
    by_cases hmapping : mapping.destination = ""
    · rw [hmapping, column_empty hnamed] at hfailed
      exact (Except.error.inj hfailed).symm
    · obtain ⟨staged, hstaged⟩ := exists_column hmapping
      rw [hstaged] at hfailed
      cases hfailed

/-- A layout whose names differ by more than case defines a table under every name. -/
theorem exists_define (hdataset : destination.name.dataset ≠ "") (htable : table ≠ "")
    (hlayout : Layout.ofMappings destination mappings = .ok layout)
    (hdistinct : ((mappings.map (·.destination)).map lower).Nodup) :
    ∃ staging, layout.define destination table = .ok staging := by
  have hname : TableName.make destination.name.dataset table =
      .ok ⟨destination.name.dataset, table⟩ := by
    simp [TableName.make, hdataset, htable]
  rw [← Layout.names_of_ofMappings hlayout] at hdistinct
  obtain ⟨staging, hmade⟩ := TableDefinition.exists_make hdistinct (Layout.keys_mem_names hlayout)
  exact ⟨staging, bind_eq_ok.mpr ⟨_, hname, hmade⟩⟩

/-- Where all names are given, the mappings of expected columns are laid out for every destination
and define a staging table under every name, with the names of the expected columns. -/
theorem exists_layout {source : TableDefinition} {expected : ColumnCollection}
    (hdataset : destination.name.dataset ≠ "") (htable : table ≠ "")
    (hexpected : ColumnMapping.expected source mappings = .ok expected)
    (hgiven : ∀ mapping ∈ ColumnMapping.writtenOut source mappings, mapping.destination ≠ "") :
    ∃ layout staging,
      Layout.ofMappings destination (ColumnMapping.writtenOut source mappings) = .ok layout ∧
      layout.define destination table = .ok staging ∧
      staging.columnNames = expected.names := by
  have hnames := ColumnMapping.names_of_writtenOut hexpected hgiven
  obtain ⟨layout, hlayout⟩ : ∃ layout, Layout.ofMappings destination
      (ColumnMapping.writtenOut source mappings) = .ok layout := exists_ofMappings hgiven
  obtain ⟨staging, hstaging⟩ := exists_define hdataset htable hlayout
    (by rw [← hnames]; exact expected.nodup_lower_names)
  refine ⟨layout, staging, hlayout, hstaging, ?_⟩
  rw [TableDefinition.columnNames, ColumnCollection.names, (Layout.parts_of_define hstaging).2.1,
    Layout.names_of_ofMappings hlayout, hnames]

/-- A layout agrees with the expected columns unless a name is empty. Wherever the columns expected
of a destination can be made, the same mappings, written out where there are none, can be laid out
for every destination and define a staging table under every name; its columns have the names of
the expected ones, position by position. This is so if every mapping ends at a name. If one ends at
the empty name, there are expected columns still but no layout. -/
theorem layout_agrees {source destination : TableDefinition} {mappings : List ColumnMapping}
    {expected : ColumnCollection} {table : String} (hnamed : destination.Named)
    (hdataset : destination.name.dataset ≠ "") (htable : table ≠ "")
    (hexpected : ColumnMapping.expected source mappings = .ok expected) :
    ((∀ mapping ∈ ColumnMapping.writtenOut source mappings, mapping.destination ≠ "") →
      ∃ layout staging,
        Layout.ofMappings destination (ColumnMapping.writtenOut source mappings) = .ok layout ∧
        layout.define destination table = .ok staging ∧
        staging.columnNames = expected.names) ∧
    ((∃ mapping ∈ ColumnMapping.writtenOut source mappings, mapping.destination = "") →
      Layout.ofMappings destination (ColumnMapping.writtenOut source mappings) =
        .error .missingArgument) := by
  exact ⟨exists_layout hdataset htable hexpected, ofMappings_of_empty hnamed⟩

/-- A source with one column. -/
def single : TableDefinition where
  name := ⟨"data", "sales"⟩
  columns := ⟨[⟨"id", "STRING", none, .flag true, none, none⟩], by decide⟩
  primaryKeys := []
  temporary := false
  rows := none
  bytes := none
  keys_known := by decide

/-- The column under another name. -/
def renamed : ColumnCollection where
  columns := [⟨"key", "STRING", none, .flag true, none, none⟩]
  distinct := by decide

/-- A column that is renamed is staged under its new name. One that is mapped to the empty name is
expected under its own and cannot be staged. -/
theorem layout_agrees_single :
    single.Named ∧
    (ColumnMapping.expected single [⟨"ID", "key"⟩] = .ok renamed ∧
      ∃ layout staging, Layout.ofMappings single [⟨"ID", "key"⟩] = .ok layout ∧
        layout.define single "staged" = .ok staging ∧ staging.columnNames = ["key"]) ∧
    (ColumnMapping.expected single [⟨"id", ""⟩] = .ok single.columns ∧
      Layout.ofMappings single [⟨"id", ""⟩] = .error .missingArgument) := by
  have hnamed : single.Named := by simp [TableDefinition.Named, single]
  have hrenamed : ColumnMapping.expected single [⟨"ID", "key"⟩] = .ok renamed := rfl
  have hexpected : ColumnMapping.expected single [⟨"id", ""⟩] = .ok single.columns := rfl
  have htable : "staged" ≠ "" := by decide
  have hgiven : ∀ mapping ∈ ColumnMapping.writtenOut single [⟨"ID", "key"⟩],
      mapping.destination ≠ "" := by decide
  exact ⟨hnamed, ⟨hrenamed, (layout_agrees hnamed (by decide) htable hrenamed).1 hgiven⟩, hexpected,
    (layout_agrees hnamed (by decide) htable hexpected).2 ⟨_, List.mem_singleton_self _, rfl⟩⟩

end Staging

/-- Once the source and the destination of an import are described and the expected columns are
made, the rows can be staged under every name, unless the command maps a column to the empty
name. -/
theorem FromTable.exists_stages {command : TableCommand} {first second : Exchange}
    {context : SourceContext} {expected : ColumnCollection} {existing : Option TableDefinition}
    {destination : TableDefinition} {name : String}
    (hdescribes : Describes command first second context expected existing)
    (hdataset : destination.name.dataset ≠ "") (hname : name ≠ "")
    (hgiven : ∀ mapping ∈ command.source.mappings, mapping.destination ≠ "") :
    ∃ staging, Stages command context destination name staging ∧
      staging.columnNames = expected.names := by
  obtain ⟨full, hfull, hcontext⟩ := hdescribes.source
  have heffective : context.effective.Named :=
    hfull.named.restrict (SourceContext.parts_of_ofDefinition hcontext).2.2.1
  have hwritten : ∀ mapping ∈ ColumnMapping.writtenOut context.effective command.source.mappings,
      mapping.destination ≠ "" := by
    intro mapping hmapping
    unfold ColumnMapping.writtenOut at hmapping
    split at hmapping
    · obtain ⟨source, hsource, rfl⟩ := List.mem_map.mp hmapping
      obtain ⟨column, hcolumn, rfl⟩ := List.mem_map.mp hsource
      exact heffective column hcolumn
    · exact hgiven mapping hmapping
  obtain ⟨layout, staging, hlayout, hstaging, hnames⟩ :=
    Staging.exists_layout hdataset hname hdescribes.expected hwritten
  exact ⟨staging, ⟨layout, stagingMappings_eq hcontext ▸ hlayout, hstaging⟩, hnames⟩

end WarehouseImport
