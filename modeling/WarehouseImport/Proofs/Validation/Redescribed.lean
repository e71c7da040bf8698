import WarehouseImport.Proofs.Validation.Definitions
import WarehouseImport.Proofs.Validation.Reconciliation

/-!
# Destinations that are described again

A destination that an import creates is described again when the next import finds it. By then its
columns may come in another order, a view lets all of them be null, and the time column may be there
or not. None of this stands in the way of the next import: the destination reconciles with the
columns that it was created from.

Three functions have to agree for that, each with its own special case. Mappings rename columns of
the source, a definition adds the time column unless it is expected anyway, and a reconciliation
passes over the time column in the destination but not where it is expected.
-/

namespace WarehouseImport

open WarehouseImport.Text

/-- A column takes what it describes itself. -/
theorem Column.accepts_self (column : Column) : column.accepts column = true := by
  simp [accepts]

/-- A column is described again as it is, or with null allowed. -/
inductive Column.Redescribes : Column → Column → Prop where
  | same (column : Column) : Redescribes column column
  | nullable (column : Column) : Redescribes column (column.withNullable true)

/-- A column that is described again is stated alike. -/
theorem Column.Redescribes.restates {column other : Column} (h : column.Redescribes other) :
    column.Restates other := by
  cases h <;> exact ⟨rfl, rfl, rfl⟩

/-- Columns are described again in any order, each as it is or with null allowed. -/
def ColumnCollection.Redescribes (described : ColumnCollection) (columns : List Column) : Prop :=
  ∃ ordered, List.Forall₂ Column.Redescribes columns ordered ∧ ordered.Perm described.columns

/-- A collection describes its own columns again. -/
theorem ColumnCollection.redescribes_self (columns : ColumnCollection) :
    columns.Redescribes columns.columns :=
  ⟨columns.columns, List.forall₂_same.mpr fun column _ => .same column, .refl _⟩

/-- The expected columns are those of the source, or those that mappings make of them. -/
theorem ColumnMapping.columns_of_mappings {source : TableDefinition}
    {mappings : List ColumnMapping} {expected : ColumnCollection}
    (h : ColumnMapping.expected source mappings = .ok expected) :
    expected.columns = if mappings.isEmpty then source.columns.columns
      else mappings.filterMap (column? source) := by
  split
  · next hmappings => exact columns_of_expected h hmappings
  · next hmappings =>
    rw [ColumnMapping.expected, if_neg hmappings] at h
    dsimp only at h
    split at h
    · exact ColumnCollection.columns_of_ofList h
    · cases h

namespace Destination

variable {expected : ColumnCollection} {kept : List Column}

/-- The column for the time of an import. -/
def timeColumn : Column := ⟨timestampColumn, "TIMESTAMP", none, .flag true, none, none⟩

/-- What may be there of a destination that is created from expected columns: these, and the time
column besides if it is not one of them. -/
inductive Kept (expected : ColumnCollection) : List Column → Prop where
  | plain : Kept expected expected.columns
  | stamped (other : expected.contains timestampColumn = false) :
      Kept expected (expected.columns ++ [timeColumn])

/-- The columns of a destination that is created: those that are expected, and the time column if it
is wanted and not one of them. -/
theorem columns_eq (expected : ColumnCollection) (stamped : Bool) :
    columns expected stamped = .ok (expected.columns ++
      if stamped && !expected.contains timestampColumn then [timeColumn] else []) := by
  unfold columns
  split
  · rfl
  · rw [List.append_nil]

/-- The columns of a destination that is created are such as may be there. -/
theorem kept_columns (expected : ColumnCollection) (stamped : Bool) :
    Kept expected (expected.columns ++
      if stamped && !expected.contains timestampColumn then [timeColumn] else []) := by
  split
  · next hadded =>
    rw [Bool.and_eq_true, Bool.not_eq_true'] at hadded
    exact .stamped hadded.2
  · rw [List.append_nil]
    exact .plain

/-- The names of the columns differ by more than case. -/
theorem Kept.nodup (h : Kept expected kept) : ((kept.map (·.name)).map lower).Nodup := by
  cases h with
  | plain => exact expected.nodup_lower_names
  | stamped hother =>
    have hnew : lower timestampColumn ∉ expected.names.map lower := by
      rw [ColumnCollection.contains_eq, NameIndex.contains_ofNames] at hother
      simpa using hother
    rw [List.map_append, List.map_singleton]
    exact Text.nodup_lower_append_iff.mpr ⟨expected.nodup_lower_names, hnew⟩

/-- Expected columns are among the columns. -/
theorem Kept.mem_of_expected {column : Column} (h : Kept expected kept)
    (hmem : column ∈ expected.columns) : column ∈ kept := by
  cases h with
  | plain => exact hmem
  | stamped => exact List.mem_append_left _ hmem

/-- Only the time column may be there without being expected, and nothing expected has its name
then. -/
theorem Kept.mem_expected_or {column : Column} (h : Kept expected kept) (hmem : column ∈ kept) :
    column ∈ expected.columns ∨
      lower column.name = timestampColumn ∧
        ∀ wanted ∈ expected.columns, lower wanted.name ≠ timestampColumn := by
  have htime : lower timestampColumn = timestampColumn := by decide
  cases h with
  | plain => exact .inl hmem
  | stamped hother =>
    rcases List.mem_append.mp hmem with hmem | hlast
    · exact .inl hmem
    · obtain rfl := List.mem_singleton.mp hlast
      refine .inr ⟨htime, fun wanted hwanted hname => ?_⟩
      rw [← Bool.not_eq_true, ColumnCollection.contains_iff] at hother
      exact hother ⟨wanted, hwanted, hname.trans htime.symm⟩

/-- However the columns are described again, they fit those that are expected. -/
theorem Kept.fits {described : ColumnCollection} (h : Kept expected kept)
    (hdescribed : described.Redescribes kept) : Reconciliation.Fits described expected := by
  obtain ⟨ordered, hordered, hperm⟩ := hdescribed
  have hkept : ∀ column ∈ described.columns, ∃ own ∈ kept, own.Restates column := by
    intro column hcolumn
    obtain ⟨own, hown, hagain⟩ := exists_of_forall₂ hordered.flip column (hperm.mem_iff.mpr hcolumn)
    exact ⟨own, hown, hagain.restates⟩
  refine ⟨fun column hcolumn hother => ?_, fun wanted hwanted => ?_,
    fun column hcolumn wanted hwanted hname => ?_⟩
  · obtain ⟨own, hown, hrestates⟩ := hkept column hcolumn
    rcases h.mem_expected_or hown with hexpected | ⟨htime, -⟩
    · exact ⟨own, hexpected, hrestates.name⟩
    · exact absurd (hrestates.name.symm.trans htime) hother
  · obtain ⟨column, hcolumn, hagain⟩ := exists_of_forall₂ hordered wanted (h.mem_of_expected hwanted)
    exact ⟨column, hperm.mem_iff.mp hcolumn, hagain.restates.name.symm⟩
  · obtain ⟨own, hown, hrestates⟩ := hkept column hcolumn
    rcases h.mem_expected_or hown with hexpected | ⟨htime, hnone⟩
    · -- Columns that are expected under one name are the same column.
      have hsame : own = wanted := by
        have hfound := ColumnCollection.get?_of_lower_eq hexpected (hrestates.name.trans hname)
        rw [ColumnCollection.get?_of_mem hwanted] at hfound
        exact (Option.some.inj hfound).symm
      rw [← hsame, ← Column.accepts_congr hrestates ⟨rfl, rfl, rfl⟩]
      exact own.accepts_self
    · exact absurd (hname.symm.trans (hrestates.name.symm.trans htime)) (hnone wanted hwanted)

/-- A destination that an import creates reconciles with the columns it is created from. For every
source and mappings that have expected columns, a name for the destination, keys among the expected
columns and with the time column wanted or not, the destination can be defined; its columns are the
expected ones, behind which comes the time column if it is wanted and not expected anyway. It fits
the expected columns, and so does every table that describes the expected columns again, with or
without a time column besides: in any order, and each column as it is or with null allowed. -/
theorem defined_reconciles (label : TableLabel) (keys : List String) (stamped : Bool)
    {source : TableDefinition} {mappings : List ColumnMapping}
    (hexpected : ColumnMapping.expected source mappings = .ok expected)
    (hlabel : label.schema ≠ "" ∧ label.table ≠ "")
    (hkeys : ∀ key ∈ keys, expected.contains key = true) :
    ∃ definition, define label expected keys stamped = .ok definition ∧
      definition.columns.columns =
        (if mappings.isEmpty then source.columns.columns
          else mappings.filterMap (ColumnMapping.column? source)) ++
        (if stamped && !expected.contains timestampColumn then [timeColumn] else []) ∧
      definition.primaryKeys = keys ∧
      Reconciliation.check definition expected.columns source = .ok () ∧
      ∀ (described : TableDefinition) (kept : List Column), Kept expected kept →
        described.columns.Redescribes kept →
        Reconciliation.check described expected.columns source = .ok () := by
  have hkept := kept_columns expected stamped
  have hchecked : label.check = .ok label.tableName := by
    simp [TableLabel.check, TableName.make, hlabel.1, hlabel.2, TableLabel.tableName]
  have hmem : ∀ key ∈ keys, lower key ∈ ((expected.columns ++
      if stamped && !expected.contains timestampColumn then [timeColumn] else []).map
        (·.name)).map lower := by
    intro key hkey
    obtain ⟨column, hcolumn, hname⟩ := (expected.contains_iff key).mp (hkeys key hkey)
    rw [← hname, List.map_map]
    exact List.mem_map_of_mem (hkept.mem_of_expected hcolumn)
  obtain ⟨definition, hmake⟩ := TableDefinition.exists_make hkept.nodup hmem
  obtain ⟨-, hcolumns, hown⟩ := TableDefinition.parts_of_make hmake
  have hdefine : define label expected keys stamped = .ok definition :=
    bind_eq_ok.mpr ⟨_, columns_eq expected stamped, bind_eq_ok.mpr ⟨_, hchecked, hmake⟩⟩
  have hfits (described : TableDefinition) (kept : List Column) (hkept : Kept expected kept)
      (hdescribed : described.columns.Redescribes kept) :
      Reconciliation.check described expected.columns source = .ok () :=
    Reconciliation.check_eq_ok_iff.mpr (hkept.fits hdescribed)
  refine ⟨definition, hdefine, ?_, hown, ?_, hfits⟩
  · rw [hcolumns, ColumnMapping.columns_of_mappings hexpected]
  · rw [← hcolumns] at hkept
    exact hfits definition _ hkept definition.columns.redescribes_self

/-- A view that turns two columns round describes them again, with the time column in between. -/
theorem redescribes_turned {described : ColumnCollection} {first second : Column}
    (h : described.columns = [second, timeColumn, first.withNullable true]) :
    described.Redescribes ([first, second] ++ [timeColumn]) := by
  refine ⟨[first.withNullable true, second, timeColumn],
    .cons (.nullable _) (.cons (.same _) (.cons (.same _) .nil)), ?_⟩
  rw [h]
  exact (List.Perm.swap _ _ _).trans (.cons _ (.swap _ _ _))

/-- A source with a number that must be given and a nested list. -/
def nestedSource : TableDefinition where
  name := ⟨"data", "orders"⟩
  columns := ⟨[⟨"id", "INT64", none, .flag false, none, none⟩,
    ⟨"lines", "ARRAY", some "<STRUCT<sku STRING>>", .flag true, none, none⟩], by decide⟩
  primaryKeys := ["id"]
  temporary := false
  rows := some 3
  bytes := none
  keys_known := by decide

/-- A view of the table that is created from it, with the columns the other way round. -/
def nestedView : TableDefinition where
  name := ⟨"data", "report"⟩
  columns := ⟨[⟨"lines", "ARRAY", some "<STRUCT<sku STRING>>", .flag true, none, none⟩,
    ⟨"_timestamp", "TIMESTAMP", none, .flag true, none, none⟩,
    ⟨"id", "INT64", none, .flag true, none, none⟩], by decide⟩
  primaryKeys := []
  temporary := false
  rows := none
  bytes := none
  keys_known := by decide

/-- Mappings that rename the number. -/
def renamingMappings : List ColumnMapping := [⟨"id", "number"⟩, ⟨"lines", "lines"⟩]

/-- The columns that they make. -/
def renamedColumns : ColumnCollection where
  columns := [⟨"number", "INT64", none, .flag false, none, none⟩,
    ⟨"lines", "ARRAY", some "<STRUCT<sku STRING>>", .flag true, none, none⟩]
  distinct := by decide

/-- A view of the table that is created from these, with the columns the other way round. -/
def renamedView : TableDefinition where
  name := ⟨"data", "report"⟩
  columns := ⟨[⟨"lines", "ARRAY", some "<STRUCT<sku STRING>>", .flag true, none, none⟩,
    ⟨"_timestamp", "TIMESTAMP", none, .flag true, none, none⟩,
    ⟨"number", "INT64", none, .flag true, none, none⟩], by decide⟩
  primaryKeys := []
  temporary := false
  rows := none
  bytes := none
  keys_known := by decide

/-- A destination with the time column is defined from the source, and its view reconciles; so does
the one that is defined where the number is renamed, and its new name is the key. -/
theorem defined_reconciles_nested :
    (ColumnMapping.expected nestedSource [] = .ok nestedSource.columns ∧
    (∃ definition, define ⟨"data", "report"⟩ nestedSource.columns ["ID"] true = .ok definition ∧
      definition.columnNames = ["id", "lines", "_timestamp"] ∧
      Reconciliation.check definition nestedSource.columns.columns nestedSource = .ok ()) ∧
    Reconciliation.check nestedView nestedSource.columns.columns nestedSource = .ok ()) ∧
    ColumnMapping.expected nestedSource renamingMappings = .ok renamedColumns ∧
    (∃ definition, define ⟨"data", "report"⟩ renamedColumns ["NUMBER"] true = .ok definition ∧
      definition.columnNames = ["number", "lines", "_timestamp"] ∧
      Reconciliation.check definition renamedColumns.columns nestedSource = .ok ()) ∧
    Reconciliation.check renamedView renamedColumns.columns nestedSource = .ok () := by
  constructor
  · have hexpected : ColumnMapping.expected nestedSource [] = .ok nestedSource.columns := rfl
    have hview : nestedView.columns.Redescribes (nestedSource.columns.columns ++ [timeColumn]) :=
      redescribes_turned rfl
    obtain ⟨definition, hdefine, hcolumns, -, hchecked, hagain⟩ := defined_reconciles
      ⟨"data", "report"⟩ ["ID"] true hexpected (by decide) (by decide)
    refine ⟨hexpected, ⟨definition, hdefine, ?_, hchecked⟩,
      hagain nestedView _ (.stamped (by decide)) hview⟩
    rw [TableDefinition.columnNames, ColumnCollection.names, hcolumns]
    decide
  · have hexpected : ColumnMapping.expected nestedSource renamingMappings = .ok renamedColumns := rfl
    have hview : renamedView.columns.Redescribes (renamedColumns.columns ++ [timeColumn]) :=
      redescribes_turned rfl
    obtain ⟨definition, hdefine, hcolumns, -, hchecked, hagain⟩ := defined_reconciles
      ⟨"data", "report"⟩ ["NUMBER"] true hexpected (by decide) (by decide)
    refine ⟨hexpected, ⟨definition, hdefine, ?_, hchecked⟩,
      hagain renamedView _ (.stamped (by decide)) hview⟩
    rw [TableDefinition.columnNames, ColumnCollection.names, hcolumns]
    decide

end Destination

end WarehouseImport
