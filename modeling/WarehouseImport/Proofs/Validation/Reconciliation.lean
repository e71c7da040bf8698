import Mathlib.Data.List.Perm.Basic
import WarehouseImport.Import.Reconciliation
import WarehouseImport.Proofs.Names

/-!
# What a reconciliation finds

A destination fits the expected columns if the two have the same names, the time column of the
destination left aside, and each column of the destination takes what its counterpart describes. A
reconciliation lists every column that stands in the way of that, each once, and fails exactly if it
lists any.

Whether it fails depends on names in lower case, on canonical types and on lengths only. Columns in
another order, names in another case, other defaults and types under another of their names lead to
the same end.
-/

namespace WarehouseImport

open WarehouseImport.Text

namespace DataType

/-- A type that another one stands for has the same canonical name. -/
theorem canonical_of_alias :
    ∀ entry ∈ aliases, canonical entry.1 = canonical entry.2 := by
  decide

/-- No other type stands for texts, so a type holds texts if texts are its canonical name. -/
theorem isText_eq_canonical (type : String) : isText type = (canonical type == "STRING") := by
  unfold isText canonical
  cases hfound : aliases.lookup (upper type) with
  | none => rfl
  | some target =>
    have haliases : ∀ entry ∈ aliases, entry.1 ≠ "STRING" ∧ entry.2 ≠ "STRING" := by decide
    obtain ⟨before, behind, hsplit, -⟩ := List.lookup_eq_some_iff.mp hfound
    obtain ⟨hname, htarget⟩ := haliases (upper type, target) (by rw [hsplit]; simp)
    rw [beq_eq_false_iff_ne.mpr hname]
    exact (beq_eq_false_iff_ne.mpr htarget).symm

end DataType

namespace Column

/-- The columns agree but for the case of their names, the name that the type goes by, whether they
may be null, their defaults and the description of an array. -/
structure Restates (column other : Column) : Prop where
  name : lower column.name = lower other.name
  type : DataType.canonical column.type = DataType.canonical other.type
  length : column.length = other.length

/-- Columns restate each other. -/
theorem Restates.symm {column other : Column} (h : column.Restates other) :
    other.Restates column :=
  ⟨h.name.symm, h.type.symm, h.length.symm⟩

/-- Which columns a column takes does not depend on how the columns are stated. -/
theorem accepts_congr {actual actual' wanted wanted' : Column} (hactual : actual.Restates actual')
    (hwanted : wanted.Restates wanted') : actual.accepts wanted = actual'.accepts wanted' := by
  unfold accepts
  rw [DataType.isText_eq_canonical, DataType.isText_eq_canonical, hactual.type, hactual.length,
    hwanted.type, hwanted.length]

end Column

/-- What is related item by item has a counterpart for each item of the first list. -/
theorem exists_of_forall₂ {α β : Type*} {R : α → β → Prop} {items : List α} {others : List β}
    (h : List.Forall₂ R items others) : ∀ item ∈ items, ∃ other ∈ others, R item other := by
  induction h with
  | nil => exact fun item hmem => nomatch hmem
  | cons hfirst _ ih =>
    intro item hmem
    rcases List.mem_cons.mp hmem with rfl | hmem
    · exact ⟨_, List.mem_cons_self, hfirst⟩
    · obtain ⟨other, hother, hrelated⟩ := ih item hmem
      exact ⟨other, List.mem_cons_of_mem _ hother, hrelated⟩

namespace ColumnCollection

/-- The columns are those of another collection, restated and in any order. -/
def Restates (columns others : ColumnCollection) : Prop :=
  ∃ ordered, List.Forall₂ Column.Restates columns.columns ordered ∧ ordered.Perm others.columns

/-- Collections restate each other. -/
theorem Restates.symm {columns others : ColumnCollection} (h : columns.Restates others) :
    others.Restates columns := by
  obtain ⟨ordered, hrestates, hperm⟩ := h
  have hback : List.Forall₂ Column.Restates ordered columns.columns :=
    (hrestates.imp fun _ _ hrestated => hrestated.symm).flip
  exact List.perm_comp_forall₂ hperm.symm hback

/-- Each column of a collection is restated by one of the other. -/
theorem Restates.exists_column {columns others : ColumnCollection} (h : columns.Restates others) :
    ∀ column ∈ columns.columns, ∃ other ∈ others.columns, column.Restates other := by
  obtain ⟨ordered, hrestates, hperm⟩ := h
  intro column hmem
  obtain ⟨other, hother, hrestated⟩ := exists_of_forall₂ hrestates column hmem
  exact ⟨other, hperm.mem_iff.mp hother, hrestated⟩

/-- A name is contained if some column has it in lower case. -/
theorem contains_iff (columns : ColumnCollection) (name : String) :
    columns.contains name = true ↔ ∃ column ∈ columns.columns, lower column.name = lower name := by
  rw [contains_eq_isSome_get?, get?_eq_find?, List.isSome_find?, List.any_eq_true]
  simp only [beq_iff_eq]

end ColumnCollection

namespace Reconciliation

variable {destination : TableDefinition} {expected : ColumnCollection} {source : TableDefinition}

/-- A table's columns fit those that are expected: the two have the same names, except that the
table may hold the time of the import besides, and each column takes what its counterpart
describes. -/
structure Fits (columns expected : ColumnCollection) : Prop where
  known : ∀ column ∈ columns.columns, lower column.name ≠ timestampColumn →
    ∃ wanted ∈ expected.columns, lower wanted.name = lower column.name
  present : ∀ wanted ∈ expected.columns,
    ∃ column ∈ columns.columns, lower column.name = lower wanted.name
  accepted : ∀ column ∈ columns.columns, ∀ wanted ∈ expected.columns,
    lower column.name = lower wanted.name → column.accepts wanted = true

/-- Columns that fit still do when they and the expected ones are stated otherwise. -/
theorem Fits.restated {columns columns' expected' : ColumnCollection} (h : Fits columns expected)
    (hcolumns : columns.Restates columns') (hexpected : expected.Restates expected') :
    Fits columns' expected' where
  known column' hmem hother := by
    obtain ⟨column, hcolumn, hstated⟩ := hcolumns.symm.exists_column column' hmem
    obtain ⟨wanted, hwanted, hname⟩ := h.known column hcolumn (hstated.name ▸ hother)
    obtain ⟨wanted', hwanted', hrestated⟩ := hexpected.exists_column wanted hwanted
    exact ⟨wanted', hwanted', by rw [← hrestated.name, hname, hstated.name]⟩
  present wanted' hmem := by
    obtain ⟨wanted, hwanted, hstated⟩ := hexpected.symm.exists_column wanted' hmem
    obtain ⟨column, hcolumn, hname⟩ := h.present wanted hwanted
    obtain ⟨column', hcolumn', hrestated⟩ := hcolumns.exists_column column hcolumn
    exact ⟨column', hcolumn', by rw [← hrestated.name, hname, hstated.name]⟩
  accepted column' hmem wanted' hmem' hname := by
    obtain ⟨column, hcolumn, hstated⟩ := hcolumns.symm.exists_column column' hmem
    obtain ⟨wanted, hwanted, hstated'⟩ := hexpected.symm.exists_column wanted' hmem'
    rw [Column.accepts_congr hstated hstated']
    exact h.accepted column hcolumn wanted hwanted (by rw [← hstated.name, hname, hstated'.name])

/-- The columns that nothing is expected for are those whose name no expected column has. -/
theorem mem_missingInSource {name : String} :
    name ∈ missingInSource destination expected.columns ↔
      ∃ column ∈ destination.columns.columns, column.name = name ∧
        lower name ≠ timestampColumn ∧
        ∀ wanted ∈ expected.columns, lower wanted.name ≠ lower name := by
  have htime : lower timestampColumn = timestampColumn := by decide
  have hknown : (NameIndex.ofNames (timestampColumn :: expected.columns.map (·.name))).contains
      name = false ↔ lower name ≠ timestampColumn ∧
        ∀ wanted ∈ expected.columns, lower wanted.name ≠ lower name := by
    rw [NameIndex.contains_ofNames, List.map_cons, htime, List.map_map,
      List.contains_eq_mem, decide_eq_false_iff_not, List.mem_cons, not_or, List.mem_map]
    simp only [Function.comp_apply, not_exists, not_and, ne_eq]
  unfold missingInSource TableDefinition.columnNames ColumnCollection.names
  rw [List.mem_filter, Bool.not_eq_true', hknown, List.mem_map]
  constructor
  · rintro ⟨⟨column, hmem, hname⟩, hother, hunknown⟩
    exact ⟨column, hmem, hname, hother, hunknown⟩
  · rintro ⟨column, hmem, hname, hother, hunknown⟩
    exact ⟨⟨column, hmem, hname⟩, hother, hunknown⟩

/-- The expected columns that are lacking are those whose name no column of the table has. -/
theorem mem_missingInDestination {name : String} :
    name ∈ missingInDestination destination expected.columns ↔
      ∃ wanted ∈ expected.columns, wanted.name = name ∧
        ∀ column ∈ destination.columns.columns, lower column.name ≠ lower name := by
  unfold missingInDestination NameIndex.missing
  have hcontains : destination.columns.index.contains name = false ↔
      ∀ column ∈ destination.columns.columns, lower column.name ≠ lower name := by
    rw [← Bool.not_eq_true, show destination.columns.index.contains name =
      destination.columns.contains name from rfl, ColumnCollection.contains_iff]
    simp only [not_exists, not_and, ne_eq]
  rw [List.mem_filter, Bool.not_eq_true', hcontains, List.mem_map]
  constructor
  · rintro ⟨⟨wanted, hmem, hname⟩, hlacking⟩
    exact ⟨wanted, hmem, hname, hlacking⟩
  · rintro ⟨wanted, hmem, hname, hlacking⟩
    exact ⟨⟨wanted, hmem, hname⟩, hlacking⟩

/-- A pair does not fit where the table's column of the expected name does not take it. -/
theorem mismatch?_eq_some {wanted : Column} {found : Mismatch} :
    mismatch? destination wanted = some found ↔
      ∃ column ∈ destination.columns.columns, lower column.name = lower wanted.name ∧
        column.accepts wanted = false ∧
        found = ⟨column.name, wanted.definition, column.definition⟩ := by
  unfold mismatch?
  constructor
  · intro h
    cases hget : destination.columns.get? wanted.name with
    | none => rw [hget] at h; cases h
    | some column =>
      obtain ⟨hmem, hname⟩ := ColumnCollection.mem_of_get? hget
      rw [hget] at h
      cases haccepts : column.accepts wanted with
      | true => simp [haccepts] at h
      | false => exact ⟨column, hmem, hname, haccepts, by simpa [haccepts] using h.symm⟩
  · rintro ⟨column, hmem, hname, haccepts, rfl⟩
    rw [ColumnCollection.get?_of_lower_eq hmem hname]
    simp [haccepts]

/-- The pairs that are listed are those that agree in name and do not fit. -/
theorem mem_mismatches {found : Mismatch} :
    found ∈ (report destination expected.columns source).mismatches ↔
      ∃ wanted ∈ expected.columns, ∃ column ∈ destination.columns.columns,
        lower column.name = lower wanted.name ∧ column.accepts wanted = false ∧
        found = ⟨column.name, wanted.definition, column.definition⟩ := by
  unfold report
  simp only [List.mem_filterMap, mismatch?_eq_some]

/-- What a report lists is what stands in the way of a fit, and each of it once. -/
structure Lists (columns expected : ColumnCollection) (found : MismatchReport) : Prop where
  unexpected : ∀ name, name ∈ found.missingInSource ↔
    ∃ column ∈ columns.columns, column.name = name ∧ lower name ≠ timestampColumn ∧
      ∀ wanted ∈ expected.columns, lower wanted.name ≠ lower name
  unexpected_once : (found.missingInSource.map lower).Nodup
  lacking : ∀ name, name ∈ found.missingInDestination ↔
    ∃ wanted ∈ expected.columns, wanted.name = name ∧
      ∀ column ∈ columns.columns, lower column.name ≠ lower name
  lacking_once : (found.missingInDestination.map lower).Nodup
  unfit : ∀ pair, pair ∈ found.mismatches ↔
    ∃ wanted ∈ expected.columns, ∃ column ∈ columns.columns,
      lower column.name = lower wanted.name ∧ column.accepts wanted = false ∧
      pair = ⟨column.name, wanted.definition, column.definition⟩
  unfit_once : (found.mismatches.map fun pair => lower pair.column).Nodup

/-- No two pairs that do not fit agree in name. -/
theorem nodup_mismatches :
    ((report destination expected.columns source).mismatches.map
      fun pair => lower pair.column).Nodup := by
  have hnames : expected.columns.Pairwise fun one other => lower one.name ≠ lower other.name := by
    have hnodup := expected.nodup_lower_names
    rwa [ColumnCollection.names, List.map_map, List.Nodup, List.pairwise_map] at hnodup
  rw [List.Nodup, List.pairwise_map]
  refine hnames.filterMap (mismatch? destination) fun one other hne pair hpair pair' hpair' => ?_
  obtain ⟨column, -, hname, -, rfl⟩ := mismatch?_eq_some.mp hpair
  obtain ⟨column', -, hname', -, rfl⟩ := mismatch?_eq_some.mp hpair'
  show lower column.name ≠ lower column'.name
  rw [hname, hname']
  exact hne

/-- A report lists what stands in the way of a fit. -/
theorem lists_report (destination : TableDefinition) (expected : ColumnCollection)
    (source : TableDefinition) :
    Lists destination.columns expected (report destination expected.columns source) where
  unexpected _ := mem_missingInSource
  unexpected_once := (List.filter_sublist.map lower).nodup destination.columns.nodup_lower_names
  lacking _ := mem_missingInDestination
  lacking_once := (List.filter_sublist.map lower).nodup expected.nodup_lower_names
  unfit _ := mem_mismatches
  unfit_once := nodup_mismatches

/-- A report that lists what stands in the way of a fit lists nothing exactly if the columns fit. -/
theorem Lists.fits_iff {columns : ColumnCollection} {found : MismatchReport}
    (h : Lists columns expected found) :
    (found.missingInSource = [] ∧ found.missingInDestination = [] ∧ found.mismatches = []) ↔
      Fits columns expected := by
  constructor
  · rintro ⟨hunexpected, hlacking, hunfit⟩
    refine ⟨fun column hmem hother => ?_, fun wanted hmem => ?_,
      fun column hmem wanted hmem' hname => ?_⟩
    · by_contra hunknown
      push Not at hunknown
      have hlisted := (h.unexpected column.name).mpr ⟨column, hmem, rfl, hother, hunknown⟩
      rw [hunexpected] at hlisted
      cases hlisted
    · by_contra hmissing
      push Not at hmissing
      have hlisted := (h.lacking wanted.name).mpr ⟨wanted, hmem, rfl, hmissing⟩
      rw [hlacking] at hlisted
      cases hlisted
    · by_contra hrefused
      have hlisted := (h.unfit _).mpr
        ⟨wanted, hmem', column, hmem, hname, Bool.not_eq_true _ ▸ hrefused, rfl⟩
      rw [hunfit] at hlisted
      cases hlisted
  · intro hfits
    simp only [List.eq_nil_iff_forall_not_mem]
    refine ⟨fun name hlisted => ?_, fun name hlisted => ?_, fun pair hlisted => ?_⟩
    · obtain ⟨column, hmem, rfl, hother, hunknown⟩ := (h.unexpected name).mp hlisted
      obtain ⟨wanted, hwanted, hname⟩ := hfits.known column hmem hother
      exact hunknown wanted hwanted hname
    · obtain ⟨wanted, hmem, rfl, hmissing⟩ := (h.lacking name).mp hlisted
      obtain ⟨column, hcolumn, hname⟩ := hfits.present wanted hmem
      exact hmissing column hcolumn hname
    · obtain ⟨wanted, hwanted, column, hcolumn, hname, hrefused, -⟩ := (h.unfit pair).mp hlisted
      rw [hfits.accepted column hcolumn wanted hwanted hname] at hrefused
      cases hrefused

/-- A report is empty if its three lists are. -/
theorem isEmpty_iff (found : MismatchReport) : found.isEmpty = true ↔
    found.missingInSource = [] ∧ found.missingInDestination = [] ∧ found.mismatches = [] := by
  simp [MismatchReport.isEmpty, and_assoc]

/-- A check fails with its report if that is not empty. -/
theorem check_eq_error_iff {columns : List Column} : check destination columns source =
    .error (.irreconcilable (report destination columns source)) ↔
      (report destination columns source).isEmpty = false := by
  unfold check
  cases h : (report destination columns source).isEmpty <;> simp [h]

/-- A check ends well exactly if the columns fit. -/
theorem check_eq_ok_iff : check destination expected.columns source = .ok () ↔
    Fits destination.columns expected := by
  rw [← (lists_report destination expected source).fits_iff, ← isEmpty_iff]
  unfold check
  cases h : (report destination expected.columns source).isEmpty <;> simp [h]

/-- Reconciliation is exact. For every destination, expected columns and source, the report is empty
exactly if the destination's columns fit the expected ones, its three lists hold what stands in the
way of that and each of it once, and the check ends well exactly if all three are empty; it fails
with the report otherwise. For every other destination and expected columns that restate these in
any order, the check ends well on both or on neither. -/
theorem reconciliation_exact (destination : TableDefinition) (expected : ColumnCollection)
    (source : TableDefinition) :
    ((report destination expected.columns source).isEmpty = true ↔
      Fits destination.columns expected) ∧
    Lists destination.columns expected (report destination expected.columns source) ∧
    (check destination expected.columns source =
        .error (.irreconcilable (report destination expected.columns source)) ↔
      missingInSource destination expected.columns ≠ [] ∨
        missingInDestination destination expected.columns ≠ [] ∨
        (report destination expected.columns source).mismatches ≠ []) ∧
    (check destination expected.columns source = .ok () ↔
      missingInSource destination expected.columns = [] ∧
        missingInDestination destination expected.columns = [] ∧
        (report destination expected.columns source).mismatches = []) ∧
    ∀ (destination' : TableDefinition) (expected' : ColumnCollection) (source' : TableDefinition),
      destination.columns.Restates destination'.columns → expected.Restates expected' →
      (check destination expected.columns source = .ok () ↔
        check destination' expected'.columns source' = .ok ()) := by
  have hlists := lists_report destination expected source
  have hempty := isEmpty_iff (report destination expected.columns source)
  refine ⟨hempty.trans hlists.fits_iff, hlists, ?_, check_eq_ok_iff.trans hlists.fits_iff.symm,
    fun destination' expected' source' hcolumns hexpected => ?_⟩
  · rw [check_eq_error_iff, ← Bool.not_eq_true, hempty, not_and_or, not_and_or]
    rfl
  · rw [check_eq_ok_iff, check_eq_ok_iff]
    exact ⟨fun hfits => hfits.restated hcolumns hexpected,
      fun hfits => hfits.restated hcolumns.symm hexpected.symm⟩

/-- A table of a count and the time of the import. -/
def countedTable : TableDefinition where
  name := ⟨"data", "report"⟩
  columns := ⟨[⟨"n", "INT64", none, .flag false, none, none⟩,
    ⟨"_timestamp", "TIMESTAMP", none, .flag true, none, none⟩], by decide⟩
  primaryKeys := []
  temporary := false
  rows := some 4
  bytes := none
  keys_known := by decide

/-- The table with its columns in another order, in capitals and under another type name. -/
def recountedTable : TableDefinition where
  name := ⟨"data", "copy"⟩
  columns := ⟨[⟨"_TIMESTAMP", "TIMESTAMP", none, .flag false, none, none⟩,
    ⟨"N", "BIGINT", none, .flag true, some (.int 0), none⟩], by decide⟩
  primaryKeys := []
  temporary := false
  rows := none
  bytes := none
  keys_known := by decide

/-- The column that is expected of both. -/
def expectedCount : ColumnCollection :=
  ⟨[⟨"N", "INTEGER", none, .flag true, none, none⟩], by decide⟩

/-- Both tables fit an expected count, and neither fits where nothing is expected. -/
theorem reconciliation_exact_recounted :
    check countedTable expectedCount.columns recountedTable = .ok () ∧
    check recountedTable expectedCount.columns countedTable = .ok () ∧
    check countedTable [] recountedTable =
      .error (.irreconcilable (report countedTable [] recountedTable)) := by
  have hcount : Column.Restates ⟨"n", "INT64", none, .flag false, none, none⟩
      ⟨"N", "BIGINT", none, .flag true, some (.int 0), none⟩ :=
    ⟨by decide, (DataType.canonical_of_alias ("BIGINT", "INT64") (by decide)).symm, rfl⟩
  have htime : Column.Restates ⟨"_timestamp", "TIMESTAMP", none, .flag true, none, none⟩
      ⟨"_TIMESTAMP", "TIMESTAMP", none, .flag false, none, none⟩ := ⟨by decide, rfl, rfl⟩
  have hcolumns : countedTable.columns.Restates recountedTable.columns :=
    ⟨_, .cons hcount (.cons htime .nil), .swap _ _ _⟩
  have hexpected : expectedCount.Restates expectedCount := by
    refine ⟨_, .cons ⟨rfl, rfl, rfl⟩ .nil, .refl _⟩
  have hfits : check countedTable expectedCount.columns recountedTable = .ok () := by rfl
  obtain ⟨-, -, -, -, hsame⟩ := reconciliation_exact countedTable expectedCount recountedTable
  obtain ⟨-, -, hfails, -, -⟩ := reconciliation_exact countedTable ⟨[], rfl⟩ recountedTable
  exact ⟨hfits, (hsame recountedTable expectedCount countedTable hcolumns hexpected).mp hfits,
    hfails.mpr (.inl (by decide))⟩

end Reconciliation

end WarehouseImport
