import WarehouseImport.Proofs.Routing.Layouts
import WarehouseImport.Proofs.Routing.Resolution
import WarehouseImport.Proofs.Run.Handler
import WarehouseImport.Proofs.Validation.Reconciliation

/-!
# Columns that are staged

A staging table is made up of names, for mapped columns and for columns of files. Each name is
looked up at the destination three times: for its column, among the keys, and again to tell which
keys the staging table carries. The three agree because the keys of a table are columns of it, so a
column that is made up is never one of the keys.

The two ways to lay out a staging table differ in what the destination's keys are for: with mappings
they must not be null and stay keys, for files they are columns like any others.
-/

namespace WarehouseImport

open WarehouseImport.Text

/-- No names collide exactly if they differ by more than case. -/
theorem collisions_eq_nil_iff (names : List String) :
    collisions names = [] ↔ (names.map lower).Nodup := by
  rw [← repeatedNames_eq_collisions, repeatedNames_eq_nil_iff]
  simp

/-- A number in hexadecimal digits is shown in one digit at least, if it is given a place. -/
theorem Text.hexText_ne_nil {width : Nat} (h : width ≠ 0) (number : Nat) :
    hexText width number ≠ [] := by
  simpa [hexText] using h

/-- A name that is drawn is never empty. -/
theorem Session.drawName_ne_empty (session : Session) (beginning : String) :
    (session.drawName beginning).1 ≠ "" := by
  intro hempty
  have hdigits : beginning.toList ++ hexText 32 (session.drawn + 1) = [] := by
    have htext := congrArg String.toList hempty
    simpa [drawName] using htext
  exact hexText_ne_nil (by decide) _ (List.append_eq_nil_iff.mp hdigits).2

namespace TableDefinition

/-- A definition that can be made is temporary if it is made so. -/
theorem temporary_of_make {name : TableName} {columns : List Column} {keys : List String}
    {temporary : Bool} {rows bytes : Option Int} {definition : TableDefinition}
    (h : make name columns keys temporary rows bytes = .ok definition) :
    definition.temporary = temporary := by
  obtain ⟨collection, -, h⟩ := bind_eq_ok.mp h
  unfold ofCollection at h
  split at h
  · rw [← Except.ok.inj h]
  · cases h

/-- Every key of a table agrees with the name of one of its columns. -/
theorem exists_column_of_key {definition : TableDefinition} {key : String}
    (h : key ∈ definition.primaryKeys) :
    ∃ column ∈ definition.columns.columns, lower column.name = lower key := by
  obtain ⟨column, hcolumn⟩ := ColumnCollection.exists_get?_of_contains
    (ColumnCollection.contains_of_missing definition.keys_known h)
  exact ⟨column, ColumnCollection.mem_of_get? hcolumn⟩

end TableDefinition

namespace Staging

variable {destination staging : TableDefinition} {mappings : List ColumnMapping}
  {names keys : List String} {name table : String} {nullable : String → Bool} {layout : Layout}
  {staged : Column}

/-- A column stands for a name: it is the destination's column of the name, with the name as given
and null allowed or not, or a text of the greatest length if the destination has none. -/
inductive StandsFor (destination : TableDefinition) (nullable : String → Bool) (name : String) :
    Column → Prop where
  | known {found : Column} (mem : found ∈ destination.columns.columns)
      (agrees : lower found.name = lower name) :
      StandsFor destination nullable name
        { found with name := name, nullable := .flag (nullable name) }
  | unknown (absent : ∀ column ∈ destination.columns.columns, lower column.name ≠ lower name) :
      StandsFor destination nullable name
        ⟨name, "STRING", some DataType.greatestTextLength, .flag true, none, none⟩

/-- Whether a column that is staged for a mapping may be null: not if its name is that of a key. -/
def optional (destination : TableDefinition) (name : String) : Bool :=
  !(destination.primaryKeys.map lower).contains (lower name)

/-- A name without a column at the destination is no key, so its column may be null. -/
theorem optional_of_absent
    (habsent : ∀ column ∈ destination.columns.columns, lower column.name ≠ lower name) :
    optional destination name = true := by
  rw [optional, Bool.not_eq_true', List.contains_eq_mem, decide_eq_false_iff_not]
  rintro hkey
  obtain ⟨key, hmem, hsame⟩ := List.mem_map.mp hkey
  obtain ⟨column, hcolumn, hname⟩ := TableDefinition.exists_column_of_key hmem
  exact habsent column hcolumn (hname.trans hsame)

/-- What is staged for a name that is given stands for it. -/
theorem standsFor_of_column (hname : name ≠ "")
    (h : column destination name (nullable name) = .ok staged) :
    StandsFor destination nullable name staged := by
  have hgiven : name.isEmpty = false := by simpa [String.isEmpty_iff] using hname
  unfold column at h
  split at h
  · next found hfound =>
    obtain ⟨hmem, hagrees⟩ := ColumnCollection.mem_of_get? hfound
    obtain rfl : { found with name := name, nullable := .flag (nullable name) } = staged := by
      simpa [Column.renamed, Column.withNullable, hgiven] using h
    exact .known hmem hagrees
  · next hnone =>
    rw [ColumnCollection.get?_eq_find?] at hnone
    rw [Column.generic_eq hname] at h
    rw [← Except.ok.inj h]
    refine .unknown fun column hcolumn hagrees => ?_
    exact List.find?_eq_none.mp hnone column hcolumn (by simpa using hagrees)

/-- Names that are given are staged one by one. -/
theorem forall₂_standsFor {columns : List Column} (hgiven : ∀ name ∈ names, name ≠ "")
    (h : names.mapM (fun name => column destination name (nullable name)) = .ok columns) :
    List.Forall₂ (StandsFor destination nullable) names columns := by
  induction names generalizing columns with
  | nil =>
    cases h
    exact .nil
  | cons name rest ih =>
    obtain ⟨first, others, hfirst, hothers, rfl⟩ := mapM_cons_eq_ok.mp h
    exact .cons (standsFor_of_column (hgiven name (by simp)) hfirst)
      (ih (fun other hother => hgiven other (List.mem_cons_of_mem _ hother)) hothers)

/-- What stands for a name may be null as is said for the name, provided that names without a column
may. -/
theorem StandsFor.nullable_eq (h : StandsFor destination nullable name staged)
    (hmade : ∀ name, (∀ column ∈ destination.columns.columns, lower column.name ≠ lower name) →
      nullable name = true) : staged.nullable = .flag (nullable staged.name) := by
  cases h with
  | known => rfl
  | unknown habsent => rw [hmade name habsent]

/-- The keys of the destination whose names are among some names without regard to case. -/
def carried (destination : TableDefinition) (names : List String) : List String :=
  destination.primaryKeys.filter fun key => (names.map lower).contains (lower key)

/-- A staging table for names is temporary and beside its destination, its columns stand for the
names as they are given and in their order, they may be null where it is said that they may, and it
has the given keys. -/
structure Synthesized (destination : TableDefinition) (names : List String)
    (nullable : String → Bool) (keys : List String) (table : String)
    (staging : TableDefinition) : Prop where
  beside : staging.name = destination.name.sibling table
  temporary : staging.temporary = true
  named : staging.columnNames = names
  standing : List.Forall₂ (StandsFor destination nullable) names staging.columns.columns
  optional : ∀ column ∈ staging.columns.columns, column.nullable = .flag (nullable column.name)
  keyed : staging.primaryKeys = keys

namespace Layout

/-- A new staging table is defined without a call, under the name that is drawn for it. -/
theorem run_defineNew (layout : Layout) (destination : TableDefinition) (beginning : String)
    (session : Session) :
    (layout.defineNew destination beginning).run.run session =
      .done (layout.define destination (session.drawName beginning).1,
        (session.drawName beginning).2) := by
  change StateT.run (ExceptT.run (Action.ofExcept
    (layout.define destination (session.drawName beginning).1))) (session.drawName beginning).2 = _
  cases layout.define destination (session.drawName beginning).1 <;> rfl

/-- A layout makes staging tables for names in every session: if the names differ by more than case,
the next name is drawn and the table defined under it; otherwise the definition fails with the names
that collide. -/
def Synthesizes (layout : Layout) (destination : TableDefinition) (names : List String)
    (nullable : String → Bool) (keys : List String) : Prop :=
  ∀ (session : Session) (beginning : String),
    ((names.map lower).Nodup →
      ∃ staging, (layout.defineNew destination beginning).run.run session =
          .done (.ok staging, (session.drawName beginning).2) ∧
        Synthesized destination names nullable keys (session.drawName beginning).1 staging) ∧
    (¬ (names.map lower).Nodup →
      (layout.defineNew destination beginning).run.run session =
        .done (.error (.duplicateColumns (collisions names)), (session.drawName beginning).2))

/-- What stands for names has the names. -/
theorem names_of_standsFor {columns : List Column}
    (h : List.Forall₂ (StandsFor destination nullable) names columns) :
    columns.map (·.name) = names := by
  induction h with
  | nil => rfl
  | cons hfirst _ ih =>
    rw [List.map_cons, ih]
    cases hfirst <;> rfl

/-- A layout of columns that stand for names, with keys among these, makes staging tables for the
names. -/
theorem synthesizes (hdataset : destination.name.dataset ≠ "")
    (hmade : ∀ name, (∀ column ∈ destination.columns.columns, lower column.name ≠ lower name) →
      nullable name = true)
    (hstanding : List.Forall₂ (StandsFor destination nullable) names layout.columns)
    (hkeys : ∀ key ∈ layout.keys, lower key ∈ names.map lower) :
    layout.Synthesizes destination names nullable layout.keys := by
  intro session beginning
  have hnames : layout.columns.map (·.name) = names := names_of_standsFor hstanding
  have hname : TableName.make destination.name.dataset (session.drawName beginning).1 =
      .ok (destination.name.sibling (session.drawName beginning).1) := by
    simp [TableName.make, hdataset, session.drawName_ne_empty beginning, TableName.sibling]
  rw [run_defineNew]
  constructor
  · intro hdistinct
    rw [← hnames] at hdistinct hkeys
    obtain ⟨staging, hmake⟩ := TableDefinition.exists_make hdistinct hkeys
    have hdefine : layout.define destination (session.drawName beginning).1 = .ok staging :=
      bind_eq_ok.mpr ⟨_, hname, hmake⟩
    obtain ⟨hbeside, hcolumns, hkeyed⟩ := TableDefinition.parts_of_make hmake
    refine ⟨staging, by rw [hdefine], hbeside, TableDefinition.temporary_of_make hmake, ?_, ?_, ?_,
      hkeyed⟩
    · rw [TableDefinition.columnNames, ColumnCollection.names, hcolumns, hnames]
    · rw [hcolumns]
      exact hstanding
    · rw [hcolumns]
      intro column hcolumn
      obtain ⟨name, -, hstands⟩ := exists_of_forall₂ hstanding.flip column hcolumn
      exact hstands.nullable_eq hmade
  · intro hcollide
    have hcollide' : collisions (layout.columns.map (·.name)) ≠ [] := by
      rw [hnames]
      exact fun hnone => hcollide ((collisions_eq_nil_iff names).mp hnone)
    have hfails : layout.define destination (session.drawName beginning).1 =
        .error (.duplicateColumns (collisions names)) := by
      refine bind_eq_error.mpr (.inr ⟨_, hname, bind_eq_error.mpr (.inl ?_)⟩)
      rw [← hnames]
      exact (ColumnMapping.ofList_eq layout.columns).2 hcollide'
    rw [hfails]

/-- The columns that are laid out for mappings stand for the names at their ends, and null is not
allowed for keys; the keys that are carried stay keys. -/
theorem of_ofMappings (hgiven : ∀ mapping ∈ mappings, mapping.destination ≠ "")
    (h : ofMappings destination mappings = .ok layout) :
    List.Forall₂ (StandsFor destination (optional destination)) (mappings.map (·.destination))
        layout.columns ∧
      layout.keys = carried destination (mappings.map (·.destination)) := by
  have hnames := names_of_ofMappings h
  obtain ⟨columns, hcolumns, rfl⟩ := map_eq_ok.mp h
  constructor
  · apply forall₂_standsFor (by simpa using hgiven)
    rw [List.mapM_map]
    simpa [mappedColumns, Staging.optional, Function.comp_def, NameIndex.contains_ofNames]
      using hcolumns
  · unfold keysAmong carried
    refine List.filter_congr fun key _ => ?_
    rw [NameIndex.contains_ofNames, hnames]

/-- The columns that are laid out for the columns of files stand for their names, and null is
allowed for all; there are no keys. -/
theorem of_ofNames (hgiven : ∀ name ∈ names, name ≠ "")
    (h : ofNames destination names = .ok layout) :
    List.Forall₂ (StandsFor destination fun _ => true) names layout.columns ∧
      layout.keys = [] := by
  obtain ⟨columns, hcolumns, rfl⟩ := map_eq_ok.mp h
  exact ⟨forall₂_standsFor hgiven hcolumns, rfl⟩

/-- Names that are given can be laid out. -/
theorem exists_ofNames (destination : TableDefinition) (hgiven : ∀ name ∈ names, name ≠ "") :
    ∃ layout, ofNames destination names = .ok layout := by
  obtain ⟨columns, hcolumns⟩ := exists_mapM_eq_ok (f := fun name => column destination name true)
    fun name hname => exists_column (hgiven name hname)
  exact ⟨_, map_eq_ok.mpr ⟨columns, hcolumns, rfl⟩⟩

end Layout

/-- Staging tables are made up in two ways that differ in what keys are for. For every destination
and names that are given, mappings that end at the names and the names themselves can both be laid
out. Where the names differ by more than case, each layout defines a temporary table beside the
destination in every session, without a call and under the name that is drawn; its columns have the
names as they are given, in their order, and each is the destination's column of the name or a text
of the greatest length. With mappings a column must not be null exactly if its name is a key of the
destination, and the keys are those of the destination that are carried, in their order; with names
every column may be null and there are no keys. Where names collide, both definitions fail with all
that do. -/
theorem synthesis (destination : TableDefinition) (mappings : List ColumnMapping)
    (names : List String) (hdataset : destination.name.dataset ≠ "")
    (hgiven : ∀ name ∈ names, name ≠ "") (hmappings : mappings.map (·.destination) = names) :
    ∃ mapped listed, Layout.ofMappings destination mappings = .ok mapped ∧
      Layout.ofNames destination names = .ok listed ∧
      mapped.Synthesizes destination names (optional destination) (carried destination names) ∧
      listed.Synthesizes destination names (fun _ => true) [] := by
  subst hmappings
  obtain ⟨mapped, hmapped⟩ : ∃ layout, Layout.ofMappings destination mappings = .ok layout :=
    exists_ofMappings (by simpa using hgiven)
  obtain ⟨listed, hlisted⟩ := Layout.exists_ofNames destination hgiven
  obtain ⟨hstanding, hkeys⟩ := Layout.of_ofMappings (by simpa using hgiven) hmapped
  obtain ⟨hstanding', hkeys'⟩ := Layout.of_ofNames hgiven hlisted
  refine ⟨mapped, listed, hmapped, hlisted, ?_, ?_⟩
  · rw [← hkeys]
    refine Layout.synthesizes hdataset (fun _ => optional_of_absent) hstanding ?_
    rw [← Layout.names_of_ofMappings hmapped]
    exact Layout.keys_mem_names hmapped
  · rw [← hkeys']
    exact Layout.synthesizes hdataset (fun _ _ => rfl) hstanding' (by simp [hkeys'])

/-- A table with a key, a short text and the time of the import. -/
def keyedTable : TableDefinition where
  name := ⟨"w", "customers"⟩
  columns := ⟨[⟨"id", "INT64", none, .flag false, none, none⟩,
    ⟨"name", "STRING", some "10", .flag true, none, none⟩,
    ⟨"_timestamp", "TIMESTAMP", none, .flag true, none, none⟩], by decide⟩
  primaryKeys := ["id"]
  temporary := false
  rows := none
  bytes := none
  keys_known := by decide

/-- A key in capitals stays one, a name that the table does not have becomes a text, and a name that
comes again is refused. -/
theorem synthesis_keyed :
    (∃ mapped staging, Layout.ofMappings keyedTable [⟨"a", "name"⟩, ⟨"b", "ID"⟩, ⟨"c", "extra"⟩] =
        .ok mapped ∧
      (mapped.defineNew keyedTable "__temp_").run.run Session.plain =
        .done (.ok staging, (Session.plain.drawName "__temp_").2) ∧
      staging.columnNames = ["name", "ID", "extra"] ∧ staging.primaryKeys = ["id"]) ∧
    (∃ listed, Layout.ofNames keyedTable ["id", "extra", "ID"] = .ok listed ∧
      (listed.defineNew keyedTable "__temp_").run.run Session.plain =
        .done (.error (.duplicateColumns ["ID"]), (Session.plain.drawName "__temp_").2)) := by
  obtain ⟨mapped, -, hmapped, -, hmakes, -⟩ := synthesis keyedTable
    [⟨"a", "name"⟩, ⟨"b", "ID"⟩, ⟨"c", "extra"⟩] ["name", "ID", "extra"] (by decide) (by decide) rfl
  obtain ⟨-, listed, -, hlisted, -, hfails⟩ := synthesis keyedTable
    [⟨"a", "id"⟩, ⟨"b", "extra"⟩, ⟨"c", "ID"⟩] ["id", "extra", "ID"] (by decide) (by decide) rfl
  obtain ⟨staging, hrun, hstaging⟩ := (hmakes Session.plain "__temp_").1 (by decide)
  exact ⟨⟨mapped, staging, hmapped, hrun, hstaging.named, hstaging.keyed⟩, listed, hlisted,
    (hfails Session.plain "__temp_").2 (by decide)⟩

end Staging

end WarehouseImport
