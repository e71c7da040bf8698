import WarehouseImport.Proofs.Routing.Routes
import Mathlib.Data.List.Forall2

/-!
# What mappings resolve to

Mappings are resolved against the columns of a source as a whole. The names that they begin at are
looked up first, and all that the source lacks are listed; then the names that they end under are
compared, and all that repeat an earlier one are listed. Only mappings that pass both have expected
columns, one for each of them in their order.

Both lists are stated here by what is in them and not by the passes that find them: a name is absent
if no column agrees with it in lower case, and it collides if a name before it does.
-/

namespace WarehouseImport

open WarehouseImport.Text

/-- Whether a name agrees in lower case with one that stands before a place. -/
def collidesAt (names : List String) (item : String × Nat) : Bool :=
  lower item.1 ∈ (names.take item.2).map lower

/-- The names that agree in lower case with a name before them, in their order. -/
def collisions (names : List String) : List String :=
  (names.zipIdx.filter (collidesAt names)).map Prod.fst

/-- The names that repeat one before them are those that collide, where the names seen are those in
front of them. -/
theorem repeatedNames_eq_filter (before seen names : List String)
    (hseen : ∀ key, key ∈ seen ↔ key ∈ before.map lower) :
    repeatedNames seen names =
      ((names.zipIdx before.length).filter (collidesAt (before ++ names))).map Prod.fst := by
  induction names generalizing before seen with
  | nil => rfl
  | cons name rest ih =>
    have hcollides : collidesAt (before ++ name :: rest) (name, before.length) =
        seen.contains (lower name) := by
      simp [collidesAt, hseen]
    have hbehind : before ++ name :: rest = (before ++ [name]) ++ rest := by simp
    have hplace : before.length + 1 = (before ++ [name]).length := by simp
    rw [List.zipIdx_cons, List.filter_cons, hcollides, hbehind, hplace, repeatedNames]
    by_cases hrepeated : seen.contains (lower name)
    · have hsame : ∀ key, key ∈ seen ↔ key ∈ (before ++ [name]).map lower := by
        have hname := (hseen (lower name)).mp (List.contains_iff_mem.mp hrepeated)
        grind
      rw [if_pos hrepeated, if_pos hrepeated, List.map_cons, ih _ _ hsame]
    · have hsame : ∀ key, key ∈ lower name :: seen ↔ key ∈ (before ++ [name]).map lower := by
        grind
      rw [if_neg hrepeated, if_neg hrepeated, ih _ _ hsame]

/-- The repeated names of a list are its collisions. -/
theorem repeatedNames_eq_collisions (names : List String) :
    repeatedNames [] names = collisions names :=
  repeatedNames_eq_filter [] [] names (by simp)

namespace TableDefinition

/-- The names, in their order, with which no column agrees in lower case. -/
def absent (definition : TableDefinition) (names : List String) : List String :=
  names.filter fun name => ∀ column ∈ definition.columns.columns, lower column.name ≠ lower name

/-- The names that the index of columns misses are the absent ones. -/
theorem missing_eq_absent (definition : TableDefinition) (names : List String) :
    definition.columns.index.missing names = definition.absent names := by
  apply List.filter_congr
  intro name _
  change (!definition.columns.contains name) = _
  rw [ColumnCollection.contains_eq_isSome_get?, ColumnCollection.get?_eq_find?, List.isSome_find?,
    Bool.eq_iff_iff]
  simp

end TableDefinition

namespace ColumnMapping

variable {source : TableDefinition} {mapping : ColumnMapping} {mappings : List ColumnMapping}
  {column : Column}

/-- A column is the one of the source that a mapping begins at, under the name that it ends
under. -/
def Renames (source : TableDefinition) (mapping : ColumnMapping) (column : Column) : Prop :=
  ∃ mapped ∈ source.columns.columns, lower mapped.name = lower mapping.source ∧
    column = { mapped with name := mapping.destination }

/-- Mappings whose sources are all there give a column each, in their order. -/
theorem forall₂_renames (hnamed : ∀ mapping ∈ mappings, mapping.destination ≠ "")
    (hknown : source.columns.index.missing (mappings.map (·.source)) = []) :
    List.Forall₂ (Renames source) mappings (mappings.filterMap (column? source)) := by
  induction mappings with
  | nil => exact .nil
  | cons mapping rest ih =>
    have hcontains : source.columns.contains mapping.source = true :=
      ColumnCollection.contains_of_missing hknown (by simp)
    obtain ⟨mapped, hmapped⟩ := ColumnCollection.exists_get?_of_contains hcontains
    obtain ⟨hmem, hname⟩ := ColumnCollection.mem_of_get? hmapped
    have hrenamed : column? source mapping =
        some { mapped with name := mapping.destination } := by
      have hdestination := hnamed mapping (by simp)
      simp [column?, hmapped, Column.renamed, hdestination]
    rw [List.filterMap_cons, hrenamed]
    refine .cons ⟨mapped, hmem, hname, rfl⟩ (ih ?_ ?_)
    · exact fun other hother => hnamed other (List.mem_cons_of_mem _ hother)
    · have hfilter := List.filter_eq_nil_iff.mp hknown
      exact List.filter_eq_nil_iff.mpr fun name hmem => hfilter name (by simp_all)

/-- The columns that mappings give have the names they end under. -/
theorem names_of_forall₂ {columns : List Column}
    (h : List.Forall₂ (Renames source) mappings columns) :
    columns.map (·.name) = mappings.map (·.destination) := by
  induction h with
  | nil => rfl
  | cons hfirst _ ih =>
    obtain ⟨mapped, -, -, rfl⟩ := hfirst
    simp [ih]

/-- A collection is made of columns whose names do not collide, and otherwise the collisions are
listed. -/
theorem ofList_eq (columns : List Column) :
    (collisions (columns.map (·.name)) = [] →
      ∃ collection, ColumnCollection.ofList columns = .ok collection ∧
        collection.columns = columns) ∧
    (collisions (columns.map (·.name)) ≠ [] →
      ColumnCollection.ofList columns =
        .error (.duplicateColumns (collisions (columns.map (·.name))))) := by
  rw [← repeatedNames_eq_collisions]
  constructor
  · intro hnone
    exact ⟨⟨columns, hnone⟩, dif_pos hnone, rfl⟩
  · exact fun hsome => dif_neg hsome

/-- Mappings are resolved completely or not at all. Without mappings the columns of the source are
expected. With mappings, all of whose names at the destination are given: if the source lacks some
of the mapped names, these are listed as they are mapped; otherwise, if names at the destination
collide, every one that agrees with an earlier one is listed in order; otherwise there is one column
for each mapping in their order, the mapped column of the source in every part but its name, which
is the one at the destination. -/
theorem expected_outcome (source : TableDefinition) (mappings : List ColumnMapping)
    (hnamed : ∀ mapping ∈ mappings, mapping.destination ≠ "") :
    (mappings = [] → expected source mappings = .ok source.columns) ∧
    (mappings ≠ [] → source.absent (mappings.map (·.source)) ≠ [] →
      expected source mappings = .error
        (.missingColumns "source" source.name.label (source.absent (mappings.map (·.source))))) ∧
    (mappings ≠ [] → source.absent (mappings.map (·.source)) = [] →
      collisions (mappings.map (·.destination)) ≠ [] →
      expected source mappings = .error
        (.duplicateColumns (collisions (mappings.map (·.destination))))) ∧
    (mappings ≠ [] → source.absent (mappings.map (·.source)) = [] →
      collisions (mappings.map (·.destination)) = [] →
      ∃ collection, expected source mappings = .ok collection ∧
        List.Forall₂ (Renames source) mappings collection.columns) := by
  have hsome (h : mappings ≠ []) : ¬ mappings.isEmpty = true := by simpa using h
  have hgiven (h : mappings ≠ []) (hknown : source.absent (mappings.map (·.source)) = []) :
      expected source mappings =
        ColumnCollection.ofList (mappings.filterMap (column? source)) := by
    rw [← source.missing_eq_absent] at hknown
    rw [expected, if_neg (hsome h)]
    dsimp only
    rw [hknown]
    rfl
  have hrenames (hknown : source.absent (mappings.map (·.source)) = []) :
      List.Forall₂ (Renames source) mappings (mappings.filterMap (column? source)) :=
    forall₂_renames hnamed (source.missing_eq_absent _ ▸ hknown)
  refine ⟨?_, ?_, ?_, ?_⟩
  · rintro rfl
    exact dif_pos source.columns.distinct
  · intro h habsent
    rw [← source.missing_eq_absent] at habsent ⊢
    have hmissing : ¬ (source.columns.index.missing (mappings.map (·.source))).isEmpty = true := by
      simpa using habsent
    rw [expected, if_neg (hsome h)]
    exact if_neg hmissing
  · intro h hknown hcollide
    rw [← names_of_forall₂ (hrenames hknown)] at hcollide ⊢
    rw [hgiven h hknown]
    exact (ofList_eq _).2 hcollide
  · intro h hknown hdistinct
    rw [← names_of_forall₂ (hrenames hknown)] at hdistinct
    obtain ⟨collection, hcollection, hcolumns⟩ := (ofList_eq _).1 hdistinct
    rw [hgiven h hknown]
    exact ⟨collection, hcollection, hcolumns ▸ hrenames hknown⟩

/-- A source of a text and a whole number. -/
def pair : TableDefinition where
  name := ⟨"data", "sales"⟩
  columns := ⟨[⟨"a", "STRING", some "10", .flag true, none, none⟩,
    ⟨"b", "INT64", none, .flag false, none, none⟩], by decide⟩
  primaryKeys := ["b"]
  temporary := false
  rows := none
  bytes := none
  keys_known := by decide

/-- Mappings that swap two names and map one of the columns again. -/
def swap : List ColumnMapping := [⟨"A", "b"⟩, ⟨"b", "A"⟩, ⟨"a", "c"⟩]

/-- Columns that swap their names are resolved. -/
theorem expected_outcome_swap :
    (∀ mapping ∈ swap, mapping.destination ≠ "") ∧
    ∃ collection, expected pair swap = .ok collection ∧
      List.Forall₂ (Renames pair) swap collection.columns :=
  ⟨by decide, (expected_outcome pair swap (by decide)).2.2.2 (by decide) (by decide) (by decide)⟩

end ColumnMapping

end WarehouseImport
