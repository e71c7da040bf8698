import WarehouseImport.Proofs.Routing.Resolution
import WarehouseImport.Proofs.Validation.Reconciliation

/-!
# Two views of columns

A collection is looked at in two ways: as the list of its columns, in which a place is sought by
scanning, and through the index of their names. Both views are gathered in one pass, which puts a
column into the list and into the index where its name is new and notes its name where it is not.
The pass keeps the index in step with the list, column by column, so no lookup can tell which of the
two it reads.

An index by itself takes items under any names. It keeps the first of those that share a name, and a
name is missing where no item has it.
-/

namespace WarehouseImport

open WarehouseImport.Text

namespace NameIndex

variable {α : Type u}

/-- The names that are taken once an item is added are those that were taken, and its own. -/
theorem hasKey_add (index : NameIndex α) (name key : String) (item : α) :
    (index.add name item).hasKey key = true ↔ index.hasKey key = true ∨ key = lower name := by
  unfold add
  split
  · next htaken =>
    refine ⟨.inl, ?_⟩
    rintro (hkey | rfl)
    · exact hkey
    · exact htaken
  · simp [hasKey, eq_comm (a := key)]

end NameIndex

namespace ColumnCollection

/-- What a pass over columns has gathered: the columns whose names were new, the index of these, and
the names that were not new. -/
structure Gathered where
  columns : List Column
  index : NameIndex Column
  repeated : List String

namespace Gathered

variable {gathered : Gathered}

/-- Nothing is gathered yet. -/
def start : Gathered := ⟨[], .empty, []⟩

/-- One more column is put into both views, or its name is noted. -/
def take (gathered : Gathered) (column : Column) : Gathered :=
  if gathered.index.contains column.name then
    { gathered with repeated := gathered.repeated ++ [column.name] }
  else
    { gathered with
      columns := gathered.columns ++ [column]
      index := gathered.index.add column.name column }

/-- The index holds the columns of the list in their order, each under its name in lower case. -/
def InStep (gathered : Gathered) : Prop :=
  gathered.index.entries = gathered.columns.map fun column => (lower column.name, column)

/-- A column more leaves the views in step. -/
theorem InStep.take (h : gathered.InStep) (column : Column) : (gathered.take column).InStep := by
  unfold Gathered.take
  split
  · exact h
  · next hnew =>
    have hfree : ¬ gathered.index.hasKey (lower column.name) = true := hnew
    change (gathered.index.add column.name column).entries = _
    rw [NameIndex.add, if_neg hfree, List.map_append, ← h]
    rfl

/-- So does any number of them. -/
theorem InStep.foldl (h : gathered.InStep) (columns : List Column) :
    (columns.foldl Gathered.take gathered).InStep := by
  induction columns generalizing gathered with
  | nil => exact h
  | cons column rest ih => exact ih (h.take column)

/-- The index is made of all columns, since it passes over those whose names are taken itself. -/
theorem index_foldl (gathered : Gathered) (columns : List Column) :
    (columns.foldl take gathered).index =
      columns.foldl (fun index column => index.add column.name column) gathered.index := by
  induction columns generalizing gathered with
  | nil => rfl
  | cons column rest ih =>
    have htaken : (gathered.take column).index = gathered.index.add column.name column := by
      unfold take
      split
      · next hsame => exact (if_pos (by exact hsame)).symm
      · rfl
    rw [List.foldl_cons, List.foldl_cons, ih, htaken]

/-- The names that are noted are those that repeat one before them. -/
theorem repeated_foldl {seen : List String} (gathered : Gathered) (columns : List Column)
    (hseen : ∀ key, key ∈ seen ↔ gathered.index.hasKey key = true) :
    (columns.foldl take gathered).repeated =
      gathered.repeated ++ repeatedNames seen (columns.map (·.name)) := by
  induction columns generalizing gathered seen with
  | nil => simp [repeatedNames]
  | cons column rest ih =>
    have hcontains : seen.contains (lower column.name) = gathered.index.contains column.name := by
      rw [Bool.eq_iff_iff, List.contains_iff_mem]
      exact hseen (lower column.name)
    rw [List.foldl_cons, List.map_cons, repeatedNames, hcontains, take]
    by_cases hknown : gathered.index.contains column.name = true
    · rw [if_pos hknown, if_pos hknown,
        ih ⟨gathered.columns, gathered.index, gathered.repeated ++ [column.name]⟩ hseen]
      simp
    · rw [if_neg hknown, if_neg hknown]
      refine ih { gathered with columns := _, index := _ } fun key => ?_
      rw [NameIndex.hasKey_add, List.mem_cons, hseen, or_comm]

end Gathered

/-- What a pass over columns gathers. -/
def gather (columns : List Column) : Gathered := columns.foldl Gathered.take .start

variable {columns : List Column} {collection : ColumnCollection}

/-- The index of the pass is that of the columns. -/
theorem index_gather (columns : List Column) :
    (gather columns).index =
      NameIndex.ofList (columns.map fun column => (column.name, column)) := by
  rw [gather, Gathered.index_foldl, NameIndex.ofList, List.foldl_map]
  rfl

/-- The names that the pass notes are the collisions. -/
theorem repeated_gather (columns : List Column) :
    (gather columns).repeated = collisions (columns.map (·.name)) := by
  have hseen : ∀ key, key ∈ ([] : List String) ↔ Gathered.start.index.hasKey key = true := by
    simp [Gathered.start, NameIndex.empty, NameIndex.hasKey]
  rw [gather, Gathered.repeated_foldl .start columns hseen, repeatedNames_eq_collisions]
  rfl

/-- The entries of the index are the columns of the list. -/
theorem inStep_gather (columns : List Column) : (gather columns).InStep := by
  have hstart : Gathered.start.InStep := rfl
  exact hstart.foldl columns

/-- No two columns of a collection agree in lower case. -/
theorem nodup_lower (collection : ColumnCollection) :
    (collection.columns.map fun column => lower column.name).Nodup := by
  have hnames := collection.nodup_lower_names
  rw [names, List.map_map] at hnames
  exact hnames

/-- The index of a collection holds its columns in their order. -/
theorem entries_index (collection : ColumnCollection) :
    collection.index.entries =
      collection.columns.map fun column => (lower column.name, column) := by
  have hdistinct : ((NameIndex.empty : NameIndex Column).keys ++
      (collection.columns.map fun column => (column.name, column)).map fun item =>
        lower item.1).Nodup := by
    simpa [NameIndex.keys, NameIndex.empty, Function.comp_def] using collection.nodup_lower
  rw [index, NameIndex.ofList, NameIndex.entries_foldl_add _ _ hdistinct]
  simp [NameIndex.empty]

/-- A collection that can be made has what the pass gathers, and the pass notes nothing. -/
theorem gather_of_ofList (h : ofList columns = .ok collection) :
    gather columns = ⟨collection.columns, collection.index, []⟩ := by
  obtain rfl := columns_of_ofList h
  have hindex : (gather collection.columns).index = collection.index := index_gather _
  have hrepeated : (gather collection.columns).repeated = [] := by
    rw [repeated_gather, ← repeatedNames_eq_collisions]
    exact collection.distinct
  -- The list is read off the index, with which both lists are in step.
  have hcolumns : (gather collection.columns).columns = collection.columns := by
    have hinStep := inStep_gather collection.columns
    rw [Gathered.InStep, hindex, entries_index] at hinStep
    exact (List.map_injective_iff.mpr (fun _ _ hsame => (Prod.mk.inj hsame).2) hinStep).symm
  rw [← hindex, ← hrepeated]
  generalize gather collection.columns = gathered at hcolumns
  rw [← hcolumns]

/-- A name is found by every lookup or by none: it has a place in the list, at which there is the
column that the index has under it, or it has neither a place nor a column. -/
inductive Finds (collection : ColumnCollection) (name : String) : Prop where
  | found (place : Nat) (column : Column) (hplace : collection.position name = .ok (some place))
      (hthere : collection.atPlace place = .ok column) (hget : collection.get? name = some column) :
      Finds collection name
  | missing (hplace : collection.position name = .ok none) (hget : collection.get? name = none) :
      Finds collection name

/-- A place within the list is counted from its start. -/
theorem atPlace_of_getElem? {place : Nat} {column : Column}
    (h : collection.columns[place]? = some column) : collection.atPlace place = .ok column := by
  have hplace : ¬ (place : Int) < 0 := by omega
  unfold atPlace
  simp [hplace, h]

/-- Every name that is given is found by all lookups or by none. -/
theorem finds (collection : ColumnCollection) {name : String} (hname : name ≠ "") :
    collection.Finds name := by
  have hgiven : name.isEmpty = false := by simpa [String.isEmpty_iff] using hname
  have hscan : collection.position name =
      .ok (collection.columns.findIdx? fun column => lower column.name == lower name) := by
    rw [position, hgiven]
    rfl
  cases hplace : collection.columns.findIdx? fun column => lower column.name == lower name with
  | none =>
    have hnone : ∀ column ∈ collection.columns, lower column.name ≠ lower name := by
      simpa using List.findIdx?_eq_none_iff.mp hplace
    refine .missing (hscan.trans (congrArg _ hplace)) ?_
    rw [get?_eq_find?]
    exact List.find?_eq_none.mpr (by simpa using hnone)
  | some place =>
    obtain ⟨hlt, hsame, -⟩ := List.findIdx?_eq_some_iff_getElem.mp hplace
    have hagrees : lower collection.columns[place].name = lower name := by simpa using hsame
    have hmem : collection.columns[place] ∈ collection.columns := List.getElem_mem hlt
    exact .found place _ (hscan.trans (congrArg _ hplace))
      (atPlace_of_getElem? (List.getElem?_eq_getElem hlt)) (get?_of_lower_eq hmem hagrees)

/-- The views of columns agree in all that they say. Columns of which some names collide are
refused, and the failure lists exactly the names that agree in lower case with one before them, in
their order. All others make a collection of these columns, and the index in it is the one that a
pass over the columns fills beside the list. In the collection every name that is given is
contained, has a place and finds a column if some column agrees with it, and none of these if no
column does; the column that is found is the one at the place. The keys of the index are the names
in lower case in the order of the columns, no two of them the same, and it is as long as the list.
Whatever items are added to an index one after another, a name finds the first of them that agrees
with it in lower case, and those of some names are missing with which no item agrees. -/
theorem views_agree {α : Type} (columns : List Column) (added : List (String × α)) :
    (collisions (columns.map (·.name)) ≠ [] →
      ofList columns = .error (.duplicateColumns (collisions (columns.map (·.name))))) ∧
    (collisions (columns.map (·.name)) = [] →
      ∃ collection, ofList columns = .ok collection ∧ collection.columns = columns ∧
        gather columns = ⟨columns, collection.index, []⟩ ∧
        (∀ name ≠ "", ∃ place?, collection.position name = .ok place? ∧
          (collection.contains name = true ↔ ∃ column ∈ columns, lower column.name = lower name) ∧
          (collection.contains name = true ↔ place? ≠ none) ∧
          (place? ≠ none ↔ collection.get? name ≠ none) ∧
          ∀ place, place? = some place →
            ∃ column, collection.atPlace place = .ok column ∧
              collection.get? name = some column) ∧
        collection.index.keys = columns.map (fun column => lower column.name) ∧
        collection.index.keys.Nodup ∧ collection.size = collection.index.size) ∧
    (∀ name, (NameIndex.ofList added).get? name =
      (added.find? fun item => lower item.1 == lower name).map Prod.snd) ∧
    ∀ names, (NameIndex.ofList added).missing names =
      names.filter fun name => ∀ item ∈ added, lower item.1 ≠ lower name := by
  refine ⟨(ColumnMapping.ofList_eq columns).2, fun hdistinct => ?_, NameIndex.get?_ofList added,
    fun names => List.filter_congr fun name _ => ?_⟩
  · obtain ⟨collection, hmade, rfl⟩ := (ColumnMapping.ofList_eq columns).1 hdistinct
    have hkeys :
        collection.index.keys = collection.columns.map fun column => lower column.name := by
      rw [NameIndex.keys, entries_index, List.map_map]
      rfl
    refine ⟨collection, hmade, rfl, gather_of_ofList hmade, fun name hname => ?_, hkeys, ?_, ?_⟩
    · have hcolumn := collection.contains_iff name
      rcases collection.finds hname with ⟨place, column, hplace, hthere, hget⟩ | ⟨hplace, hget⟩
      · have hcontains := contains_of_get? hget
        refine ⟨some place, hplace, hcolumn, by simp [hcontains], by simp [hget], ?_⟩
        rintro _ ⟨⟩
        exact ⟨column, hthere, hget⟩
      · have hcontains : collection.contains name = false := by
          rw [contains_eq_isSome_get?, hget]
          rfl
        exact ⟨none, hplace, hcolumn, by simp [hcontains], by simp [hget], by simp⟩
    · rw [hkeys]
      exact collection.nodup_lower
    · rw [size, NameIndex.size, entries_index, List.length_map]
  · have hfound := NameIndex.get?_ofList added name
    rw [NameIndex.contains_eq_isSome_get?, hfound, Option.isSome_map, List.isSome_find?,
      Bool.eq_iff_iff]
    simp

/-- A text column. -/
def textOf (name : String) : Column := ⟨name, "STRING", none, .flag true, none, none⟩

/-- Names that come again in any case are listed as often as they do. Columns without such names are
found in both views, and so is the first of two items of one name in an index. -/
theorem views_agree_mixed :
    ofList [textOf "a", textOf "B", textOf "A", textOf "b", textOf "a"] =
      .error (.duplicateColumns ["A", "b", "a"]) ∧
    (∃ collection, ofList [textOf "Id", textOf "Name"] = .ok collection ∧
      collection.index.keys = ["id", "name"] ∧
      ∃ place?, collection.position "NAME" = .ok place? ∧
        (collection.contains "NAME" = true ↔ place? ≠ none)) ∧
    ((NameIndex.empty.add "k" 1).add "K" 2).get? "K" = some 1 := by
  obtain ⟨hrefused, -, -, -⟩ := views_agree
    [textOf "a", textOf "B", textOf "A", textOf "b", textOf "a"] ([] : List (String × Nat))
  obtain ⟨-, hmade, hfirst, -⟩ := views_agree [textOf "Id", textOf "Name"] [("k", 1), ("K", 2)]
  obtain ⟨collection, hcollection, -, -, hfinds, hkeys, -, -⟩ := hmade (by decide)
  obtain ⟨place?, hplace, -, hcontains, -, -⟩ := hfinds "NAME" (by decide)
  exact ⟨hrefused (by decide), ⟨collection, hcollection, hkeys, place?, hplace, hcontains⟩,
    hfirst "K"⟩

end ColumnCollection

end WarehouseImport
