import WarehouseImport.Proofs.Routing.Resolution
import WarehouseImport.Proofs.Validation.Definitions
import WarehouseImport.Proofs.Validation.Reconciliation

/-!
# Definitions that are restricted to names

A definition is restricted to names through an index, which keeps the first of all items that share
a name. What the index keeps is stated here as a list: the items whose names no item before them
has. The columns of a restricted definition are then the columns under the first of the names, and
its keys are those of the definition that are among the names.

Names that are missing are found in an index as well. Where some names are known to be there, those
that are missing do not depend on them.
-/

namespace WarehouseImport

open WarehouseImport.Text

variable {α β : Type}

/-- The items of a list whose keys no item before them has. -/
def firstsBy (key : α → String) : List α → List α
  | [] => []
  | item :: rest => item :: (firstsBy key rest).filter fun other => key other != key item

/-- The names of a list with which no name before them agrees in lower case. -/
def firsts (names : List String) : List String := firstsBy lower names

/-- Which items are first does not depend on what is made of them, as long as keys are kept. -/
theorem firstsBy_map {key : β → String} {make : α → β} (items : List α) :
    firstsBy key (items.map make) = (firstsBy (key ∘ make) items).map make := by
  induction items with
  | nil => rfl
  | cons item rest ih =>
    rw [List.map_cons, firstsBy, ih, firstsBy, List.map_cons, List.filter_map]
    rfl

/-- The first items are among the items, in their order. -/
theorem firstsBy_sublist (key : α → String) (items : List α) :
    (firstsBy key items).Sublist items := by
  induction items with
  | nil => exact .slnil
  | cons item rest ih => exact (List.filter_sublist.trans ih).cons_cons item

/-- The first items are those of what is looked up for the items, where all are found under their
keys. -/
theorem firstsBy_filterMap {key : α → String} {key' : β → String} {find : α → Option β}
    {items : List α}
    (h : ∀ item ∈ items, ∃ found, find item = some found ∧ key' found = key item) :
    firstsBy key' (items.filterMap find) = (firstsBy key items).filterMap find := by
  induction items with
  | nil => rfl
  | cons item rest ih =>
    obtain ⟨found, hfound, hkey⟩ := h item (by simp)
    have hrest : ∀ other ∈ rest, ∃ found, find other = some found ∧ key' found = key other :=
      fun other hother => h other (List.mem_cons_of_mem _ hother)
    rw [List.filterMap_cons, hfound, firstsBy, firstsBy, List.filterMap_cons, hfound, ih hrest,
      hkey, List.filter_filterMap, List.filterMap_filter]
    refine congrArg (found :: ·) (List.filterMap_congr fun other hother => ?_)
    obtain ⟨found', hfound', hkey'⟩ := hrest other ((firstsBy_sublist key rest).subset hother)
    rw [hfound', Option.filter_some, hkey']

/-- Every key is that of a first item. -/
theorem mem_map_firstsBy {key : α → String} {items : List α} {name : String} :
    name ∈ (firstsBy key items).map key ↔ name ∈ items.map key := by
  induction items with
  | nil => exact Iff.rfl
  | cons item rest ih =>
    have hfiltered : name ∈ ((firstsBy key rest).filter fun other => key other != key item).map key ↔
        name ∈ rest.map key ∧ name ≠ key item := by
      rw [← ih]
      simp only [List.mem_map, List.mem_filter, bne_iff_ne]
      constructor
      · rintro ⟨other, ⟨hother, hne⟩, rfl⟩
        exact ⟨⟨other, hother, rfl⟩, hne⟩
      · rintro ⟨⟨other, hother, rfl⟩, hne⟩
        exact ⟨other, ⟨hother, hne⟩, rfl⟩
    rw [firstsBy, List.map_cons, List.map_cons, List.mem_cons, List.mem_cons, hfiltered]
    by_cases hname : name = key item <;> simp [hname]

/-- Of the first items, those with a property of their keys do not depend on items in front that
lack it. -/
theorem filter_firstsBy_append {key : α → String} {holds : α → Bool} {before items : List α}
    (hkeys : ∀ one other, key one = key other → holds one = holds other)
    (hlack : ∀ item ∈ before, holds item = false) :
    (firstsBy key (before ++ items)).filter holds = (firstsBy key items).filter holds := by
  induction before with
  | nil => rfl
  | cons item rest ih =>
    have hitem : holds item = false := hlack item (by simp)
    rw [List.cons_append, firstsBy, List.filter_cons, hitem, if_neg (by simp), List.filter_filter,
      ← ih fun other hother => hlack other (List.mem_cons_of_mem _ hother)]
    refine List.filter_congr fun other _ => ?_
    by_cases hsame : key other = key item
    · rw [hkeys other item hsame, hitem, Bool.false_and]
    · rw [bne_iff_ne.mpr hsame, Bool.and_true]

namespace NameIndex

/-- Items that are added to an index stand behind those that it has: the first of them whose names
are not taken. -/
theorem items_foldl_add (index : NameIndex α) (items : List (String × α)) :
    (items.foldl (fun index item => index.add item.1 item.2) index).items =
      index.items ++ ((firstsBy (fun item => lower item.1) items).filter fun item =>
        !index.hasKey (lower item.1)).map Prod.snd := by
  induction items generalizing index with
  | nil => simp [firstsBy]
  | cons item rest ih =>
    rw [List.foldl_cons, ih, firstsBy, List.filter_cons, List.filter_filter]
    by_cases htaken : index.hasKey (lower item.1)
    · rw [add, if_pos htaken, htaken, if_neg (by simp)]
      congr 2
      refine List.filter_congr fun other _ => ?_
      by_cases hsame : lower other.1 = lower item.1
      · rw [hsame, htaken, Bool.not_true, Bool.false_and]
      · rw [bne_iff_ne.mpr hsame, Bool.and_true]
    · have htakes (other : String × α) :
          (!(NameIndex.mk (index.entries ++ [(lower item.1, item.2)])).hasKey (lower other.1)) =
            (!index.hasKey (lower other.1) && lower other.1 != lower item.1) := by
        simp [hasKey, bne, BEq.comm (a := lower item.1)]
      rw [add, if_neg htaken, if_pos (by simpa using htaken), NameIndex.items, NameIndex.items,
        List.map_append, List.append_assoc, List.filter_congr fun other _ => htakes other]
      rfl

/-- An index keeps the first items. -/
theorem items_ofList_eq (items : List (String × α)) :
    (ofList items).items = (firstsBy (fun item => lower item.1) items).map Prod.snd := by
  rw [ofList, items_foldl_add]
  simp [empty, NameIndex.items, hasKey]

/-- An index of names keeps the first of them. -/
theorem items_ofNames (names : List String) : (ofNames names).items = firsts names := by
  rw [ofNames, items_ofList_eq, firstsBy_map, List.map_map]
  exact List.map_id _

end NameIndex

namespace TableDefinition

variable {definition restricted : TableDefinition} {names : List String}

/-- No names are absent exactly if all are contained. -/
theorem absent_eq_nil_iff : definition.absent names = [] ↔
    ∀ name ∈ names, definition.columns.contains name = true := by
  rw [← missing_eq_absent, NameIndex.missing, List.filter_eq_nil_iff]
  simp [ColumnCollection.contains]

/-- The first of some names are all there exactly if the names are. -/
theorem absent_firsts_eq_nil_iff :
    definition.absent (firsts names) = [] ↔ definition.absent names = [] := by
  rw [absent_eq_nil_iff, absent_eq_nil_iff]
  constructor
  · intro h name hname
    obtain ⟨first, hfirst, hsame⟩ :=
      List.mem_map.mp (mem_map_firstsBy.mpr (List.mem_map_of_mem (f := lower) hname))
    obtain ⟨column, hcolumn, hagrees⟩ := (definition.columns.contains_iff first).mp (h first hfirst)
    exact (definition.columns.contains_iff name).mpr ⟨column, hcolumn, hagrees.trans hsame⟩
  · exact fun h name hname => h name ((firstsBy_sublist lower names).subset hname)

/-- Names that are absent keep a definition from being restricted, and are listed. -/
theorem restrict_eq_error (h : definition.absent names ≠ []) :
    definition.restrict names =
      .error (.columnsNotFound definition.name.label (definition.absent names)) := by
  have hsome : ¬ names.isEmpty = true := by
    rintro hnone
    rw [List.isEmpty_iff.mp hnone] at h
    exact h rfl
  unfold restrict
  rw [if_neg hsome, missing_eq_absent]
  exact if_neg (by simpa using h)

/-- Every name that a definition is restricted to finds a column. -/
theorem exists_get?_of_restrict (h : definition.restrict names = .ok restricted)
    (hnames : names ≠ []) {name : String} (hname : name ∈ names) :
    ∃ column, definition.columns.get? name = some column ∧ lower column.name = lower name := by
  obtain ⟨-, hmissing, -⟩ := parts_of_restrict h hnames
  obtain ⟨column, hcolumn⟩ := ColumnCollection.exists_get?_of_contains
    (ColumnCollection.contains_of_missing hmissing hname)
  exact ⟨column, hcolumn, (ColumnCollection.mem_of_get? hcolumn).2⟩

/-- A restricted definition has the columns under the first of the names. -/
theorem columns_of_restrict (h : definition.restrict names = .ok restricted) (hnames : names ≠ []) :
    restricted.columns.columns = (firsts names).filterMap definition.columns.get? := by
  obtain ⟨-, -, hcolumns⟩ := parts_of_restrict h hnames
  rw [hcolumns, NameIndex.items_ofList_eq, firstsBy_map, List.map_map]
  exact (List.map_id _).trans
    (firstsBy_filterMap fun name hname => exists_get?_of_restrict h hnames hname)

/-- They are what these names find, one by one. -/
theorem found_of_restrict (h : definition.restrict names = .ok restricted) (hnames : names ≠ []) :
    restricted.columns.columns.map some = (firsts names).map definition.columns.get? := by
  rw [columns_of_restrict h hnames]
  refine map_filterMap_of_some fun name hname => ?_
  obtain ⟨column, hcolumn, -⟩ :=
    exists_get?_of_restrict h hnames ((firstsBy_sublist lower _).subset hname)
  exact ⟨column, hcolumn, hcolumn.symm⟩

/-- Its columns have the names without regard to case. -/
theorem mem_names_of_restrict (h : definition.restrict names = .ok restricted) (hnames : names ≠ [])
    (name : String) :
    name ∈ restricted.columnNames.map lower ↔ name ∈ names.map lower := by
  obtain ⟨-, -, hcolumns⟩ := parts_of_restrict h hnames
  have hfound : (names.filterMap definition.columns.get?).map (fun column => lower column.name) =
      names.map lower :=
    map_filterMap_of_some fun name hname => exists_get?_of_restrict h hnames hname
  rw [columnNames, ColumnCollection.names, hcolumns, NameIndex.items_ofList_eq, firstsBy_map,
    List.map_map, List.map_map, List.map_map, ← hfound]
  exact mem_map_firstsBy

/-- Its keys are those of the definition that are among the names. -/
theorem keys_of_restrict (h : definition.restrict names = .ok restricted) (hnames : names ≠ []) :
    restricted.primaryKeys =
      definition.primaryKeys.filter fun key => (names.map lower).contains (lower key) := by
  have hsome : ¬ names.isEmpty = true := by simpa using hnames
  have hmem := mem_names_of_restrict h hnames
  unfold restrict at h
  rw [if_neg hsome] at h
  dsimp only at h
  split at h
  · obtain ⟨-, hcolumns, hkeys⟩ := parts_of_make h
    rw [hkeys]
    refine List.filter_congr fun key _ => ?_
    rw [Bool.eq_iff_iff, List.contains_iff_mem, List.contains_iff_mem, ← hmem, columnNames,
      ColumnCollection.names, hcolumns, List.map_map]
    rfl
  · cases h

/-- Where all names in front are there, the names that an index lacks are the first of those behind
that are absent. -/
theorem absent_firsts_append {others : List String} (h : definition.absent names = []) :
    definition.absent (firsts (names ++ others)) = definition.absent (firsts others) := by
  refine filter_firstsBy_append (fun one other hsame => ?_) (fun name hname => ?_)
  · rw [hsame]
  · simpa using List.filter_eq_nil_iff.mp h name hname

end TableDefinition

end WarehouseImport
