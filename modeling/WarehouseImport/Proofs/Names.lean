import WarehouseImport.Column.Collection

/-!
# Names without regard to case

An index of names finds the first item whose name agrees in lower case. Where no two names agree,
nothing is left out of the index and every item is found under its own name. The columns of a
collection are such items.
-/

namespace WarehouseImport

open WarehouseImport.Text

namespace Text

/-- A character never becomes nothing in lower case. -/
theorem lowerChar_ne_nil (c : Char) : lowerChar c ≠ [] := by
  unfold lowerChar caseImage
  split
  · exact List.cons_ne_nil _ _
  · split
    · next codes hcodes =>
      have hspecial : ∀ entry ∈ lowerSpecial, entry.2 ≠ [] := by decide
      obtain ⟨_, _, hsplit, -⟩ := List.lookup_eq_some_iff.mp hcodes
      have hnonempty := hspecial (c.toNat, codes) (by rw [hsplit]; simp)
      simpa using hnonempty
    · split <;> exact List.cons_ne_nil _ _

/-- Only the empty text is empty in lower case. -/
theorem eq_empty_of_lower {text : String} (h : lower text = "") : text = "" := by
  cases htext : text.toList with
  | nil => exact String.toList_eq_nil_iff.mp htext
  | cons c rest =>
    unfold lower at h
    have hnil : lowerAfter [] text.toList = [] := by simpa using h
    rw [htext, lowerAfter, List.append_eq_nil_iff] at hnil
    by_cases hsigma : c.toNat = 0x3A3
    · simp [hsigma] at hnil
    · simp [hsigma, lowerChar_ne_nil] at hnil

/-- Where names differ by more than case, each item is found under its own name. -/
theorem find?_of_nodup {α : Type u} {name : α → String} {items : List α} {item : α}
    (hdistinct : (items.map fun other => lower (name other)).Nodup) (hmem : item ∈ items) :
    (items.find? fun other => lower (name other) == lower (name item)) = some item := by
  induction items with
  | nil => cases hmem
  | cons first rest ih =>
    rw [List.map_cons, List.nodup_cons] at hdistinct
    rcases List.mem_cons.mp hmem with rfl | hmem
    · simp
    · have hne : lower (name first) ≠ lower (name item) := fun hsame =>
        hdistinct.1 (List.mem_map.mpr ⟨item, hmem, hsame.symm⟩)
      rw [List.find?_cons, beq_eq_false_iff_ne.mpr hne]
      exact ih hdistinct.2 hmem

/-- A name more leaves names different in lower case if none of them agrees with it. -/
theorem nodup_lower_append_iff {names : List String} {name : String} :
    ((names ++ [name]).map lower).Nodup ↔
      (names.map lower).Nodup ∧ lower name ∉ names.map lower := by
  rw [List.map_append, List.map_singleton, List.nodup_append]
  constructor
  · rintro ⟨hnames, -, hapart⟩
    exact ⟨hnames, fun hmem => hapart _ hmem _ (List.mem_singleton_self _) rfl⟩
  · rintro ⟨hnames, hnew⟩
    refine ⟨hnames, by simp, fun key hkey other hother hsame => hnew ?_⟩
    rw [← List.mem_singleton.mp hother, ← hsame]
    exact hkey

end Text

namespace NameIndex

variable {α : Type u} {items : List (String × α)}

/-- Items that are added to an index are found behind those that it has. -/
theorem get?_foldl_add (index : NameIndex α) (items : List (String × α)) (name : String) :
    (items.foldl (fun index item => index.add item.1 item.2) index).get? name =
      (index.get? name).or
        ((items.find? fun item => lower item.1 == lower name).map Prod.snd) := by
  induction items generalizing index with
  | nil => simp
  | cons item rest ih =>
    rw [List.foldl_cons, ih, get?_add, List.find?_cons]
    by_cases hname : lower item.1 = lower name
    · simp [hname]
    · have hne : ¬ lower name = lower item.1 := fun h => hname h.symm
      have hbeq : (lower item.1 == lower name) = false := beq_eq_false_iff_ne.mpr hname
      simp [hbeq, hne]

/-- An index finds the first item whose name agrees in lower case. -/
theorem get?_ofList (items : List (String × α)) (name : String) :
    (ofList items).get? name =
      (items.find? fun item => lower item.1 == lower name).map Prod.snd := by
  rw [ofList, get?_foldl_add]
  simp [empty, get?]

/-- An index of names contains what agrees with one of them in lower case. -/
theorem contains_ofNames (names : List String) (name : String) :
    (ofNames names).contains name = (names.map lower).contains (lower name) := by
  rw [contains_eq_isSome_get?, ofNames, get?_ofList, Option.isSome_map, List.find?_map,
    Option.isSome_map, List.isSome_find?]
  rw [Bool.eq_iff_iff]
  simp

/-- Items whose names differ by more than case all become entries, in their order. -/
theorem entries_foldl_add (index : NameIndex α) (items : List (String × α))
    (hdistinct : (index.keys ++ items.map fun item => lower item.1).Nodup) :
    (items.foldl (fun index item => index.add item.1 item.2) index).entries =
      index.entries ++ items.map fun item => (lower item.1, item.2) := by
  induction items generalizing index with
  | nil => simp
  | cons item rest ih =>
    have hnew : index.hasKey (lower item.1) = false := by
      rw [List.map_cons, List.nodup_append] at hdistinct
      rw [hasKey, List.any_eq_false]
      intro entry hentry htaken
      refine hdistinct.2.2 entry.1 (List.mem_map_of_mem hentry) (lower item.1) (by simp) ?_
      exact beq_iff_eq.mp htaken
    have hadd : index.add item.1 item.2 = ⟨index.entries ++ [(lower item.1, item.2)]⟩ := by
      rw [add, hnew]
      rfl
    rw [List.foldl_cons, hadd, ih]
    · simp
    · simpa [keys] using hdistinct

/-- Items whose names differ by more than case all stay, in their order. -/
theorem items_ofList (hdistinct : (items.map fun item => lower item.1).Nodup) :
    (ofList items).items = items.map Prod.snd := by
  have hentries := entries_foldl_add empty items (by simpa [keys, empty] using hdistinct)
  unfold NameIndex.items ofList
  rw [hentries]
  simp [empty]

/-- The names in an index stay different when an item is added. -/
theorem nodup_keys_add {index : NameIndex α} (h : index.keys.Nodup) (name : String) (item : α) :
    (index.add name item).keys.Nodup := by
  unfold add
  split
  · exact h
  · next hnew =>
    have hfresh : lower name ∉ index.keys := by simpa [hasKey, keys] using hnew
    rw [keys, List.map_append]
    exact List.nodup_append.mpr ⟨h, by simp, by grind [keys]⟩

/-- Whatever names items have, those that stay differ by more than case. -/
theorem nodup_lower_items (name : α → String) (items : List α) :
    ((ofList (items.map fun item => (name item, item))).items.map fun item =>
      lower (name item)).Nodup := by
  have hadded (index : NameIndex α) (hnames : index.keys = index.items.map (lower ∘ name))
      (hdistinct : index.keys.Nodup) :
      let last := items.foldl (fun index item => index.add (name item) item) index
      last.keys = last.items.map (lower ∘ name) ∧ last.keys.Nodup := by
    induction items generalizing index with
    | nil => exact ⟨hnames, hdistinct⟩
    | cons item rest ih =>
      refine ih (index.add (name item) item) ?_ (nodup_keys_add hdistinct _ _)
      unfold add
      split
      · exact hnames
      · simpa [keys, NameIndex.items] using hnames
  obtain ⟨hnames, hdistinct⟩ := hadded empty rfl List.nodup_nil
  rw [hnames] at hdistinct
  rw [ofList, List.foldl_map]
  exact hdistinct

end NameIndex

/-- No name repeats an earlier one exactly if they all differ in lower case. -/
theorem repeatedNames_eq_nil_iff (seen names : List String) :
    repeatedNames seen names = [] ↔
      (names.map lower).Nodup ∧ ∀ name ∈ names, lower name ∉ seen := by
  induction names generalizing seen with
  | nil => simp [repeatedNames]
  | cons name rest ih =>
    by_cases hseen : lower name ∈ seen
    · simp [repeatedNames, hseen]
    · have hcontains : seen.contains (lower name) = false := by simpa using hseen
      rw [repeatedNames, hcontains, if_neg (by simp), ih, List.map_cons, List.nodup_cons]
      constructor
      · rintro ⟨hrest, hnew⟩
        refine ⟨⟨fun hmem => ?_, hrest⟩, ?_⟩
        · obtain ⟨other, hother, hsame⟩ := List.mem_map.mp hmem
          exact hnew other hother (by simp [hsame])
        · intro other hother
          rcases List.mem_cons.mp hother with rfl | hother
          · exact hseen
          · exact fun hmem => hnew other hother (List.mem_cons_of_mem _ hmem)
      · rintro ⟨⟨hfirst, hrest⟩, hnew⟩
        refine ⟨hrest, fun other hother hmem => ?_⟩
        rcases List.mem_cons.mp hmem with hsame | hmem
        · exact hfirst (List.mem_map.mpr ⟨other, hother, hsame⟩)
        · exact hnew other (List.mem_cons_of_mem _ hother) hmem

namespace ColumnCollection

variable {collection : ColumnCollection}

/-- The names of a collection all differ in lower case. -/
theorem nodup_lower_names (collection : ColumnCollection) :
    (collection.names.map lower).Nodup :=
  ((repeatedNames_eq_nil_iff [] collection.names).mp collection.distinct).1

/-- A collection finds the column whose name agrees in lower case. -/
theorem get?_eq_find? (collection : ColumnCollection) (name : String) :
    collection.get? name =
      collection.columns.find? fun column => lower column.name == lower name := by
  rw [get?, index, NameIndex.get?_ofList, List.find?_map, Option.map_map]
  simp [Function.comp_def]

/-- A column that is found is there, under a name that agrees in lower case. -/
theorem mem_of_get? {name : String} {column : Column} (h : collection.get? name = some column) :
    column ∈ collection.columns ∧ lower column.name = lower name := by
  rw [get?_eq_find?] at h
  exact ⟨List.mem_of_find?_eq_some h, by simpa using List.find?_some h⟩

/-- A column is found under its own name. -/
theorem get?_of_mem {column : Column} (h : column ∈ collection.columns) :
    collection.get? column.name = some column := by
  rw [get?_eq_find?]
  refine find?_of_nodup ?_ h
  have hdistinct := collection.nodup_lower_names
  rw [names, List.map_map] at hdistinct
  exact hdistinct

/-- It is found under any name that agrees with its own in lower case. -/
theorem get?_of_lower_eq {name : String} {column : Column} (hmem : column ∈ collection.columns)
    (hname : lower column.name = lower name) : collection.get? name = some column := by
  rw [← get?_of_mem hmem, get?_eq_find?, get?_eq_find?, hname]

/-- The names that are contained are those that have a column. -/
theorem contains_eq_isSome_get? (collection : ColumnCollection) (name : String) :
    collection.contains name = (collection.get? name).isSome :=
  NameIndex.contains_eq_isSome_get? _ _

/-- A name under which a column is found is contained. -/
theorem contains_of_get? {name : String} {column : Column}
    (h : collection.get? name = some column) : collection.contains name = true := by
  rw [contains_eq_isSome_get?, h]
  rfl

/-- A name that is contained has its column. -/
theorem exists_get?_of_contains {name : String} (h : collection.contains name = true) :
    ∃ column, collection.get? name = some column := by
  rw [contains_eq_isSome_get?] at h
  exact Option.isSome_iff_exists.mp h

/-- Names without a missing one are all contained. -/
theorem contains_of_missing {names : List String} (h : collection.index.missing names = [])
    {name : String} (hmem : name ∈ names) : collection.contains name = true := by
  have hmissing := List.filter_eq_nil_iff.mp h name hmem
  simpa [contains] using hmissing

/-- A collection contains what agrees with one of its names in lower case. -/
theorem contains_eq (collection : ColumnCollection) (name : String) :
    collection.contains name = (NameIndex.ofNames collection.names).contains name := by
  rw [contains_eq_isSome_get?, NameIndex.contains_ofNames, get?_eq_find?, List.isSome_find?,
    Bool.eq_iff_iff]
  simp [names]

end ColumnCollection

end WarehouseImport
