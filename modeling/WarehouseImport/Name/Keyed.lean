/-!
# Lists with one item for each key

Items with keys in the order in which the keys first came. Putting an item replaces the one of the
same key in its place.
-/

namespace WarehouseImport.Keyed

variable {α : Type}

/-- Puts an item in the place of the one with its key, or at the end. -/
def put (key : α → String) (item : α) : List α → List α
  | [] => [item]
  | other :: rest => if key other = key item then item :: rest else other :: put key item rest

/-- Puts a value under a name. -/
def assign (name : String) (value : α) (entries : List (String × α)) : List (String × α) :=
  put Prod.fst (name, value) entries

/-- The keys stay in their order; a new key comes last. -/
theorem map_put (key : α → String) (item : α) (items : List α) :
    (put key item items).map key =
      if key item ∈ items.map key then items.map key else items.map key ++ [key item] := by
  induction items with
  | nil => simp [put]
  | cons other rest ih =>
    by_cases h : key other = key item
    · simp [put, h]
    · have h' : ¬ key item = key other := fun h' => h h'.symm
      by_cases hm : key item ∈ rest.map key <;> simp_all [put]

/-- An item of a new key is put at the end. -/
theorem put_of_notMem {key : α → String} {item : α} {items : List α}
    (hnew : key item ∉ items.map key) : put key item items = items ++ [item] := by
  induction items with
  | nil => rfl
  | cons other rest ih =>
    rw [List.map_cons, List.mem_cons, not_or] at hnew
    rw [put, if_neg (Ne.symm hnew.1), ih hnew.2, List.cons_append]

/-- An item that was put is there. -/
theorem mem_put (key : α → String) (item : α) (items : List α) : item ∈ put key item items := by
  induction items with
  | nil => simp [put]
  | cons other rest ih =>
    by_cases h : key other = key item <;> simp [put, h, ih]

/-- Besides an item that was put there are only items of other keys, if no two shared a key. -/
theorem eq_or_mem_of_mem_put {key : α → String} {item other : α} {items : List α}
    (hdistinct : (items.map key).Nodup) (h : other ∈ put key item items) :
    other = item ∨ other ∈ items ∧ key other ≠ key item := by
  induction items with
  | nil => exact .inl (List.mem_singleton.mp h)
  | cons first rest ih =>
    obtain ⟨hfirst, hrest⟩ := List.nodup_cons.mp hdistinct
    by_cases hsame : key first = key item
    · rw [put, if_pos hsame, List.mem_cons] at h
      refine h.imp_right fun hother => ⟨List.mem_cons_of_mem _ hother, fun heq => hfirst ?_⟩
      rw [hsame, ← heq]
      exact List.mem_map_of_mem hother
    · rw [put, if_neg hsame, List.mem_cons] at h
      rcases h with rfl | h
      · exact .inr ⟨List.mem_cons_self, hsame⟩
      · exact (ih hrest h).imp_right fun hother => ⟨List.mem_cons_of_mem _ hother.1, hother.2⟩

/-- What is assigned to a name is found under it. -/
theorem lookup_assign (name : String) (value : α) (entries : List (String × α)) :
    (assign name value entries).lookup name = some value := by
  induction entries with
  | nil => simp [assign, put]
  | cons entry rest ih =>
    obtain ⟨key, found⟩ := entry
    by_cases h : key = name
    · simp [assign, put, h]
    · have h' : (name == key) = false := beq_eq_false_iff_ne.mpr (Ne.symm h)
      simpa [assign, put, h, List.lookup_cons, h'] using ih

/-- An assignment changes nothing under other names. -/
theorem lookup_assign_of_ne {name other : String} (h : other ≠ name) (value : α)
    (entries : List (String × α)) :
    (assign name value entries).lookup other = entries.lookup other := by
  have hn : (other == name) = false := beq_eq_false_iff_ne.mpr h
  induction entries with
  | nil => simp [assign, put, List.lookup_cons, hn]
  | cons entry rest ih =>
    obtain ⟨key, found⟩ := entry
    by_cases hk : key = name
    · simp [assign, put, hk, List.lookup_cons, hn]
    · by_cases ho : other == key
      · simp [assign, put, hk, List.lookup_cons, ho]
      · simpa [assign, put, hk, List.lookup_cons, ho] using ih

end WarehouseImport.Keyed
