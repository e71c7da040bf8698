import WarehouseImport.Text.Case

/-!
# Name indexes

A name index finds items by name without regard to case and keeps the order in which they were
added. Of two items that share a name the first stays.
-/

namespace WarehouseImport

open WarehouseImport.Text

/-- Items under their lower case names, in the order they were added. -/
structure NameIndex (α : Type u) where
  entries : List (String × α)

namespace NameIndex

variable {α : Type u}

/-- The index without items. -/
def empty : NameIndex α := ⟨[]⟩

/-- Whether a lower case name is taken. -/
def hasKey (index : NameIndex α) (key : String) : Bool := index.entries.any (·.1 == key)

/-- Adds an item under a name, unless the name is taken. -/
def add (index : NameIndex α) (name : String) (item : α) : NameIndex α :=
  if index.hasKey (lower name) then index else ⟨index.entries ++ [(lower name, item)]⟩

/-- The index of named items. -/
def ofList (items : List (String × α)) : NameIndex α :=
  items.foldl (fun index item => index.add item.1 item.2) empty

/-- The index of names that stand for themselves. -/
def ofNames (names : List String) : NameIndex String :=
  ofList (names.map fun name => (name, name))

/-- The item with a name. -/
def get? (index : NameIndex α) (name : String) : Option α := index.entries.lookup (lower name)

/-- Whether some item has a name. -/
def contains (index : NameIndex α) (name : String) : Bool := index.hasKey (lower name)

/-- The lower case names in order. -/
def keys (index : NameIndex α) : List String := index.entries.map (·.1)

/-- The items in order. -/
def items (index : NameIndex α) : List α := index.entries.map (·.2)

/-- The number of items. -/
def size (index : NameIndex α) : Nat := index.entries.length

/-- The names, as given and in their order, that no item has. -/
def missing (index : NameIndex α) (names : List String) : List String :=
  names.filter fun name => !index.contains name

/-- A name is taken where a key is found among the entries. -/
theorem hasKey_eq_isSome_lookup (index : NameIndex α) (key : String) :
    index.hasKey key = (index.entries.lookup key).isSome := by
  cases index with | mk entries =>
  induction entries with
  | nil => rfl
  | cons entry rest ih =>
    obtain ⟨taken, item⟩ := entry
    by_cases h : key = taken
    · simp [hasKey, h]
    · have hk : (key == taken) = false := beq_eq_false_iff_ne.mpr h
      have he : (taken == key) = false := beq_eq_false_iff_ne.mpr (Ne.symm h)
      simpa [hasKey, List.lookup_cons, hk, he] using ih

/-- Containing a name and finding an item under it are the same. -/
theorem contains_eq_isSome_get? (index : NameIndex α) (name : String) :
    index.contains name = (index.get? name).isSome :=
  index.hasKey_eq_isSome_lookup (lower name)

/-- An added item is found under its name, unless an earlier one has it. -/
theorem get?_add (index : NameIndex α) (name other : String) (item : α) :
    (index.add name item).get? other =
      (index.get? other).or (if lower other = lower name then some item else none) := by
  by_cases h : index.hasKey (lower name)
  · by_cases ho : lower other = lower name
    · rw [index.hasKey_eq_isSome_lookup] at h
      obtain ⟨found, hf⟩ := Option.isSome_iff_exists.mp h
      simp [add, get?, ho, hf, index.hasKey_eq_isSome_lookup]
    · simp [add, get?, h, ho]
  · by_cases ho : lower other = lower name
    · have hn : index.entries.lookup (lower name) = none := by
        rw [index.hasKey_eq_isSome_lookup] at h
        exact Option.not_isSome_iff_eq_none.mp h
      simp [add, get?, h, ho, List.lookup_append, hn]
    · have hb : (lower other == lower name) = false := beq_eq_false_iff_ne.mpr ho
      simp [add, get?, h, ho, List.lookup_append, List.lookup_cons, hb]

end NameIndex

end WarehouseImport
