/-!
# Values with names

The members of a small set, each with the name it has in payloads and messages. No two members share
a name, so that reading a name gives back the value it was written for.
-/

namespace WarehouseImport

/-- A finite set of values with names. -/
class Named (α : Type) where
  all : List α
  name : α → String
  find_name : ∀ value, (all.find? fun other => name other == name value) = some value := by
    intro value; cases value <;> rfl

namespace Named

variable {α : Type} [Named α]

/-- The value with a name. -/
def ofName? (name : String) : Option α :=
  (all : List α).find? fun value => Named.name value == name

/-- A name is read as the value it was written for. -/
theorem ofName?_name (value : α) : ofName? (name value) = some value := find_name value

/-- No two values share a name. -/
theorem name_injective {left right : α} (h : name left = name right) : left = right :=
  Option.some.inj (by rw [← ofName?_name left, h, ofName?_name])

/-- A value that was read from a name has it. -/
theorem name_of_ofName? {text : String} {value : α} (h : ofName? text = some value) :
    name value = text := by
  simpa using List.find?_some h

end Named

end WarehouseImport
