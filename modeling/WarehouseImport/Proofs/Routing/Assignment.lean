import WarehouseImport.Proofs.Names
import WarehouseImport.Sql.Filter
import WarehouseImport.Sql.Statement

/-!
# What statements assign

A statement that fills a table assigns a value to each column it lists, by position: a column of the
table it reads, changed on the way or not, or the time. The assignments of the mapped, keyed and
staged statements are stated here, together with the text that each of them stands for.

Statements one behind the other compose. A column that the later one reads is found among the
targets of the earlier one without regard to case, as the warehouse finds it. How rows are chosen is
left out; only what each column holds is followed.
-/

namespace WarehouseImport

open WarehouseImport.Text

/-- What a column is filled with: a column of the table that is read, cast to a text or made null
where it is empty, or the time. -/
inductive Origin where
  | column (name : String)
  | text (value : Origin)
  | unlessEmpty (value : Origin)
  | time
  deriving DecidableEq, Repr

/-- A column that a statement fills, and what with. -/
structure Assignment where
  target : String
  value : Origin
  deriving DecidableEq, Repr

namespace Origin

/-- The text of a value whose columns are written in some way. -/
def sql (written : String → SqlText) : Origin → SqlText
  | column name => written name
  | text value => [.text "CAST("] ++ value.sql written ++ [.text " AS STRING)"]
  | unlessEmpty value => [.text "NULLIF("] ++ value.sql written ++ [.text ", '')"]
  | time => SqlText.plain "CURRENT_TIMESTAMP()"

/-- The value in terms of the table that an earlier statement reads, where this one reads the table
that the earlier one fills. There is none if it reads a column that was not filled. -/
def through (earlier : List Assignment) : Origin → Option Origin
  | column name =>
    (earlier.find? fun assignment => lower assignment.target == lower name).map Assignment.value
  | text value => (value.through earlier).map text
  | unlessEmpty value => (value.through earlier).map unlessEmpty
  | time => some time

end Origin

namespace Assignment

/-- Columns that keep what they hold. -/
def same (columns : List String) : List Assignment :=
  columns.map fun column => ⟨column, .column column⟩

/-- The assignment in terms of the table that an earlier statement reads. -/
def through (earlier : List Assignment) (assignment : Assignment) : Option Assignment :=
  (assignment.value.through earlier).map fun value => ⟨assignment.target, value⟩

/-- What two statements assign, one behind the other. -/
def compose (earlier later : List Assignment) : Option (List Assignment) :=
  later.mapM (through earlier)

end Assignment

/-- What is done item by item without a miss gives every item's value. -/
theorem mapM_eq_some {α β : Type} {f : α → Option β} {g : α → β} {items : List α}
    (h : ∀ item ∈ items, f item = some (g item)) : items.mapM f = some (items.map g) := by
  induction items with
  | nil => rfl
  | cons item rest ih =>
    rw [List.mapM_cons, h item (by simp), ih fun other hother => h other (by simp [hother])]
    rfl

namespace MappedSelect

/-- Each destination is assigned its source column, as it is or cast to a text. -/
def assignments (select : MappedSelect) (cast : Bool) : List Assignment :=
  select.mappings.map fun mapping =>
    ⟨mapping.destination,
      if cast then .text (.column mapping.source) else .column mapping.source⟩

/-- The listed columns are the targets of the assignments. -/
theorem columnNames_eq (select : MappedSelect) (cast : Bool) :
    select.columnNames = (select.assignments cast).map Assignment.target := by
  rw [assignments, List.map_map]
  rfl

/-- The text of a selection projects the values of the assignments, each under its target. -/
theorem sql_eq (select : MappedSelect) (cast : Bool) (hmappings : select.mappings ≠ []) :
    select.sql cast = [.text "SELECT "] ++
      SqlText.joined ", " ((select.assignments cast).map fun assignment =>
        assignment.value.sql (FilterClause.columnOf select.base.qualifier) ++
          [.text " AS ", .name assignment.target]) ++
      [.text " FROM "] ++ select.base.clause := by
  have hsome : ¬ select.mappings.isEmpty = true := by
    simpa using hmappings
  rw [sql, if_neg hsome, assignments, List.map_map]
  congr 5
  funext mapping
  cases cast <;> rfl

end MappedSelect

namespace KeyedCopy

/-- Each column keeps what it holds in the staging table. -/
def assignments (copy : KeyedCopy) : List Assignment := Assignment.same copy.columns

end KeyedCopy

namespace StagedInsert

/-- The value of a staged column, which is null where it is empty if the insertion says so. -/
def origin (insert : StagedInsert) (column : String) : Origin :=
  if (NameIndex.ofNames insert.emptyToNull).contains column then .unlessEmpty (.column column)
  else .column column

/-- Each staged column is assigned its value, and the time column the time if it is wanted. -/
def assignments (insert : StagedInsert) : List Assignment :=
  insert.columns.map (fun column => ⟨column, insert.origin column⟩) ++
    if insert.stamped then [⟨timestampColumn, .time⟩] else []

/-- The columns that are written are the targets of the assignments. -/
theorem targets_eq (insert : StagedInsert) :
    insert.targets = insert.assignments.map Assignment.target := by
  unfold targets assignments
  cases insert.stamped <;> simp [Function.comp_def]

/-- The values that are written are those of the assignments. -/
theorem expressions_eq (insert : StagedInsert) :
    insert.expressions =
      insert.assignments.map fun assignment =>
        assignment.value.sql fun column => [.name column] := by
  have hstaged : insert.columns.map insert.expression =
      (insert.columns.map fun column => (⟨column, insert.origin column⟩ : Assignment)).map
        fun assignment => assignment.value.sql fun column => [.name column] := by
    rw [List.map_map]
    congr 1
    funext column
    change _ = (insert.origin column).sql _
    unfold expression origin
    split <;> rfl
  unfold expressions assignments
  rw [hstaged]
  cases insert.stamped
  · simp
  · simp [Origin.sql]

end StagedInsert

end WarehouseImport
