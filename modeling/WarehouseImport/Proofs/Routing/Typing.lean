import WarehouseImport.Proofs.Routing.Written

/-!
# Typed insertions

A statement that creates a table declares the types of its columns. A table that is filled or copied
holds columns of these types, or of those in its description. A value that an insertion reads from
there so has a type as well, and the insertion is typed if each value has a type and each column that
it goes into was declared with one. Whether these are the same type is said by what fits: a column
always does, a cast to a text and the time of the import under conditions on the source.

Lengths of types are left out: a type is compared by its name, and by its parts if it is nested.
-/

namespace WarehouseImport

open WarehouseImport.Action Exchange Trace
open WarehouseImport.Text

/-- The type that a written type gives without its length. One with parts in brackets stays whole. -/
def DataType.bare (written : String) : String :=
  if written.toList.contains '<' then written
  else String.ofList (written.toList.takeWhile (· != '('))

namespace Column

/-- The data type that a column is declared with. -/
def dataType (column : Column) : String := DataType.bare column.writtenType

/-- The column that a name stands for. -/
def named? (columns : List Column) (name : String) : Option Column :=
  columns.find? fun column => lower column.name == lower name

/-- Columns that are written with the same type have the same data type. -/
theorem dataType_congr {column other : Column} (h : column.writtenType = other.writtenType) :
    column.dataType = other.dataType := congrArg DataType.bare h

/-- A name stands for the column that a collection finds under it. -/
theorem named?_eq_get? (collection : ColumnCollection) (name : String) :
    named? collection.columns name = collection.get? name :=
  (collection.get?_eq_find? name).symm

/-- A column of a collection is what its own name stands for. -/
theorem named?_of_mem {collection : ColumnCollection} {column : Column}
    (h : column ∈ collection.columns) : named? collection.columns column.name = some column := by
  rw [named?_eq_get?]
  exact ColumnCollection.get?_of_mem h

end Column

namespace Origin

/-- The data type of a value that is read from a table with the given columns. -/
def type? (columns : List Column) : Origin → Option String
  | column name => (Column.named? columns name).map Column.dataType
  | text value => (value.type? columns).map fun _ => "STRING"
  | unlessEmpty value => value.type? columns
  | time => some "TIMESTAMP"

/-- A cast fits if the source's column is a text, and the time if no route brings a column of another
type to the time column. Everything else fits. -/
def Fits (full : TableDefinition) (routes : List ColumnMapping) : Origin → Prop
  | text (column name) =>
    ∃ original, full.columns.get? name = some original ∧ original.dataType = "STRING"
  | time => ∀ route ∈ routes, lower route.destination = timestampColumn →
    ∃ original, full.columns.get? route.source = some original ∧ original.dataType = "TIMESTAMP"
  | _ => True

end Origin

/-- A table has the columns of its description or creation, or those of the table it is made from. -/
inductive Holds (full : TableDefinition) (statements : List Statement) :
    TableName → List Column → Prop where
  | described : Holds full statements full.name full.columns.columns
  | created {table : TableName} {columns : List Column} {keys : List String}
      (hmem : .createTable table columns keys ∈ statements) : Holds full statements table columns
  | copied {target source : TableName} {columns : List Column}
      (hmem : .copyTable target source ∈ statements) (hsource : Holds full statements source columns) :
      Holds full statements target columns
  | kept {copy : KeyedCopy} {columns : List Column}
      (hmem : .createKeyedCopy copy ∈ statements)
      (hsource : Holds full statements (copy.target.sibling copy.source) columns) :
      Holds full statements copy.target
        (columns.filter fun column => (NameIndex.ofNames copy.columns).contains column.name)

/-- More statements leave what a table holds. -/
theorem Holds.mono {full : TableDefinition} {statements more : List Statement} {table : TableName}
    {columns : List Column} (h : Holds full statements table columns)
    (hmore : statements ⊆ more) : Holds full more table columns := by
  induction h with
  | described => exact .described
  | created hmem => exact .created (hmore hmem)
  | copied hmem hsource ih => exact .copied (hmore hmem) ih
  | kept hmem hsource ih => exact .kept (hmore hmem) ih

namespace Statement

variable {full : TableDefinition} {routes taken : List ColumnMapping}
  {earlier more statements later : List Statement} {statement : Statement}

/-- A statement inserts into a table that an earlier one created. Each of its values has a type, which
is the declared one exactly if the value fits. -/
def Typed (full : TableDefinition) (routes : List ColumnMapping) (earlier : List Statement)
    (statement : Statement) : Prop :=
  ∃ target declared keys table read assignments,
    statement.target? = some target ∧ .createTable target declared keys ∈ earlier ∧
    statement.Reads table ∧ Holds full earlier table read ∧
    statement.assignments? = some assignments ∧
    ∀ assignment ∈ assignments, ∃ column type,
      Column.named? declared assignment.target = some column ∧
      assignment.value.type? read = some type ∧
      (column.dataType = type ↔ assignment.value.Fits full routes)

/-- More statements before leave it so. -/
theorem Typed.mono (h : statement.Typed full routes earlier) (hmore : earlier ⊆ more) :
    statement.Typed full routes more := by
  obtain ⟨target, declared, keys, table, read, assignments, htarget, hcreated, hreads, hholds,
    hassigns, htypes⟩ := h
  exact ⟨target, declared, keys, table, read, assignments, htarget, hmore hcreated, hreads,
    hholds.mono hmore, hassigns, htypes⟩

/-- All insertions among statements are typed, each behind those before it, latest first. -/
def AllTyped (full : TableDefinition) (routes : List ColumnMapping) (earlier : List Statement) :
    List Statement → Prop
  | [] => True
  | statement :: rest =>
    (statement.inserts?.isSome = true → statement.Typed full routes earlier) ∧
      AllTyped full routes (statement :: earlier) rest

/-- Any one of them is. -/
theorem AllTyped.typed (h : AllTyped full routes earlier (statements ++ statement :: later))
    (hinserts : statement.inserts?.isSome = true) :
    statement.Typed full routes (statements.reverse ++ earlier) := by
  -- What is passed on the way to the statement joins those before it, so these are generalized.
  induction statements generalizing earlier with
  | nil => exact h.1 hinserts
  | cons first rest ih =>
    rw [List.reverse_cons, List.append_assoc]
    exact ih h.2

/-- A mapped insertion is typed where the ends of its routes were declared with the types of the
source's columns. -/
theorem typed_mapped {target : TableName} {declared : List Column} {keys : List String}
    {select : MappedSelect} (cast : Bool)
    (hcreated : .createTable target declared keys ∈ earlier)
    (hcarries : select.Carries full.name taken)
    (hdeclared : ∀ route ∈ taken, ∃ column original,
      Column.named? declared route.destination = some column ∧
        full.columns.get? route.source = some original ∧
        column.writtenType = original.writtenType) :
    (insertMapped target select cast).Typed full routes earlier := by
  refine ⟨target, declared, keys, full.name, full.columns.columns, select.assignments cast, rfl,
    hcreated, hcarries.reads, .described, rfl, ?_⟩
  intro assignment hmem
  rw [MappedSelect.assignments, hcarries.mappings] at hmem
  obtain ⟨route, hroute, rfl⟩ := List.mem_map.mp hmem
  obtain ⟨column, original, hcolumn, horiginal, hsame⟩ := hdeclared route hroute
  have htype := Column.dataType_congr hsame
  have hread : (Origin.column route.source).type? full.columns.columns = some original.dataType := by
    rw [Origin.type?, Column.named?_eq_get?, horiginal]
    rfl
  cases cast with
  | false =>
    refine ⟨column, original.dataType, hcolumn, hread, ?_⟩
    simp [Origin.Fits, htype]
  | true =>
    refine ⟨column, "STRING", hcolumn, ?_, ?_⟩
    · change ((Origin.column route.source).type? _).map _ = _
      rw [hread]
      rfl
    · simp [Origin.Fits, htype, horiginal]

/-- The insertion of staged rows is typed where the table that it reads has the staged columns as the
destination was declared with them, and the time fits the time column. -/
theorem typed_insertion {staging destination : TableDefinition} {options : TransferOptions}
    {declared read : List Column} {keys : List String} {source : String}
    (hcreated : .createTable destination.name declared keys ∈ earlier)
    (hholds : Holds full earlier (destination.name.sibling source) read)
    (hstaged : ∀ name ∈ Writing.stagedColumns staging, ∃ column other,
      Column.named? declared name = some column ∧ Column.named? read name = some other ∧
        column.writtenType = other.writtenType)
    (htime : options.stamped = true → ∃ column,
      Column.named? declared timestampColumn = some column ∧
        (column.dataType = "TIMESTAMP" ↔ Origin.time.Fits full routes)) :
    (replaceContents (Writing.insertion staging destination options source)).Typed full routes
      earlier := by
  refine ⟨destination.name, declared, keys, _, read, _, rfl, hcreated, rfl, hholds, rfl, ?_⟩
  intro assignment hmem
  rcases List.mem_append.mp hmem with hcolumn | hstamp
  · obtain ⟨name, hname, rfl⟩ := List.mem_map.mp hcolumn
    obtain ⟨column, other, hcolumn, hother, hsame⟩ := hstaged name hname
    refine ⟨column, other.dataType, hcolumn, ?_, ?_⟩
    · change (StagedInsert.origin _ name).type? read = _
      unfold StagedInsert.origin
      split <;> simp [Origin.type?, hother]
    · have hfits : (StagedInsert.origin (Writing.insertion staging destination options source)
          name).Fits full routes := by
        unfold StagedInsert.origin
        split <;> trivial
      simp [hfits, Column.dataType_congr hsame]
  · cases hstamped : options.stamped with
    | false => simp [Writing.insertion, hstamped] at hstamp
    | true =>
      obtain ⟨column, hcolumn, hfits⟩ := htime hstamped
      obtain rfl : assignment = ⟨timestampColumn, .time⟩ := by
        simpa [Writing.insertion, hstamped] using hstamp
      exact ⟨column, "TIMESTAMP", hcolumn, rfl, hfits⟩

/-- All that writes staged rows is typed, be they kept for each key or not. -/
theorem allTyped_plan {staging destination : TableDefinition} {options : TransferOptions}
    {declared read : List Column} {keys : List String} {table : String}
    (hbeside : staging.name = destination.name.sibling table)
    (hcreated : .createTable destination.name declared keys ∈ earlier)
    (hholds : Holds full earlier staging.name read)
    (hstaged : ∀ name ∈ Writing.stagedColumns staging, ∃ column other,
      Column.named? declared name = some column ∧ Column.named? read name = some other ∧
        column.writtenType = other.writtenType)
    (htime : options.stamped = true → ∃ column,
      Column.named? declared timestampColumn = some column ∧
        (column.dataType = "TIMESTAMP" ↔ Origin.time.Fits full routes)) :
    AllTyped full routes earlier (Writing.plan staging destination options) := by
  unfold Writing.plan
  split
  · refine ⟨fun _ => ?_, trivial⟩
    rw [← Writing.sibling_staging hbeside] at hholds
    exact typed_insertion hcreated hholds hstaged htime
  · refine ⟨fun hcopy => (by cases hcopy), fun _ => ?_, trivial⟩
    have hcopied : Holds full (.createKeyedCopy (Writing.keyedCopy staging destination) :: earlier)
        (destination.name.sibling (Writing.keyedCopy staging destination).target.table)
        (read.filter fun column =>
          (NameIndex.ofNames (Writing.stagedColumns staging)).contains column.name) := by
      rw [Writing.sibling_kept hbeside]
      exact .kept List.mem_cons_self (hholds.mono (List.subset_cons_self _ _))
    apply typed_insertion (List.mem_cons_of_mem _ hcreated) hcopied _ htime
    intro name hname
    obtain ⟨column, other, hcolumn, hother, hsame⟩ := hstaged name hname
    refine ⟨column, other, hcolumn, ?_, hsame⟩
    -- A column that the name stands for is one that is kept.
    rw [Column.named?, List.find?_filter, ← hother, Column.named?]
    congr 1
    funext candidate
    by_cases hlower : lower candidate.name = lower name
    · have hkept : (NameIndex.ofNames (Writing.stagedColumns staging)).contains candidate.name := by
        rw [NameIndex.contains_ofNames, hlower, List.contains_iff_mem]
        exact List.mem_map_of_mem hname
      simp [hkept, hlower]
    · simp [hlower]

end Statement

end WarehouseImport
