import WarehouseImport.Command.Table
import WarehouseImport.Import.Mapping
import WarehouseImport.Sql.Filter
import WarehouseImport.Sql.Statement
import WarehouseImport.Warehouse.Basic

/-!
# Sources

The source of an import is read directly when every column is taken in the order of the table and
nothing restricts the rows; otherwise it is read through a generated query. Columns of filters must
exist but are not selected.
-/

namespace WarehouseImport

open WarehouseImport.Text

/-- What an import reads. A mapped selection can be written, but not staged. -/
inductive Source where
  | table (name : TableName) (columns keys : List String)
  | query (sql : SqlText) (bindings : List Binding) (columns keys : List String)
  | mapped (select : MappedSelect)

namespace Source

/-- The names of the columns that the source gives, in order. -/
def columns : Source → List String
  | table _ columns _ => columns
  | query _ _ columns _ => columns
  | mapped select => select.columnNames

/-- The primary keys of the source. -/
def keys : Source → List String
  | table _ _ keys => keys
  | query _ _ _ keys => keys
  | mapped select => select.primaryKeys

/-- The bindings of the source. -/
def bindings : Source → List Binding
  | table .. => []
  | query _ bindings _ _ => bindings
  | mapped select => select.bindings

/-- Whether the source is read without a generated query. -/
def isDirect : Source → Bool
  | table .. => true
  | _ => false

/-- The name of the way in which the source is read. -/
def kind (source : Source) : String :=
  if source.isDirect then "DIRECT_TABLE" else "GENERATED_QUERY"

/-- The source in the place of a table. -/
def clause : Source → SqlText
  | table name _ _ => name.sql
  | query sql _ _ _ => [.text "("] ++ sql ++ [.text ")"]
  | mapped select => select.clause

/-- The text that selects the source's columns. -/
def select : Source → SqlText
  | table name columns _ =>
    [.text "SELECT "] ++ SqlText.nameList columns ++ [.text " FROM "] ++ name.sql
  | query sql _ _ _ => sql
  | mapped select => select.sql false

/-- The one-line summary of the source. -/
def shown (source : Source) : String :=
  let common := [
    ("bindings", Binding.shownAll source.bindings),
    ("column_names", quotedList source.columns),
    ("kind", source.kind),
    ("primary_keys", quotedList source.keys)]
  match source with
  | table name _ _ =>
    summary (common ++ [("schema_name", name.dataset), ("table_name", name.table)])
  | query sql _ _ _ => summary (common ++ [("query", sql.render)])
  | mapped select => summary (common ++ [("query", (select.sql false).render)])

/-- How messages name the kind of a mapped selection. -/
def mappedKind : String := "<class 'bqdriver.table_import.mapped_sql_source.MappedSqlSource'>"

/-- The source with its columns mapped by position to the given names. -/
def mappedTo (source : Source) (destinations : List String) : Except Failure MappedSelect := do
  let mappings ← ColumnMapping.positional source.columns destinations
  match source with
  | table name _ keys => return ⟨mappings, .table name, [], keys⟩
  | query sql bindings _ keys => return ⟨mappings, .query sql, bindings, keys⟩
  | mapped _ => throw (.unsupportedSource mappedKind)

end Source

namespace TableDefinition

/-- The definition restricted to the named columns in their order, each once; without names it stays
as it is. Every name must be a column. -/
def restrict (definition : TableDefinition) (names : List String) :
    Except Failure TableDefinition :=
  if names.isEmpty then .ok definition
  else
    let missing := definition.columns.index.missing names
    if missing.isEmpty then
      let columns := (NameIndex.ofList
        ((names.filterMap definition.columns.get?).map fun column => (column.name, column))).items
      let taken := columns.map fun column => lower column.name
      definition.withColumns columns
        (some (definition.primaryKeys.filter fun key => taken.contains (lower key)))
    else .error (.columnsNotFound definition.name.label missing)

end TableDefinition

/-- What a command wants to read: mapped columns of a table, under filters, up to a limit and from
the last seconds. -/
structure SourceRequest where
  label : TableLabel
  mappings : List ColumnMapping
  filters : List FilterSpec
  limit : Int
  seconds : Int

/-- The request of a command's source. -/
def SourceTable.request (source : SourceTable) : SourceRequest where
  label := source.label
  mappings := source.mappings
  filters := source.filters.map CommandFilter.spec
  limit := source.limit
  seconds := source.seconds

/-- A source with the names of the selected columns and the definitions of the whole source table
and of the part that is read. -/
structure SourceContext where
  source : Source
  effective : TableDefinition
  full : TableDefinition
  selected : List String

namespace SourceContext

/-- The names of the selected columns: the mapped ones, or all. -/
def selectedOf (request : SourceRequest) (full : TableDefinition) : List String :=
  if request.mappings.isEmpty then full.columnNames else request.mappings.map (·.source)

/-- Whether rows or columns are left out, so that a query has to be generated. -/
def needsQuery (request : SourceRequest) (full : TableDefinition) (selected : List String) : Bool :=
  !full.columns.isFullSet selected || decide (0 < request.seconds) || decide (0 < request.limit) ||
    !request.filters.isEmpty

/-- The name of a filter's column, which must be there. -/
def filterColumn (filter : FilterSpec) : Except Failure String :=
  match filter.column with
  | some column => .ok column
  | none => .error .noSuchPart

/-- The generated query of a request. The columns of the filters must exist too. -/
def generate (request : SourceRequest) (full effective : TableDefinition)
    (selected : List String) : Except Failure Source := do
  let filtered ← request.filters.mapM filterColumn
  let _ ← full.restrict (NameIndex.ofNames (selected ++ filtered)).items
  let (sql, bindings) ←
    FilterQuery.select full.name selected request.filters request.seconds request.limit
  return .query sql bindings selected effective.primaryKeys

/-- The source of a request on a table. -/
def ofDefinition (request : SourceRequest) (full : TableDefinition) :
    Except Failure SourceContext := do
  let selected := selectedOf request full
  let effective ← full.restrict selected
  let source ←
    if needsQuery request full selected then generate request full effective selected
    else .ok (.table effective.name selected effective.primaryKeys)
  return ⟨source, effective, full, selected⟩

/-- The source of a request on a table that may be missing. -/
def ofReflected (request : SourceRequest) (found : Option TableDefinition) :
    Except Failure SourceContext :=
  match found with
  | some full => ofDefinition request full
  | none => .error (.tableNotFound request.label)

/-- The one-line summary of a source with its definitions. -/
def shown (context : SourceContext) : String :=
  summary [
    ("effective_definition", context.effective.shown),
    ("full_definition", context.full.shown),
    ("kind", context.source.kind),
    ("selected_columns", quotedList context.selected),
    ("source", context.source.shown)]

end SourceContext

/-- The definition of a table whose parts must both be given; none if there is no such table. -/
def Warehouse.lookUp (label : TableLabel) : Action (Option TableDefinition) := do
  Warehouse.definition (← Action.ofExcept label.check)

/-- Finds the source of a request. -/
def SourceContext.resolve (request : SourceRequest) : Action SourceContext := do
  let found ← Warehouse.lookUp request.label
  Action.ofExcept (SourceContext.ofReflected request found)

end WarehouseImport
