import WarehouseImport.Command.Options
import WarehouseImport.Sql.MappedSelect

/-!
# Commands that import a table

A command names a source table with its mapped columns, filters and limits, a destination, and
the import options.
-/

namespace WarehouseImport

open Payload

namespace ColumnMapping

/-- The mapping of a payload. -/
def ofDocument : Json → Checked ColumnMapping := model fun document =>
  ColumnMapping.mk
    <$> required document "source_column_name" text
    <*> required document "destination_column_name" text

/-- The payload of a mapping. -/
def document (mapping : ColumnMapping) : Json := object {
  members := [
    ("source_column_name", .str mapping.source),
    ("destination_column_name", .str mapping.destination)] }

end ColumnMapping

/-- A filter of a command, its values as texts. -/
structure CommandFilter where
  column : String
  operator : FilterOperator
  values : List String
  type : FilterType
  deriving DecidableEq, Repr

namespace CommandFilter

/-- The filter of a payload. -/
def ofDocument : Json → Checked CommandFilter := model fun document =>
  CommandFilter.mk
    <$> required document "column_name" text
    <*> optional document "operator" .eq named
    <*> required document "values" (list text)
    <*> optional document "data_type" .string named

/-- The payload of a filter. -/
def document (filter : CommandFilter) : Json := object {
  members := [
    ("column_name", .str filter.column),
    ("operator", .str (Named.name filter.operator)),
    ("values", Json.ofTexts filter.values),
    ("data_type", .str (Named.name filter.type))] }

/-- The filter as a description that restricts a selection. -/
def spec (filter : CommandFilter) : FilterSpec where
  column := some filter.column
  operator := .str (Named.name filter.operator)
  values := filter.values.map Json.str
  type := .str (Named.name filter.type)

end CommandFilter

/-- The source of a command. A positive limit bounds the rows, a positive number of seconds keeps
the rows imported within them. -/
structure SourceTable where
  dataset : String
  table : String
  mappings : List ColumnMapping := []
  filters : List CommandFilter := []
  limit : Int := 0
  seconds : Int := 0
  deriving DecidableEq, Repr

namespace SourceTable

/-- The source of a payload; limit and seconds are not negative. -/
def ofDocument : Json → Checked SourceTable := model fun document =>
  SourceTable.mk
    <$> required document "schema_name" text
    <*> required document "table_name" text
    <*> optional document "column_mappings" [] (list ColumnMapping.ofDocument)
    <*> optional document "where_filters" [] (list CommandFilter.ofDocument)
    <*> optional document "limit" 0 count
    <*> optional document "seconds" 0 count

/-- The payload of a source. -/
def document (source : SourceTable) : Json := object {
  members := [
    ("schema_name", .str source.dataset),
    ("table_name", .str source.table),
    ("column_mappings", .arr (source.mappings.map ColumnMapping.document)),
    ("where_filters", .arr (source.filters.map CommandFilter.document)),
    ("limit", .int source.limit),
    ("seconds", .int source.seconds)] }

/-- The two parts of the source's name. -/
def label (source : SourceTable) : TableLabel := ⟨source.dataset, source.table⟩

end SourceTable

/-- The destination of a command. -/
structure DestinationTable where
  dataset : String
  table : String
  deriving DecidableEq, Repr

namespace DestinationTable

/-- The destination of a payload. -/
def ofDocument : Json → Checked DestinationTable := model fun document =>
  DestinationTable.mk
    <$> required document "schema_name" text
    <*> required document "table_name" text

/-- The payload of a destination. -/
def document (destination : DestinationTable) : Json := object {
  members := [
    ("schema_name", .str destination.dataset),
    ("table_name", .str destination.table)] }

/-- The two parts of the destination's name. -/
def label (destination : DestinationTable) : TableLabel :=
  ⟨destination.dataset, destination.table⟩

end DestinationTable

/-- A command that imports a table into another. -/
structure TableCommand where
  source : SourceTable
  destination : DestinationTable
  options : ImportOptions := {}
  deriving DecidableEq, Repr

namespace TableCommand

/-- The command of a payload. -/
def ofDocument : Json → Checked TableCommand := model fun document =>
  TableCommand.mk
    <$> required document "source" SourceTable.ofDocument
    <*> required document "destination" DestinationTable.ofDocument
    <*> optional document "import_options" {} ImportOptions.ofDocument

/-- The payload of a command. -/
def document (command : TableCommand) : Json := object {
  members := [
    ("source", command.source.document),
    ("destination", command.destination.document),
    ("import_options", command.options.document)] }

end TableCommand

end WarehouseImport
