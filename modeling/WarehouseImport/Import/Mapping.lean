import WarehouseImport.Sql.MappedSelect
import WarehouseImport.Table.Definition

/-!
# Expected columns

The columns that a destination is expected to have. Without mappings they are the columns of the
source; otherwise there is one for each mapping, in the order of the mappings, with the definition
of the mapped source column and the name at the destination.
-/

namespace WarehouseImport

namespace ColumnMapping

/-- The mapping that keeps the name of a column. -/
def same (name : String) : ColumnMapping := ⟨name, name⟩

/-- The column that a mapping makes of the source's column, if the source has it. -/
def column? (source : TableDefinition) (mapping : ColumnMapping) : Option Column :=
  (source.columns.get? mapping.source).map fun column => column.renamed mapping.destination

/-- The columns that mappings expect of a destination; the source must have every mapped column,
and no two may end under one name. -/
def expected (source : TableDefinition) (mappings : List ColumnMapping) :
    Except Failure ColumnCollection :=
  if mappings.isEmpty then ColumnCollection.ofList source.columns.columns
  else
    let missing := source.columns.index.missing (mappings.map (·.source))
    if missing.isEmpty then ColumnCollection.ofList (mappings.filterMap (column? source))
    else .error (.missingColumns "source" source.name.label missing)

/-- The mappings of names to names by position; there must be as many on either side. -/
def positional (sources destinations : List String) : Except Failure (List ColumnMapping) :=
  if sources.length = destinations.length then
    .ok ((sources.zip destinations).map fun pair => ⟨pair.1, pair.2⟩)
  else .error (.columnCounts sources.length destinations.length)

end ColumnMapping

end WarehouseImport
