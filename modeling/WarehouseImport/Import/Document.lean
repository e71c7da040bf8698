import WarehouseImport.Import.Source
import WarehouseImport.Sql.Document
import WarehouseImport.Table.Document

/-!
# Sources and results as documents

A source is described by an object: with a query it is a query, with mappings a mapped selection,
and otherwise a table.
-/

namespace WarehouseImport

namespace ColumnMapping

/-- The mapping that a pair of names describes. -/
def ofPair (pair : Json) : ColumnMapping := ⟨pair[0].text, pair[1].text⟩

/-- The mappings that a list of pairs describes. -/
def ofPairs (pairs : Json) : List ColumnMapping := pairs.items.map ofPair

/-- Mappings as a list of pairs. -/
def pairs (mappings : List ColumnMapping) : Json :=
  .arr (mappings.map fun mapping => Json.ofTexts [mapping.source, mapping.destination])

end ColumnMapping

namespace Source

/-- The bindings of a query, which must be named. -/
def namedBindings : Json → Except Failure (List Binding)
  | .arr triples => Binding.ofTriples (.arr triples)
  | .obj members => (Parameters.ofDocument (.obj members)).bindings
  | _ => .error .unnamedQueryBindings

/-- The source that a document describes. -/
def ofDocument (document : Json) : Except Failure Source := do
  let columns := document["columns"].texts
  let keys := document["primary_keys"].texts
  if document.has "query" then
    let query := document["query"].text
    if query.isEmpty then throw .missingArgument
    return .query (SqlText.plain query) (← namedBindings document["bindings"]) columns keys
  else if document.has "mapped" then
    let base ← SelectBase.make none (some (document["schema"].asText?.getD "s"))
      (some (document["table"].asText?.getD "t"))
    return .mapped ⟨ColumnMapping.ofPairs document["mapped"], base, [], keys⟩
  else
    return .table (← TableName.ofParts document["schema"] document["table"]) columns keys

/-- The document of a source. -/
def document (source : Source) : Json := .obj [
  ("kind", .str source.kind),
  ("from", .str source.clause.render),
  ("select", .str source.select.render),
  ("columns", Json.ofTexts source.columns),
  ("primary_keys", Json.ofTexts source.keys),
  ("bindings", Binding.triples source.bindings)]

end Source

/-- The request that a document describes. -/
def SourceRequest.ofDocument (document : Json) : SourceRequest where
  label := .ofParts document["schema"] document["table"]
  mappings := ColumnMapping.ofPairs document["mappings"]
  filters := FilterSpec.listOfDocument document["filters"]
  limit := document["limit"].integer
  seconds := document["seconds"].integer

/-- The members of the document of a result. -/
def ImportResult.members (result : ImportResult) : List (String × Json) := [
  ("rows", result.rows),
  ("columns", Json.ofTexts result.columns),
  ("warnings", Json.ofTexts result.warnings),
  ("timers", result.timerDocuments)]

/-- The document of an import under way. -/
def Progress.document (progress : Progress) : Json :=
  .obj (("staging", .str progress.staging) :: progress.result.members)

end WarehouseImport
