import WarehouseImport.Command.Session
import WarehouseImport.Warehouse.Basic

/-!
# Responses

The response of an import joins its result with the numbers of rows and bytes that the destination
has afterwards.
-/

namespace WarehouseImport

/-- The number of rows of a result, which must be whole, for the response. -/
def ImportResult.responseRows (result : ImportResult) : Except Failure Int :=
  ((Payload.whole result.rows).under "imported_rows_count").result

/-- The response that a result and the numbers of rows and bytes of the destination give. -/
def ImportResult.response (result : ImportResult) (rows bytes : Int) :
    Except Failure ImportResponse :=
  result.responseRows.map fun imported => {
    tableRows := rows
    tableBytes := bytes
    importedColumns := result.columns
    importedRows := imported
    timers := result.timers.map fun timer => ⟨timer.name, timer.seconds⟩ }

/-- The response of an import into a destination. -/
def ImportResponse.build (destination : TableName) (result : ImportResult) :
    Action ImportResponse := do
  let (rows, bytes) ← Warehouse.stats destination
  Action.ofExcept (result.response rows bytes)

end WarehouseImport
