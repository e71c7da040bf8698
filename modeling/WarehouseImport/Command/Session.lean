import WarehouseImport.Command.Options

/-!
# What a command travels with

The account and key an import works under, the labels of its run, and the response it gives.
-/

namespace WarehouseImport

open Payload

/-- A service account without its key, the key, and the location of jobs. -/
structure Credentials where
  principal : String
  secret : String
  region : Option String
  deriving DecidableEq, Repr

namespace Credentials

/-- The credentials of a payload. -/
def ofDocument : Json → Checked Credentials := model fun document =>
  Credentials.mk
    <$> required document "principal" text
    <*> required document "secret" text
    <*> optional document "region" none (nullable text)

/-- The payload of credentials, with stars for a key that is not empty. -/
def document (credentials : Credentials) : Json := object {
  members := [
    ("principal", .str credentials.principal),
    ("secret", .str (if credentials.secret.isEmpty then "" else "**********")),
    ("region", Json.ofText? credentials.region)] }

end Credentials

/-- The labels of a run: its number and tags for its queries. -/
structure RuntimeOptions where
  runId : Option String := none
  queryTags : List (String × String) := []
  deriving DecidableEq, Repr

namespace RuntimeOptions

/-- The labels of a payload. -/
def ofDocument : Json → Checked RuntimeOptions := model fun document =>
  RuntimeOptions.mk
    <$> optional document "run_id" none (nullable text)
    <*> optional document "query_tags" [] (table text)

/-- The payload of labels. -/
def document (options : RuntimeOptions) : Json := object {
  members := [
    ("run_id", Json.ofText? options.runId),
    ("query_tags", .obj (options.queryTags.map fun tag => (tag.1, .str tag.2)))] }

end RuntimeOptions

/-- How long a step of an import took, in seconds. -/
structure StepTime where
  name : String
  duration : Float
  deriving DecidableEq, Repr

namespace StepTime

/-- The step of a payload. -/
def ofDocument : Json → Checked StepTime := model fun document =>
  StepTime.mk
    <$> required document "name" text
    <*> required document "duration" number

/-- The payload of a step. -/
def document (step : StepTime) : Json := object {
  members := [
    ("name", .str step.name),
    ("duration", .real step.duration)] }

end StepTime

/-- What an import reports: rows and bytes of the destination afterwards, the columns and rows it
wrote, and the times of its steps. -/
structure ImportResponse where
  tableRows : Int := 0
  tableBytes : Int := 0
  importedColumns : List String := []
  importedRows : Int := 0
  timers : List StepTime := []
  deriving DecidableEq, Repr

namespace ImportResponse

/-- The response of a payload. -/
def ofDocument : Json → Checked ImportResponse := model fun document =>
  ImportResponse.mk
    <$> optional document "table_rows_count" 0 whole
    <*> optional document "table_size_bytes" 0 whole
    <*> optional document "imported_columns" [] (list text)
    <*> optional document "imported_rows_count" 0 whole
    <*> optional document "timers" [] (list StepTime.ofDocument)

/-- The payload of a response. -/
def document (response : ImportResponse) : Json := object {
  members := [
    ("table_rows_count", .int response.tableRows),
    ("table_size_bytes", .int response.tableBytes),
    ("imported_columns", Json.ofTexts response.importedColumns),
    ("imported_rows_count", .int response.importedRows),
    ("timers", .arr (response.timers.map StepTime.document))] }

end ImportResponse

end WarehouseImport
