import WarehouseImport.Command.File
import WarehouseImport.Import.Source

/-!
# Filling tables

Rows of a source are inserted into a table that exists, by position; a staging table can also be
made as a copy of the source table, or loaded from files. Files in slices are listed in a manifest.
-/

namespace WarehouseImport

open WarehouseImport.Text

/-- Whether columns agree in names, types and order, apart from the ignored ones. -/
def sameColumns (left right : List Column) (ignored : List String) : Bool :=
  let kept (columns : List Column) :=
    columns.filter fun column => !(NameIndex.ofNames ignored).contains column.name
  (kept left).length == (kept right).length &&
    ((kept left).zip (kept right)).all fun pair =>
      lower pair.1.name == lower pair.2.name && pair.1.writtenType == pair.2.writtenType

namespace Manifest

/-- The address of an entry of a manifest. -/
def address (entry : Json) : Except Failure Json :=
  match entry with
  | .obj members =>
    match members.lookup "url" with
    | some address => .ok address
    | none => .error .noSuchMember
  | _ => .error .wrongKind

/-- The addresses in a manifest, which must list some. -/
def addresses (uri : String) (manifest : Json) : Except Failure (List Json) :=
  let entries := (manifest.get? "entries").getD .null
  if entries.isGiven then
    match entries with
    | .arr entries => entries.mapM address
    | _ => .error .wrongKind
  else .error (.emptyManifest uri)

/-- The addresses in the text of a manifest. -/
def read (uri text : String) : Except Failure (List Json) :=
  match Json.read? text with
  | some manifest => addresses uri manifest
  | none => .error .unreadableDocument

/-- Opens a manifest and reads its addresses. -/
def load (uri : String) (token : Option Json) : Action (List Json) := do
  match ← Action.ask (.openFile uri token) with
  | some text => Action.ofExcept (read uri text)
  | none => throw (.fileNotFound uri)

end Manifest

namespace Filling

/-- The timer of rows on their way into a table. -/
def insertTimer : String := "toStaging"

/-- The timer of a copy. -/
def copyTimer : String := "copyToStaging"

/-- Inserts the rows of a source into a table, by position. Texts are cast if the options say so. -/
def insert (warehouse : Warehouse) (source : Source) (target : TableLabel)
    (columns : List String) (options : TransferOptions) : Action Unit := do
  let select ← Action.ofExcept (source.mappedTo columns)
  let statement ← Action.ofExcept (do
    Statement.mappedInsert (← target.check) select (options.typing == .text))
  let rows ← Action.timed insertTimer
    (warehouse.execute statement (Parameters.ofBindings select.bindings))
  Action.addRows (.int rows)
  Action.setColumns select.columnNames

/-- Inserts the rows of a source into a staging table that exists. -/
def stage (warehouse : Warehouse) (source : Source) (staging : TableDefinition)
    (options : TransferOptions) : Action Unit :=
  insert warehouse source staging.name.label staging.columnNames options

/-- Makes the staging table as a copy of the source, which must be a table. -/
def copy (warehouse : Warehouse) (source : Source) (staging : TableDefinition) : Action Unit :=
  match source with
  | .table name _ _ => do
    let _ ← Action.timed copyTimer (warehouse.run (.copyTable staging.name name))
    Action.addRows (← warehouse.rowCount staging.name)
    Action.setColumns (staging.columnNames.filter (· != timestampColumn))
  | _ => throw .missingArgument

/-- The addresses of the files that a path names. -/
def addresses (path : FilePath) (csv : CsvOptions) (token : Option Json) : Action (List Json) :=
  if csv.sourceType = .slicedFile then Manifest.load path.uri token
  else return [.str path.uri]

/-- The text that marks null in files, if there is exactly one. -/
def nullMarker (options : TransferOptions) : Option String :=
  match options.nullMarkers with
  | [marker] => some marker
  | _ => none

/-- Loads files into a staging table that exists. -/
def load (warehouse : Warehouse) (path : FilePath) (csv : CsvOptions) (staging : TableDefinition)
    (options : TransferOptions) (token : Option Json) : Action Unit := do
  let found ← addresses path csv token
  let rows ← Action.timed insertTimer do
    let uris ← Action.ofExcept (Failure.allTexts found)
    warehouse.load {
      table := staging.name
      uris := uris
      delimiter := csv.delimiter
      quoteMark := csv.enclosure
      skippedLines := options.ignoredLines
      nullMarker := nullMarker options }
  Action.addRows (.int rows)
  Action.setColumns staging.columnNames

end Filling

end WarehouseImport
