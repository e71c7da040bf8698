import WarehouseImport.Command.Table

/-!
# Commands that import files

A command names files in a bucket, how their rows are written, a destination, and the import
options.
-/

namespace WarehouseImport

open Payload

/-- Where files are kept. -/
inductive FileProvider where
  | gcs
  deriving DecidableEq, Repr

instance : Named FileProvider where
  all := [.gcs]
  name
    | .gcs => "GCS"

/-- How rows are written in a file. -/
inductive FileFormat where
  | csv
  deriving DecidableEq, Repr

instance : Named FileFormat where
  all := [.csv]
  name
    | .csv => "CSV"

/-- Whether a path names one file, a manifest of slices, or a directory. -/
inductive CsvSourceType where
  | singleFile
  | slicedFile
  | directory
  deriving DecidableEq, Repr

instance : Named CsvSourceType where
  all := [.singleFile, .slicedFile, .directory]
  name
    | .singleFile => "SINGLE_FILE"
    | .slicedFile => "SLICED_FILE"
    | .directory => "DIRECTORY"

/-- A file of a bucket. -/
structure FilePath where
  root : String
  path : String
  file : String
  deriving DecidableEq, Repr

namespace FilePath

/-- The path of a payload. -/
def ofDocument : Json → Checked FilePath := model fun document =>
  FilePath.mk
    <$> required document "root" text
    <*> optional document "path" "" text
    <*> required document "file_name" text

/-- The payload of a path. -/
def document (path : FilePath) : Json := object {
  members := [
    ("root", .str path.root),
    ("path", .str path.path),
    ("file_name", .str path.file)] }

/-- A text without slashes at its ends. -/
def withoutSlashes (text : String) : String :=
  String.ofList (Text.trimWhere (· == '/') text.toList)

/-- The address of the file: the parts that are not empty, joined by slashes. -/
def uri (path : FilePath) : String :=
  "gs://" ++ String.intercalate "/"
    ([withoutSlashes path.root, withoutSlashes path.path, path.file].filter (!·.isEmpty))

end FilePath

/-- The columns of the files and how their values are told apart. -/
structure CsvOptions where
  columns : List String
  delimiter : String := ","
  enclosure : String := "\""
  escapedBy : String := ""
  sourceType : CsvSourceType := .singleFile
  deriving DecidableEq, Repr

namespace CsvOptions

/-- The options of a payload. -/
def ofDocument : Json → Checked CsvOptions := model fun document =>
  CsvOptions.mk
    <$> required document "columns_names" (list text)
    <*> optional document "delimiter" "," text
    <*> optional document "enclosure" "\"" text
    <*> optional document "escaped_by" "" text
    <*> optional document "source_type" .singleFile named

/-- The payload of options. -/
def document (options : CsvOptions) : Json := object {
  members := [
    ("columns_names", Json.ofTexts options.columns),
    ("delimiter", .str options.delimiter),
    ("enclosure", .str options.enclosure),
    ("escaped_by", .str options.escapedBy),
    ("source_type", .str (Named.name options.sourceType))] }

end CsvOptions

/-- A command that imports files into a table. -/
structure FileCommand where
  provider : FileProvider := .gcs
  format : FileFormat := .csv
  csv : CsvOptions
  path : FilePath
  destination : DestinationTable
  options : ImportOptions := {}
  deriving DecidableEq, Repr

namespace FileCommand

/-- The command of a payload. -/
def ofDocument : Json → Checked FileCommand := model fun document =>
  FileCommand.mk
    <$> optional document "file_provider" .gcs named
    <*> optional document "file_format" .csv named
    <*> required document "format_type_options" CsvOptions.ofDocument
    <*> required document "file_path" FilePath.ofDocument
    <*> required document "destination" DestinationTable.ofDocument
    <*> optional document "import_options" {} ImportOptions.ofDocument

/-- The payload of a command. -/
def document (command : FileCommand) : Json := object {
  members := [
    ("file_provider", .str (Named.name command.provider)),
    ("file_format", .str (Named.name command.format)),
    ("format_type_options", command.csv.document),
    ("file_path", command.path.document),
    ("destination", command.destination.document),
    ("import_options", command.options.document)] }

end FileCommand

end WarehouseImport
