import WarehouseImport.Failure.Backend
import WarehouseImport.Failure.Overflow
import WarehouseImport.Json.Display
import WarehouseImport.Text.Summary

/-!
# Failures

Everything that can end an operation, by cause. The wording of each cause is `Failure.message`;
the failures that are reported to the caller of an import belong to a `Family`, which fixes the
number they carry.
-/

namespace WarehouseImport

/-- What is wrong with one field of a payload. -/
inductive IssueKind where
  | missing
  | notText
  | notWhole
  | wholeText
  | wholePart
  | notNumber
  | numberText
  | notList
  | notObject
  | notMember
  | refused
  | notModel
  deriving DecidableEq, Repr

/-- One field of a payload that is wrong: the way to it from the outermost value, and why. -/
structure Issue where
  location : List String
  kind : IssueKind
  deriving DecidableEq, Repr

/-- One pair of columns that do not fit: the column's name, and both definitions. -/
structure Mismatch where
  column : String
  expected : String
  actual : String
  deriving DecidableEq, Repr

/-- A table named by its two parts as they were given. -/
structure TableLabel where
  schema : String
  table : String
  deriving DecidableEq, Repr

/-- The two parts joined by a point. -/
def TableLabel.joined (label : TableLabel) : String := label.schema ++ "." ++ label.table

/-- The two parts, each in quotes, joined by a point. -/
def TableLabel.inQuotes (label : TableLabel) : String :=
  "\"" ++ label.schema ++ "\".\"" ++ label.table ++ "\""

/-- Discrepancies between the columns an import expects and those of its destination. -/
structure MismatchReport where
  source : TableLabel
  destination : TableLabel
  missingInSource : List String
  missingInDestination : List String
  mismatches : List Mismatch
  deriving DecidableEq, Repr

/-- The sentence about columns that a table lacks. -/
def missingColumnsText (description : String) (label : TableLabel) (names : List String)
    (inQuotes : Bool) : String :=
  let listed := String.intercalate "," names
  if inQuotes then
    "Some columns are missing in " ++ description ++ " table " ++ label.inQuotes ++
      ". Missing columns: \"" ++ listed ++ "\""
  else
    "Some columns are missing in " ++ description ++ " table " ++ label.joined ++
      ". Missing columns: " ++ listed

/-- The sentence about mapped or filtered columns that a source table lacks. -/
def columnsNotFoundText (label : TableLabel) (names : List String) : String :=
  String.intercalate "; " (names.map fun name =>
    "Column \"" ++ name ++ "\" not found in source table " ++ label.joined ++ ".")

/-- The sentence about pairs of columns that do not fit. -/
def definitionsMismatchText (mismatches : List Mismatch) : String :=
  "Column definitions mismatch. Details: " ++ String.intercalate "; " (mismatches.map fun m =>
    "'" ++ m.column ++ "' mapping '" ++ m.expected ++ "' / '" ++ m.actual ++ "'")

/-- The sentence about a filter value that its type cannot hold. -/
def invalidFilterValueText (value column type : String) : String :=
  "Invalid filter value \"" ++ value ++ "\" for column \"" ++ column ++ "\" of type \"" ++ type ++
    "\"."

namespace MismatchReport

/-- Whether nothing was found. -/
def isEmpty (report : MismatchReport) : Bool :=
  report.missingInSource.isEmpty && report.missingInDestination.isEmpty &&
    report.mismatches.isEmpty

/-- One sentence for each kind of discrepancy found. -/
def messages (report : MismatchReport) : List String :=
  (if report.missingInSource.isEmpty then []
    else [missingColumnsText "source" report.source report.missingInSource true]) ++
  (if report.missingInDestination.isEmpty then []
    else [missingColumnsText "workspace" report.destination report.missingInDestination true]) ++
  (if report.mismatches.isEmpty then [] else [definitionsMismatchText report.mismatches])

end MismatchReport

/-- The families of failures that are reported to the caller of an import. -/
inductive Family where
  | unknown
  | columnsMismatch
  | alreadyExists
  | notFound
  | invalidImport
  | notImplemented
  | queryBuilder
  | maximumLength
  | badFilter
  deriving DecidableEq, Repr

/-- The number that a family carries. -/
def Family.code : Family → Int
  | .unknown => 2000
  | .notImplemented => 2002
  | .notFound => 2004
  | .alreadyExists => 2006
  | _ => 2001

/-- Whether trying again may help; no reported failure promises that. -/
def Family.retryable (_ : Family) : Bool := false

/-- Errors of a caller's own code. -/
inductive OutsideKind where
  | value
  | runtime
  | system
  deriving DecidableEq, Repr

/-- Why an operation ended without its result. -/
inductive Failure where
  /-- An argument that must be given is missing or empty. -/
  | missingArgument
  /-- A name or a type of a column is no text. -/
  | notText (kind : String)
  /-- A text that stands for a flag is none of the accepted ones. -/
  | invalidFlag (text : String)
  /-- Columns whose names repeat an earlier one. -/
  | duplicateColumns (names : List String)
  /-- Primary keys that are no columns of their table. -/
  | unknownKeys (table : String) (names : List String)
  /-- A table to be created has no columns. -/
  | noColumns (table : String)
  /-- A filter has no values. -/
  | noFilterValues (column : String)
  /-- No filter operator has this name. -/
  | unknownOperator (given : Json)
  /-- No filter data type has this name. -/
  | unknownDataType (given : Json)
  /-- A column cannot be cast for a data type. -/
  | uncastableType (name : String)
  /-- An ordering operator was given several values. -/
  | severalValues
  /-- A filter value does not fit its data type. -/
  | invalidFilterValue (value column type : String)
  /-- The service found filter values of another type. -/
  | filterTypes (expected actual : String)
  /-- The service refused the filters. -/
  | refusedFilter (message : Json)
  /-- An error text about filter types has another form than expected. -/
  | unexpectedErrorText (text : String)
  /-- Columns that a table lacks. -/
  | missingColumns (description : String) (table : TableLabel) (names : List String)
  /-- Mapped or filtered columns that the source lacks. -/
  | columnsNotFound (table : TableLabel) (names : List String)
  /-- The destination does not fit the expected columns. -/
  | irreconcilable (report : MismatchReport)
  /-- The destination exists although it must not. -/
  | tableExists (table : TableLabel)
  /-- The service found that the object exists. -/
  | objectExists
  /-- A table does not exist. -/
  | tableNotFound (table : TableLabel)
  /-- Staged data does not fit. -/
  | invalidImport (text : String)
  /-- Incremental imports from a table. -/
  | incrementalFromTable
  /-- Incremental imports that would update rows in place. -/
  | incrementalUpdate (keys : List String)
  /-- A value too long for its column. -/
  | tooLong (message : String) (overflow : Option Overflow)
  /-- A failure of a family, with the given text and number. -/
  | reported (family : Family) (message : String) (code : Option Int)
  /-- Text that reads as a whole number but has too many digits. -/
  | tooManyDigits (count : Nat)
  /-- The query of a source has bindings without names. -/
  | unnamedQueryBindings
  /-- A mapped source has bindings without names. -/
  | unnamedBindings (kind : String)
  /-- A statement has parameters without names. -/
  | unnamedParameters
  /-- A parameter has fewer or more parts than it needs. -/
  | parameterShape (expected found : Nat)
  /-- A mapped source has neither a query nor a table. -/
  | noBaseOfSource
  /-- A source that cannot be staged. -/
  | unsupportedSource (kind : String)
  /-- Source and target have different numbers of columns. -/
  | columnCounts (source target : Nat)
  /-- A manifest lists no files. -/
  | emptyManifest (uri : String)
  /-- A file cannot be opened. -/
  | fileNotFound (uri : String)
  /-- A job ended in another state than done. -/
  | jobState (state : String)
  /-- The rows of a table that does not exist cannot be counted. -/
  | uncountable (table : String)
  /-- The service refused the data of a load. -/
  | inputData (text : String)
  /-- The service refused a call. -/
  | backend (error : ApiError)
  /-- A timer of this name runs already. -/
  | timerRunning (name : String)
  /-- No timer of this name was started. -/
  | timerNotStarted (name : String)
  /-- A log that is closed cannot be written. -/
  | closedLog
  /-- No import strategy has this name. -/
  | unknownStrategy (shown : String)
  /-- No timestamp mode has this name. -/
  | unknownTimestampMode (shown : String)
  /-- Directories of files are not read. -/
  | directorySource
  /-- Settings that do not exist. -/
  | unknownSettings (names : List String)
  /-- The environment gives a setting a value it cannot have. -/
  | invalidDefault (option value : String)
  /-- A setting is given a value it cannot have. -/
  | invalidSetting (option value : String)
  /-- A setting must hold a document and does not. -/
  | settingNotJson (option : String)
  /-- A setting must hold an object and does not. -/
  | settingNotObject (option : String)
  /-- A setting holds an object with members that are neither texts nor numbers nor flags. -/
  | settingMembers (option : String) (members : List (String × Json))
  /-- Session parameters that are not supported. -/
  | unsupportedParameters (names : List Json)
  /-- The log level is none of the accepted ones. -/
  | invalidLogLevel (accepted : List String)
  /-- The names of staging tables must start with something. -/
  | blankStagingPrefix
  /-- A session parameter that may not be changed. -/
  | parameterNotPermitted (name : String) (accepted : List String)
  /-- The account of the credentials is no document. -/
  | principalNotJson
  /-- The account of the credentials is no object. -/
  | principalNotObject
  /-- A payload has wrong fields. -/
  | invalidPayload (issues : List Issue)
  /-- A text is no document. -/
  | unreadableDocument
  /-- A document has no text. -/
  | unprintableDocument
  /-- An operation that only its variants have. -/
  | abstractOperation
  /-- A value is of a kind that the operation cannot use. -/
  | wrongKind
  /-- A value lacks the part that the operation uses. -/
  | noSuchPart
  /-- An object lacks a member. -/
  | noSuchMember
  /-- A list has no such position. -/
  | noSuchPosition
  /-- An error of a caller's own code. -/
  | outside (kind : OutsideKind) (text : String)
  deriving Repr

namespace Failure

open WarehouseImport.Text

/-- What stands in the place of the reader's own words about a text that is no document. -/
def unreadableNote : String := "<json error>"

/-- The wording of a failure. -/
def message : Failure → String
  | missingArgument => ""
  | notText kind => "<class '" ++ kind ++ "'> is not str"
  | invalidFlag text => "Invalid boolean value: " ++ text
  | duplicateColumns names => "Duplicate column names: " ++ String.intercalate ", " names
  | unknownKeys table names =>
    "Primary key columns not in table " ++ table ++ ": " ++ String.intercalate ", " names
  | noColumns table => "Table definition has no columns: " ++ table
  | noFilterValues column => "Filter on " ++ column ++ " has no values"
  | unknownOperator given => given.inner ++ " is not a valid FilterOperator"
  | unknownDataType given => given.inner ++ " is not a valid FilterDataType"
  | uncastableType name =>
    "Data type " ++ name ++ " not recognized. Possible datatypes are [INT64|NUMERIC]"
  | severalValues =>
    "whereFilter with multiple values can be used only with \"eq\", \"ne\" operators"
  | invalidFilterValue value column type => invalidFilterValueText value column type
  | filterTypes expected actual =>
    "Invalid filter value, expected:\"" ++ expected ++ "\", actual:\"" ++ actual ++ "\"."
  | refusedFilter text => text.shown
  | unexpectedErrorText text => "Unexpected error text: " ++ text
  | missingColumns description table names => missingColumnsText description table names false
  | columnsNotFound table names => columnsNotFoundText table names
  | irreconcilable report => String.intercalate "; " report.messages
  | tableExists table => "Table " ++ table.inQuotes ++ " already exists."
  | objectExists => "Object already exists."
  | tableNotFound table => "Table " ++ table.inQuotes ++ " not found."
  | invalidImport text => text
  | incrementalFromTable => "Incremental import from a table is not implemented."
  | incrementalUpdate keys =>
    "Incremental import updating duplicates on " ++ String.intercalate "," keys ++
      " is not implemented."
  | tooLong text _ => text
  | reported _ text _ => text
  | tooManyDigits count =>
    "Exceeds the limit (4300 digits) for integer string conversion: value has " ++
      toString count ++ " digits; use sys.set_int_max_str_digits() to increase the limit"
  | unnamedQueryBindings => "Query bindings must be named"
  | unnamedBindings kind => "Query bindings must be named, not " ++ kind
  | unnamedParameters => "Query parameters must be named"
  | parameterShape expected found =>
    if found < expected then
      "not enough values to unpack (expected " ++ toString expected ++ ", got " ++
        toString found ++ ")"
    else "too many values to unpack (expected " ++ toString expected ++ ")"
  | noBaseOfSource => "Either a base query or a schema and table name are required"
  | unsupportedSource kind => "Unsupported source type: " ++ kind
  | columnCounts source target =>
    "Source and target column counts differ: " ++ toString source ++ " != " ++ toString target
  | emptyManifest uri => "Manifest has no entries: " ++ uri
  | fileNotFound uri => uri
  | jobState state => "Unexpected BigQuery job state: " ++ state
  | uncountable table => "Table does not exist: " ++ table
  | inputData text => text
  | backend e => e.message
  | timerRunning name => "Timer already running: " ++ name
  | timerNotStarted name => "Timer not started: " ++ name
  | closedLog => "I/O operation on closed file."
  | unknownStrategy shown => "Unknown import strategy " ++ shown
  | unknownTimestampMode shown => "Unknown timestamp mode " ++ shown
  | directorySource => "Directory source type is not supported"
  | unknownSettings names => "Unexpected DriverConfig keys: " ++ quotedList names
  | invalidDefault option value => "Invalid value for " ++ option ++ ": " ++ value
  | invalidSetting option value => "Invalid value for " ++ option ++ ": " ++ value
  | settingNotJson option => "Invalid JSON value for " ++ option ++ ": " ++ unreadableNote
  | settingNotObject option => "Invalid JSON value for " ++ option ++ ": expected an object"
  | settingMembers option members =>
    "Invalid property value in " ++ option ++ " for keys: " ++
      quotedList (members.map (·.1)) ++ "\n" ++
      String.intercalate "\n" (members.map fun member =>
        "Invalid property value for key/value pair: " ++ member.1 ++ ": " ++ member.2.shown)
  | unsupportedParameters names =>
    "Unsupported BACKEND_SESSION_PARAMETERS keys: " ++ (Json.arr names).shown
  | invalidLogLevel accepted =>
    "Invalid value for LOG_LEVEL, valid values are: " ++ String.intercalate ", " accepted
  | blankStagingPrefix => "BQDRIVER_STAGING_TABLE_PREFIX cannot be blank"
  | parameterNotPermitted name accepted =>
    "Modification of job configuration " ++ name ++ " is not permitted, valid values: " ++
      String.intercalate ", " accepted
  | principalNotJson => "Credentials principal is not valid JSON"
  | principalNotObject => "Credentials principal is not a JSON object"
  | outside _ text => text
  | invalidPayload _ | unreadableDocument | unprintableDocument | abstractOperation | wrongKind
  | noSuchPart | noSuchMember | noSuchPosition => ""

/-- A failure as shown in a log or a warning. -/
def shown : Failure → String
  | backend e => e.shown
  | failure => failure.message

/-- The family of a failure that is reported to the caller of an import. -/
def family? : Failure → Option Family
  | missingColumns .. | columnsNotFound .. | irreconcilable .. => some .columnsMismatch
  | tableExists .. | objectExists => some .alreadyExists
  | tableNotFound .. => some .notFound
  | invalidImport .. => some .invalidImport
  | incrementalFromTable | incrementalUpdate .. => some .notImplemented
  | uncastableType .. | severalValues => some .queryBuilder
  | tooLong .. => some .maximumLength
  | invalidFilterValue .. | filterTypes .. | refusedFilter .. => some .badFilter
  | reported family .. => some family
  | _ => none

/-- The number of a failure that is reported to the caller of an import. -/
def code? : Failure → Option Int
  | reported family _ code => some (code.getD family.code)
  | failure => failure.family?.map Family.code

/-- The parts that a reported failure was made of, in one line under the given name of its family.
The parts of an overflow follow where the family has them. -/
def described (name message : String) (code : Option Int) (overflow : Option (Option Overflow)) :
    String :=
  name ++ summary (
    ("message", quoted message) ::
    (match code with
      | some number => [("code", toString number)]
      | none => []) ++
    (match overflow with
      | some (some o) => [
          ("field_name", quoted o.field),
          ("field_type", quoted o.type),
          ("max_length", toString o.limit),
          ("actual_length", toString o.length)]
      | some none =>
        ["field_name", "field_type", "max_length", "actual_length"].map fun part => (part, "None")
      | none => []))

end Failure

end WarehouseImport
