import WarehouseImport.Failure.Basic
import WarehouseImport.Time.Calendar

/-!
# Log files

A log file takes text until it is closed. Its name is made of a beginning and the moment at which
it was opened.
-/

namespace WarehouseImport

/-- A log file with the text written to it. -/
structure LogFile where
  name : String
  text : String
  isClosed : Bool
  deriving DecidableEq, Repr

namespace LogFile

/-- A new file without text. -/
def new (name : String) : LogFile := ⟨name, "", false⟩

/-- Adds text at the end; a closed file refuses it. -/
def write (file : LogFile) (text : String) : Except Failure LogFile :=
  if file.isClosed then .error .closedLog else .ok { file with text := file.text ++ text }

/-- Closes the file, which may be closed already. -/
def close (file : LogFile) : LogFile := { file with isClosed := true }

/-- Whether a path leads into a bucket. -/
def isBucketPath (path : String) : Bool := path.startsWith "gs://"

/-- Whether log files may be kept under a path: it is absolute or leads into a bucket. -/
def isValidPath (path : String) : Bool := path.startsWith "/" || isBucketPath path

/-- The name of the file that is opened at a moment. Its beginning is not empty and has no
slash. -/
def standardName (beginning : String) (moment : Moment) : Except Failure String :=
  if beginning.isEmpty || beginning.toList.contains '/' then .error .missingArgument
  else .ok (beginning ++ "_" ++ moment.stamp ++ ".log")

end LogFile

end WarehouseImport
