import WarehouseImport.Failure.Basic
import WarehouseImport.Text.Summary
import WarehouseImport.Time.Timer

/-!
# The progress of an import

What an import has done so far: the rows and columns it wrote, its warnings and the timers of its
steps. A timer cannot be started while it is running, and only a started one can be stopped. Each
name has one timer, which a later start replaces.
-/

namespace WarehouseImport

open WarehouseImport.Text

/-- A finished timer: its name and its time in seconds. -/
structure FinishedTimer where
  name : String
  seconds : Float
  deriving Repr

/-- What an import reports when it ends. The number of rows may have been read from the answer to a
query. -/
structure ImportResult where
  rows : Json := .int 0
  columns : List String := []
  timers : List FinishedTimer := []
  warnings : List String := []
  deriving Repr

/-- The progress of an import through a staging table, or straight into its destination. -/
structure Progress where
  staging : String
  rows : Json := .int 0
  columns : List String := []
  warnings : List String := []
  timers : List Timer := []
  deriving Repr

/-- The sum of two counts. What is not given counts nothing. -/
def addCounts (total : Json) (count : Json) : Except Failure Json :=
  if !count.isGiven then .ok total
  else
    match total, count with
    | .int m, .int n => .ok (.int (m + n))
    | .int m, .bool _ => .ok (.int (m + 1))
    | .int m, .real x => .ok (.real (Number.ofWhole m + x))
    | .real x, .int n => .ok (.real (x + Number.ofWhole n))
    | .real x, .bool _ => .ok (.real (x + 1.0))
    | .real x, .real y => .ok (.real (x + y))
    | _, _ => .error .wrongKind

namespace Progress

/-- The timer of a name. -/
def timer? (progress : Progress) (name : String) : Option Timer :=
  progress.timers.find? fun timer => timer.name == name

/-- The progress with a timer in the place of the one of its name, or at the end. -/
def putTimer (progress : Progress) (timer : Timer) : Progress :=
  { progress with timers := Keyed.put Timer.name timer progress.timers }

/-- Starts the timer of a name, which must not be running. -/
def start (progress : Progress) (name : String) (now : Float) : Except Failure Progress :=
  if ((progress.timer? name).map Timer.isRunning).getD false then .error (.timerRunning name)
  else .ok (progress.putTimer (Timer.begin name now))

/-- Stops the timer of a name, which must have been started, and gives it. -/
def stop (progress : Progress) (name : String) (now : Float) : Except Failure (Progress × Timer) :=
  match progress.timer? name with
  | none => .error (.timerNotStarted name)
  | some timer => .ok (progress.putTimer (timer.stop now), timer.stop now)

/-- Adds to the number of rows. -/
def addRows (progress : Progress) (count : Json) : Except Failure Progress :=
  (addCounts progress.rows count).map fun rows => { progress with rows := rows }

/-- The timers that are not running, in the order of their first starts. -/
def finished (progress : Progress) : List FinishedTimer :=
  progress.timers.filterMap fun timer => timer.duration.map fun seconds => ⟨timer.name, seconds⟩

/-- What the import reports if it ends now. -/
def result (progress : Progress) : ImportResult where
  rows := progress.rows
  columns := progress.columns
  timers := progress.finished
  warnings := progress.warnings

/-- The one-line summary of the progress. -/
def shown (progress : Progress) : String :=
  summary [
    ("imported_columns", quotedList progress.columns),
    ("imported_rows_count", progress.rows.shown),
    ("staging_table_name", progress.staging),
    ("warnings", quotedList progress.warnings)]

end Progress

namespace ImportResult

/-- The timers of a result as a list of documents. -/
def timerDocuments (result : ImportResult) : Json :=
  .arr (result.timers.map fun timer =>
    .obj [("name", .str timer.name), ("durationSeconds", .real timer.seconds)])

/-- The one-line summary of a result. -/
def shown (result : ImportResult) : String :=
  summary [
    ("imported_columns", quotedList result.columns),
    ("imported_rows_count", result.rows.shown),
    ("timers", result.timerDocuments.shown),
    ("warnings", quotedList result.warnings)]

end ImportResult

end WarehouseImport
