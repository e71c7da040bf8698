import WarehouseImport.Session.Basic
import WarehouseImport.Warehouse.Call

/-!
# Actions

An action changes the session, asks the outside, and may end with a failure; what it changed before
the failure stays changed. A step is a named action with lines around it and its time recorded; an
optional step turns a failure into a warning.
-/

namespace WarehouseImport

/-- A program in a session, which may fail. -/
abbrev Action := ExceptT Failure (StateT Session Script)

namespace Action

variable {α : Type}

/-- Asks the outside. -/
def ask (call : Call) : Action call.Answer :=
  liftM (m := StateT Session Script) (liftM (m := Script) (Script.question call))

/-- Asks the outside, and fails if the call ends with a fault. -/
def settle (answer : Except Fault α) : Action α :=
  match answer with
  | .ok value => pure value
  | .error fault => throw fault.failure

/-- A result that may be a failure. -/
def ofExcept (result : Except Failure α) : Action α :=
  match result with
  | .ok value => pure value
  | .error failure => throw failure

/-- The time of the session's clock. -/
def now : Action Float := return (← get).clock

/-- Changes the session, or fails and leaves it as it is. -/
def update (change : Session → Except Failure Session) : Action Unit := do
  set (← ofExcept (change (← get)))

/-- Runs an action and then another one, whether the first fails or not. A failure of the second
one takes the place of what the first ended with. -/
def afterwards (action : Action α) (last : Action Unit) : Action α := do
  let outcome ← tryCatch (Except.ok <$> action) fun failure => pure (.error failure)
  last
  ofExcept outcome

/-- Writes a line of a level of detail in colours. -/
def log (line : String) (detail : Option Detail) (colours : List String) : Action Unit :=
  update fun session => session.log (some line) detail colours

/-- Writes a line of the usual level. -/
def say (line : String) : Action Unit := log line (some Detail.normal) []

/-- Keeps a notice and writes it. -/
def notice (text : String) (detail : Option Detail) : Action Unit := do
  modify fun session => session.keepNotice text
  log text detail []

/-- Keeps a warning and writes it. -/
def warn (text : String) (detail : Option Detail) (colours : List String) : Action Unit := do
  modify fun session => session.keepWarning text
  log ("WARNING:" ++ text) detail colours

/-- Writes the time and gives it in whole seconds. -/
def logTime (detail : Option Detail) (colours : List String) : Action Int := do
  let seconds := Moment.wholeSeconds (← now)
  log (Moment.ofDuration (Duration.ofWholeSeconds seconds)).line detail colours
  return seconds

/-- A name that no other draw gives. -/
def drawName (beginning : String) : Action String := do
  let (name, session) := (← get).drawName beginning
  set session
  return name

/-- Lets time pass. -/
def pass (seconds : Float) : Action Unit := modify fun session => session.later seconds

/-- Records a finished timer. -/
def keepTimer (timer : Timer) : Action Unit := do
  let elapsed := timer.elapsed (← now)
  modify fun session => session.keepStep timer.name (Duration.ofSeconds elapsed)

/-- The lines at the start of a step. -/
def beginStep (name : String) : Action Int := do
  say ""
  log name (some Detail.verbose) ["underline"]
  logTime (some Detail.verbose) ["grey"]

/-- The lines at the end of a step that went well, and its time if it is to be recorded. -/
def endStep (timer : Timer) (began : Int) (recorded : Bool) : Action Unit := do
  let took := Duration.ofWholeSeconds (Moment.wholeSeconds (← now) - began)
  log ("Step time: " ++ took.shown) (some Detail.verbose) ["grey"]
  log "Done" (some Detail.verbose) ["green"]
  if recorded then keepTimer timer

/-- The body of a step between its lines. -/
def stepBody (timer : Timer) (began : Int) (recorded : Bool) (body : Action α) : Action α := do
  let value ← body
  endStep timer began recorded
  return value

/-- A step that must go well. -/
def step (name : String) (recorded : Bool) (body : Action α) : Action α := do
  if name.isEmpty then throw .missingArgument
  let began ← beginStep name
  let timer := Timer.begin name (← now)
  tryCatch (stepBody timer began recorded body) fun failure => do
    log (timer.shown (← now)) (some Detail.verbose) ["grey"]
    throw failure

/-- A step that may fail: its failure becomes a warning. -/
def optionalStep (name : String) (recorded : Bool) (body : Action α) : Action (Option α) := do
  if name.isEmpty then throw .missingArgument
  let began ← beginStep name
  let timer := Timer.begin name (← now)
  tryCatch (some <$> stepBody timer began recorded body) fun failure => do
    log (timer.shown (← now)) (some Detail.verbose) ["grey"]
    log failure.shown (some Detail.full) []
    warn ("Error in \"" ++ name ++ "\": " ++ failure.shown) (some Detail.normal) ["red"]
    log "Optional step, continuing" (some Detail.normal) ["green"]
    return none

/-- Writes the table of steps at a level of detail, with at most `top` of them. -/
def logSteps (top : Int) (detail : Option Detail) : Action Unit := do
  let (rows, total) := (← get).messages.stepTable top
  for row in rows do
    log row detail []
  match total with
  | some line => log line (some Detail.full) []
  | none => return

/-- Writes the warnings and notices that were kept. -/
def logMessages : Action Unit := do
  for (line, colours) in (← get).messages.listing do
    log line (some Detail.normal) colours

/-- Starts a timer of the import under way. -/
def startTimer (name : String) : Action Unit := do
  let session ← get
  let progress ← ofExcept (session.progress.start name session.clock)
  set { session with progress := progress }

/-- Stops a timer of the import under way and records its time. -/
def stopTimer (name : String) : Action Unit := do
  let session ← get
  let (progress, timer) ← ofExcept (session.progress.stop name session.clock)
  set { session with progress := progress }
  keepTimer timer

/-- Runs an action between the start and the end of a timer. The timer runs on if the action
fails. -/
def timed (name : String) (action : Action α) : Action α := do
  startTimer name
  let value ← action
  stopTimer name
  return value

/-- Adds to the rows of the import under way. -/
def addRows (count : Json) : Action Unit :=
  update fun session =>
    (session.progress.addRows count).map fun progress => { session with progress := progress }

/-- Sets the columns of the import under way. -/
def setColumns (columns : List String) : Action Unit :=
  modify fun session => { session with progress := { session.progress with columns := columns } }

/-- The import under way. -/
def progress : Action Progress := return (← get).progress

/-- Takes an import with a staging table to be under way. -/
def beginImport (staging : String) : Action Unit :=
  modify fun session => { session with progress := { staging := staging } }

end Action

end WarehouseImport
