import WarehouseImport.Rehearsal.Service
import WarehouseImport.Session.Action

/-!
# Stages

A rehearsal takes place on a stage: a session and a scripted service, both of which its steps
change. A step answers with a result or a failure and may show more beside it; a failing step does
not end the rehearsal.
-/

namespace WarehouseImport.Rehearsal

open WarehouseImport

/-- A session with a service that its actions ask. -/
structure Stage where
  session : Session
  service : Service

/-- The answer of a step, with what is shown beside it. -/
structure Answer where
  result : Except Failure Json
  beside : List (String × Json) := []

/-- Performs steps one after the other. -/
def perform {σ α : Type} (step : Json → StateM σ α) (steps : Json) (start : σ) :
    List α × σ :=
  (steps.items.mapM step).run start

namespace Stage

/-- Runs an action. -/
def run {α : Type} (action : Action α) : StateM Stage (Except Failure α) := do
  let stage ← get
  let ((result, session), service) :=
    (Service.run (ExceptT.run action |>.run stage.session)).run stage.service
  set ({ session := session, service := service } : Stage)
  return result

/-- The calls since the last time they were taken. -/
def takeCalls : StateM Stage Json := do
  let stage ← get
  set { stage with service := { stage.service with calls := [] } }
  return .arr stage.service.calls

/-- The text on the terminal since the last time it was taken. -/
def takeOutput : StateM Stage Json := do
  let stage ← get
  set { stage with session :=
    { stage.session with terminal := { stage.session.terminal with text := "" } } }
  return .str stage.session.terminal.text

/-- A warehouse of the service without limits. -/
def warehouse (stage : Stage) : Warehouse := ⟨stage.service.project, false, none⟩

/-- Runs an action and shows its calls beside its result. -/
def answer (action : Action Json) : StateM Stage Answer := do
  let result ← run action
  return { result := result, beside := [("calls", ← takeCalls)] }

/-- The stage with another terminal. -/
def withTerminal (stage : Stage) (terminal : Terminal) : Stage :=
  { stage with session := { stage.session with terminal := terminal } }

/-- The stage with another import under way. -/
def withProgress (stage : Stage) (progress : Progress) : Stage :=
  { stage with session := { stage.session with progress := progress } }

/-- The steps of the run, each with its total time and the number of times it was recorded. -/
def summary (stage : Stage) : Json :=
  .arr (stage.session.messages.steps.map fun step =>
    .arr [.str step.name, .real step.seconds, Json.ofNat step.count])

/-- The log files by name, each with its text. -/
def logFiles (stage : Stage) : Json :=
  .arr ((stage.session.logs.mergeSort fun a b => decide (a.name ≤ b.name)).map fun file =>
    Json.ofTexts [file.name, file.text])

/-- What a run keeps to the end. -/
def kept (stage : Stage) : List (String × Json) := [
  ("notices", Json.ofTexts stage.session.messages.notices),
  ("warnings", Json.ofTexts stage.session.messages.warnings),
  ("summary", stage.summary)]

end Stage

end WarehouseImport.Rehearsal
