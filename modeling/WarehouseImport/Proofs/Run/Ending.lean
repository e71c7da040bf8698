import WarehouseImport.Proofs.Run.Handler
import WarehouseImport.Proofs.Run.OpenLog

/-!
# How runs end

Behind its command a run writes the table of its steps and the messages that were kept, and closes
its log file. None of this can fail as long as the log file takes text, so a run ends well if its
command does.
-/

namespace WarehouseImport

open WarehouseImport.Action

/-- A sure action without calls has a run that ends well. -/
theorem Action.Sure.exists_run {α : Type} {action : Action α} {session : Session}
    (hsure : Sure action) (hquiet : Quiet action) (hopen : session.Open) :
    ∃ value after, Runs action session [] (.ok value) after ∧ after.Open := by
  obtain ⟨outcome, after, hrun⟩ := runs_against action session
    (Script.obliging fun _ => .ok (ReflectedTable.ofNames [] []))
  have hnone := (hquiet hrun).1
  rw [hnone] at hrun
  obtain ⟨hok, hafter⟩ := hsure hrun hopen
  cases outcome with
  | ok value => exact ⟨value, after, hrun, hafter⟩
  | error failure => cases hok

namespace Handler

variable {handler : Handler} {config : Config} {credentials : Credentials}
  {command : ImportCommand} {features : List String} {options : RuntimeOptions}
  {session after : Session} {exchanges : List Exchange} {response : ImportResponse}

/-- Connects and runs a command, with nothing around it. -/
def connectAndPerform (handler : Handler) (config : Config) (credentials : Credentials)
    (command : ImportCommand) (features : List String) (options : RuntimeOptions) :
    Action ImportResponse := do
  let warehouse ← Warehouse.connect credentials config options
  handler.perform warehouse config credentials command features

/-- Where a command goes well and leaves the log file open, its report ends well. -/
theorem exists_report
    (hperformed : Runs (handler.connectAndPerform config credentials command features options)
      session exchanges (.ok response) after) (hopen : after.Open) :
    ∃ ended, Runs (handler.report config credentials command features options) session exchanges
      (.ok response) ended := by
  obtain ⟨⟨⟩, stepped, hsteps, hstepped⟩ :=
    (sure_logSteps 10 (some Detail.full)).exists_run (quiet_logSteps _ _) hopen
  obtain ⟨⟨⟩, ended, hmessages, -⟩ := sure_logMessages.exists_run quiet_logMessages hstepped
  obtain ⟨first, warehouse, middle, last, rfl, hconnect, hperform⟩ := runs_bind_ok hperformed
  have hending : Runs (do
      Action.logSteps 10 (some Detail.full)
      Action.logMessages
      return response) after [] (.ok response) ended := by
    apply runs_bind.mpr
    right
    refine ⟨[], ⟨⟩, stepped, [], rfl, hsteps, ?_⟩
    apply runs_bind.mpr
    right
    exact ⟨[], ⟨⟩, ended, [], rfl, hmessages, runs_pure.mpr ⟨rfl, rfl, rfl⟩⟩
  refine ⟨ended, runs_bind.mpr (.inr ⟨first, warehouse, middle, last, rfl, hconnect, ?_⟩)⟩
  apply runs_bind.mpr
  right
  exact ⟨last, response, after, [], by simp, hperform, hending⟩

/-- Where a command goes well and no log file is asked for, its run ends well. -/
theorem exists_run (hlog : (config.value .logPath).isGiven = false)
    (hperformed : Runs (handler.connectAndPerform config credentials command features options)
      session exchanges (.ok response) after) (hopen : after.Open) :
    ∃ closed, Runs (handler.run config credentials command features options) session exchanges
      (.ok response) closed := by
  obtain ⟨ended, hreport⟩ := exists_report hperformed hopen
  have hopened : Runs (handler.openLog config) session [] (.ok ⟨⟩) session := by
    unfold openLog
    rw [hlog]
    exact runs_pure.mpr ⟨rfl, rfl, rfl⟩
  have hclosed : Runs (modify Session.closeLog : Action Unit) ended [] (.ok ⟨⟩) ended.closeLog :=
    .done _
  refine ⟨ended.closeLog, ?_⟩
  apply runs_bind.mpr
  right
  refine ⟨[], ⟨⟩, session, exchanges, rfl, hopened, ?_⟩
  apply runs_afterwards.mpr
  exact ⟨exchanges, .ok response, ended, [], .ok ⟨⟩, by simp, hreport, hclosed, rfl⟩

end Handler

end WarehouseImport
