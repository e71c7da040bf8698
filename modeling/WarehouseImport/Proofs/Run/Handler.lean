import WarehouseImport.Import.Handler
import WarehouseImport.Proofs.Run.FromFile
import WarehouseImport.Proofs.Run.FromTable

/-!
# Runs of handlers

A handler connects and then runs its command; log files, tables of steps and messages are quiet. A
run of a handler therefore is one connection and the course of the import that its command asks for,
with a warehouse that sends its statements and a name that the session has not drawn yet.
-/

namespace WarehouseImport

open WarehouseImport.Action

namespace Session

/-- Opening a log file draws no name. -/
theorem drawn_openLog {session next : Session} {directory beginning : String}
    (h : session.openLog directory beginning = .ok next) : next.drawn = session.drawn := by
  unfold openLog at h
  split at h
  · cases h
  · obtain ⟨name, -, h⟩ := bind_eq_ok.mp h
    rw [← Except.ok.inj h]

end Session

/-- A configuration with the usual names of staging tables and nothing else. -/
def Config.plain : Config where
  value
    | .stagingNames => .str ConfigKey.usualStagingNames
    | _ => .null

/-- Credentials of an account without members. -/
def Credentials.plain : Credentials := ⟨"{}", "", none⟩

/-- A session that begins at time zero and shows the usual lines. -/
def Session.plain : Session := start 0 ⟨Detail.normal, false, [], [], []⟩

/-- A description of a table whose columns are texts. -/
def ReflectedTable.ofNames (names keys : List String) : ReflectedTable where
  kind := "TABLE"
  fields := names.map fun name =>
    ⟨some name, some "STRING", "NULLABLE", none, none, none, none, [], .null⟩
  rows := some 0
  bytes := some 0
  primaryKeys := keys

/-- Answers to descriptions where some tables are there, which look alike, and no other ones. -/
def ReflectedTable.among (described : ReflectedTable) (tables : List TableName)
    (table : TableName) : Except Fault ReflectedTable :=
  if table ∈ tables then .ok described else .error (.refused ⟨.notFound, "", []⟩)

namespace Handler

variable {warehouse : Warehouse} {session after : Session} {exchanges : List Exchange}

/-- A log file is opened quietly. -/
theorem quiet_openLog (handler : Handler) (config : Config) : Quiet (handler.openLog config) := by
  unfold openLog
  split
  · exact quiet_update fun _ _ => Session.drawn_openLog
  · exact quiet_pure _

/-- A log file that is closed at the end takes no call and cannot fail. -/
theorem runs_closeLog {outcome : Except Failure Unit}
    (h : Runs (modify Session.closeLog) session exchanges outcome after) :
    exchanges = [] ∧ outcome = .ok () := by
  cases h
  exact ⟨rfl, rfl⟩

/-- Behind the closed log file an action has the exchanges and the end that it had before. -/
theorem runs_closing {α : Type} {action : Action α} {outcome : Except Failure α}
    (h : Runs (afterwards action (modify Session.closeLog)) session exchanges outcome after) :
    ∃ middle, Runs action session exchanges outcome middle := by
  obtain ⟨first, result, middle, rest, cleaned, rfl, hr, hc, hsame⟩ := runs_afterwards.mp h
  obtain ⟨rfl, rfl⟩ := runs_closeLog hc
  obtain rfl : outcome = result := hsame
  exact ⟨middle, by simpa using hr⟩

/-- A run of a handler fails before it makes a call, or is what the handler does between opening and
closing its log file. -/
theorem runs_reported {handler : Handler} {config : Config} {credentials : Credentials}
    {command : ImportCommand} {features : List String} {options : RuntimeOptions}
    {outcome : Except Failure ImportResponse}
    (h : Runs (handler.run config credentials command features options) session exchanges outcome
      after) :
    (exchanges = [] ∧ outcome.isOk = false) ∨
      ∃ opened closing, (opened.drawName config.stagingNames).1 =
          (session.drawName config.stagingNames).1 ∧
        Runs (handler.report config credentials command features options) opened exchanges outcome
          closing := by
  rcases (quiet_openLog _ _).runs_bind h with ⟨rfl, -, failure, rfl⟩ | ⟨⟨⟩, opened, -, hdrawn, hrest⟩
  · exact .inl ⟨rfl, rfl⟩
  obtain ⟨closing, hreport⟩ := runs_closing hrest
  refine .inr ⟨opened, closing, ?_, hreport⟩
  simp only [Session.drawName, hdrawn]

/-- A connection sends its statements, and takes one call. -/
theorem runs_connect {credentials : Credentials} {config : Config} {options : RuntimeOptions}
    {outcome : Except Failure Warehouse}
    (h : Runs (Warehouse.connect credentials config options) session exchanges outcome after) :
    after.drawn = session.drawn ∧
      ((exchanges = [] ∧ outcome.isOk = false) ∨
        ∃ request project, exchanges = [⟨.connect request, project⟩] ∧
          outcome = .ok ⟨project, false, config.timeout⟩) := by
  rcases runs_ofExcept_bind.mp h with ⟨failure, -, rfl, rfl, rfl⟩ | ⟨request, -, h'⟩
  · exact ⟨rfl, .inl ⟨rfl, rfl⟩⟩
  obtain ⟨project, rest, rfl, h''⟩ := runs_ask_bind.mp h'
  obtain ⟨rfl, rfl, rfl⟩ := runs_pure.mp h''
  exact ⟨rfl, .inr ⟨request, project, rfl, rfl⟩⟩

/-- The course of the import that a command asks for. -/
def Course (warehouse : Warehouse) (command : ImportCommand) (features : List String)
    (name : String) (exchanges : List Exchange) (finished : Bool) : Prop :=
  match command with
  | .table command => FromTable.Course warehouse command
      (TransferOptions.ofImport command.options features) name exchanges finished
  | .files command => FromFile.Course warehouse command
      (TransferOptions.ofImport command.options []) name exchanges finished

/-- A handler runs the command of its kind, or fails without a call. -/
theorem runs_perform {handler : Handler} {config : Config} {credentials : Credentials}
    {command : ImportCommand} {features : List String} {outcome : Except Failure ImportResponse}
    (h : Runs (handler.perform warehouse config credentials command features) session exchanges
      outcome after) :
    (exchanges = [] ∧ outcome.isOk = false) ∨
      Course warehouse command features (session.drawName config.stagingNames).1 exchanges
        outcome.isOk := by
  unfold perform at h
  split at h
  · exact .inr (FromTable.runs_run h)
  · exact .inr (FromFile.runs_run h)
  · obtain ⟨rfl, rfl, -⟩ := runs_throw.mp h
    exact .inl ⟨rfl, rfl⟩
  · obtain ⟨rfl, rfl, -⟩ := runs_throw.mp h
    exact .inl ⟨rfl, rfl⟩

/-- A run of a handler fails before it makes a call, or connects and carries out its command with a
warehouse that sends its statements; a failure of the command is one of the run, and a value of the
run one of the command. -/
theorem runs_connected {handler : Handler} {config : Config} {credentials : Credentials}
    {command : ImportCommand} {features : List String} {options : RuntimeOptions}
    {outcome : Except Failure ImportResponse}
    (h : Runs (handler.run config credentials command features options) session exchanges outcome
      after) :
    (exchanges = [] ∧ outcome.isOk = false) ∨
      ∃ request project performed begun given ended,
        exchanges = ⟨.connect request, project⟩ :: performed ∧
        (begun.drawName config.stagingNames).1 = (session.drawName config.stagingNames).1 ∧
        Runs (handler.perform ⟨project, false, config.timeout⟩ config credentials command features)
          begun performed given ended ∧
        (∀ failure, given = .error failure → outcome = .error failure) ∧
        ∀ response, outcome = .ok response → given = .ok response := by
  rcases runs_reported h with ⟨rfl, hfailed⟩ | ⟨opened, closing, hopened, hr⟩
  · exact .inl ⟨rfl, hfailed⟩
  rcases runs_bind.mp hr with ⟨failure, rfl, hf⟩ | ⟨_, warehouse, begun, performed, rfl, hv, h₂⟩
  · rcases (runs_connect hf).2 with ⟨rfl, -⟩ | ⟨request, project, -, hok⟩
    · exact .inl ⟨rfl, rfl⟩
    · cases hok
  obtain ⟨hbegun, hconnected⟩ := runs_connect hv
  rcases hconnected with ⟨-, hfailed⟩ | ⟨request, project, rfl, hwarehouse⟩
  · cases hfailed
  obtain rfl := Except.ok.inj hwarehouse
  right
  have hname : (begun.drawName config.stagingNames).1 =
      (session.drawName config.stagingNames).1 := by
    rw [← hopened]
    simp only [Session.drawName, hbegun]
  rcases runs_bind.mp h₂ with ⟨failure, rfl, hf⟩ | ⟨performed, response, t, rest, rfl, hp, hl⟩
  · exact ⟨request, project, performed, begun, _, _, rfl, hname, hf, fun _ hsame => hsame, by simp⟩
  · have hquiet : Quiet (do
        Action.logSteps 10 (some Detail.full)
        Action.logMessages
        return response) :=
      (quiet_logSteps _ _).bind fun _ => quiet_logMessages.bind fun _ => quiet_pure _
    have hreturns : Returns (do
        Action.logSteps 10 (some Detail.full)
        Action.logMessages
        return response) (· = response) :=
      returns_bind fun _ => returns_bind fun _ => returns_pure rfl
    obtain ⟨rfl, -⟩ := hquiet hl
    refine ⟨request, project, performed, begun, _, _, by simp, hname, hp, by simp, ?_⟩
    rintro value rfl
    rw [hreturns hl]

/-- A run of a handler makes no call but a connection, or takes the course of its import behind it;
only the latter ends well. -/
theorem runs_run {handler : Handler} {config : Config} {credentials : Credentials}
    {command : ImportCommand} {features : List String} {options : RuntimeOptions}
    {outcome : Except Failure ImportResponse}
    (h : Runs (handler.run config credentials command features options) session exchanges outcome
      after) :
    (exchanges = [] ∧ outcome.isOk = false) ∨
      ∃ request project, (exchanges = [⟨.connect request, project⟩] ∧ outcome.isOk = false) ∨
        ∃ performed finished, exchanges = ⟨.connect request, project⟩ :: performed ∧
          (outcome.isOk = true → finished = true) ∧
          Course ⟨project, false, config.timeout⟩ command features
            (session.drawName config.stagingNames).1 performed finished := by
  rcases runs_connected h with
    hfailed | ⟨request, project, performed, begun, given, ended, rfl, hname, hp, hfails, -⟩
  · exact .inl hfailed
  right
  refine ⟨request, project, ?_⟩
  have hended : outcome.isOk = true → given.isOk = true := by
    intro hok
    cases given with
    | ok response => rfl
    | error failure =>
      rw [hfails failure rfl] at hok
      cases hok
  rcases runs_perform hp with ⟨rfl, hfailed⟩ | hcourse
  · refine .inl ⟨rfl, ?_⟩
    rw [hfailed] at hended
    simpa using hended
  · exact .inr ⟨performed, given.isOk, rfl, hended, hname ▸ hcourse⟩

end Handler

end WarehouseImport
