import WarehouseImport.Proofs.Run.Steady
import WarehouseImport.Proofs.Run.Warehouse

/-!
# The verdict on a statement

Once the log file takes text, nothing stands between the answer to a statement and how the program
goes on: the statement is sent, and it ends with what the answer says, a failure of the call, a
failure of the job, or a job in another state than done.

The answer also has no part in what is recorded of the import under way. So a timer around a
statement can be stopped, and ends with what the statement ended with.
-/

namespace WarehouseImport

open WarehouseImport.Action

namespace Session

variable {session next : Session}

/-- A line in the log file leaves the import under way. -/
theorem progress_record {line : String} (h : session.record line = .ok next) :
    next.progress = session.progress := by
  unfold record at h
  split at h
  · cases h
    rfl
  · obtain ⟨file, -, h⟩ := bind_eq_ok.mp h
    rw [← Except.ok.inj h]

/-- A line on the terminal leaves the import under way. -/
theorem progress_display {line : String} (h : session.display line = .ok next) :
    next.progress = session.progress := by
  unfold display at h
  split at h
  · cases h
    rfl
  · split at h
    · cases h
      rfl
    · obtain ⟨middle, hrecord, h⟩ := bind_eq_ok.mp h
      rw [← Except.ok.inj h]
      change middle.progress = session.progress
      exact progress_record hrecord

/-- A line of a level of detail leaves the import under way. -/
theorem progress_log {line : Option String} {detail : Option Detail} {colours : List String}
    (h : session.log line detail colours = .ok next) : next.progress = session.progress := by
  unfold log at h
  obtain ⟨middle, hrecord, h⟩ := bind_eq_ok.mp h
  split at h
  · exact (progress_display h).trans (progress_record hrecord)
  · split at h
    · exact (progress_display h).trans (progress_record hrecord)
    · cases h
      exact progress_record hrecord

end Session

namespace Progress

/-- A timer that was put is found under its name. -/
theorem timer?_putTimer (progress : Progress) (timer : Timer) :
    (progress.putTimer timer).timer? timer.name = some timer := by
  unfold timer? putTimer
  induction progress.timers with
  | nil => simp [Keyed.put]
  | cons other rest ih =>
    by_cases hname : other.name = timer.name
    · simp [Keyed.put, hname]
    · simpa [Keyed.put, hname, List.find?_cons] using ih

/-- A timer that was started can be stopped. -/
theorem stop_of_start {progress started : Progress} {name : String} {now : Float}
    (h : progress.start name now = .ok started) (later : Float) :
    ∃ stopped, started.stop name later = .ok stopped := by
  unfold start at h
  split at h
  · cases h
  · obtain rfl := Except.ok.inj h
    have hfound := progress.timer?_putTimer (Timer.begin name now)
    rw [show (Timer.begin name now).name = name from rfl] at hfound
    exact ⟨_, by rw [stop, hfound]⟩

end Progress

namespace Action

variable {α β : Type} {action : Action α} {session after : Session} {exchanges : List Exchange}
  {outcome : Except Failure α}

/-- Every run leaves what is recorded of the import under way. -/
def Aside (action : Action α) : Prop :=
  ∀ ⦃session exchanges outcome after⦄, Runs action session exchanges outcome after →
    after.progress = session.progress

/-- A value is aside. -/
theorem aside_pure (value : α) : Aside (pure value) := by
  intro session exchanges outcome after h
  obtain ⟨-, -, rfl⟩ := runs_pure.mp h
  rfl

/-- A failure is aside. -/
theorem aside_throw (failure : Failure) : Aside (throw failure : Action α) := by
  intro session exchanges outcome after h
  obtain ⟨-, -, rfl⟩ := runs_throw.mp h
  rfl

/-- A question is aside. -/
theorem aside_ask (call : Call) : Aside (ask call) := by
  intro session exchanges outcome after h
  obtain ⟨answer, -, -, rfl⟩ := runs_ask.mp h
  rfl

/-- A result that may be a failure is aside. -/
theorem aside_ofExcept (result : Except Failure α) : Aside (ofExcept result) := by
  intro session exchanges outcome after h
  obtain ⟨-, -, rfl⟩ := runs_ofExcept.mp h
  rfl

/-- An answer that may be a fault is aside. -/
theorem aside_settle (answer : Except Fault α) : Aside (settle answer) := by
  intro session exchanges outcome after h
  obtain ⟨-, -, rfl⟩ := runs_settle.mp h
  rfl

/-- Time that passes is aside. -/
theorem aside_pass (seconds : Float) : Aside (pass seconds) := by
  intro session exchanges outcome after h
  cases h
  rfl

/-- A line is aside. -/
theorem aside_log (line : String) (detail : Option Detail) (colours : List String) :
    Aside (log line detail colours) := by
  intro session exchanges outcome after h
  rcases runs_ofExcept_bind.mp (runs_get_bind.mp h) with
    ⟨failure, -, -, -, rfl⟩ | ⟨next, hnext, hset⟩
  · rfl
  · obtain ⟨-, -, rfl⟩ := runs_set.mp hset
    exact Session.progress_log hnext

/-- A sequence is aside if its parts are. -/
theorem Aside.bind {f : α → Action β} (hfirst : Aside action) (hlast : ∀ value, Aside (f value)) :
    Aside (action >>= f) := by
  intro session exchanges outcome after h
  rcases runs_bind.mp h with ⟨failure, rfl, hf⟩ | ⟨first, value, middle, last, rfl, hv, hl⟩
  · exact hfirst hf
  · exact (hlast value hl).trans (hfirst hv)

/-- An action with a handler is aside if both are. -/
theorem Aside.tryCatch {handle : Failure → Action α} (haction : Aside action)
    (hhandle : ∀ failure, Aside (handle failure)) : Aside (tryCatch action handle) := by
  intro session exchanges outcome after h
  rcases runs_tryCatch.mp h with ⟨value, rfl, hv⟩ | ⟨first, failure, middle, last, rfl, hf, hl⟩
  · exact haction hv
  · exact (hhandle failure hl).trans (haction hf)

/-- A timer that starts is recorded. -/
theorem runs_startTimer {name : String} {value : Unit}
    (h : Runs (startTimer name) session exchanges (.ok value) after) :
    ∃ started, session.progress.start name session.clock = .ok started ∧
      after.progress = started := by
  rcases runs_ofExcept_bind.mp (runs_get_bind.mp h) with
    ⟨failure, -, -, hfailed, -⟩ | ⟨started, hstarted, hset⟩
  · cases hfailed
  · obtain ⟨-, -, rfl⟩ := runs_set.mp hset
    exact ⟨started, hstarted, rfl⟩

/-- A timer that can be stopped is stopped. -/
theorem runs_stopTimer {name : String} {stopped : Progress × Timer} {outcome : Except Failure Unit}
    (hstops : session.progress.stop name session.clock = .ok stopped)
    (h : Runs (stopTimer name) session exchanges outcome after) : outcome = .ok () := by
  rcases runs_ofExcept_bind.mp (runs_get_bind.mp h) with
    ⟨failure, hfailed, -⟩ | ⟨taken, -, hkeeps⟩
  · rw [hstops] at hfailed
    cases hfailed
  · cases runs_set_bind.mp hkeeps
    rfl

/-- A timer around an action that is aside ends with what the action ended with, unless it cannot be
started. -/
theorem runs_timed {name : String} (haside : Aside action)
    (h : Runs (timed name action) session exchanges outcome after) :
    (exchanges = [] ∧ outcome.isOk = false) ∨
      ∃ before behind, Runs action before exchanges outcome behind ∧
        (session.Open → before.Open) ∧ (behind.Open → after.Open) := by
  rcases runs_bind.mp h with ⟨failure, rfl, hf⟩ | ⟨first, ⟨⟩, before, last, rfl, hstart, hrest⟩
  · exact .inl ⟨(quiet_startTimer name hf).1, rfl⟩
  right
  obtain ⟨rfl, -⟩ := quiet_startTimer name hstart
  have hopen : session.Open → before.Open := steady_startTimer name hstart
  obtain ⟨started, hstarts, hstarted⟩ := runs_startTimer hstart
  rcases runs_bind.mp hrest with ⟨failure, rfl, hf⟩ | ⟨acted, value, behind, rest, rfl, hv, hstop⟩
  · exact ⟨before, after, hf, hopen, id⟩
  -- What was started is still there behind the action, so the timer can be stopped.
  obtain ⟨stopped, hstops⟩ := Progress.stop_of_start hstarts behind.clock
  rw [← hstarted, ← haside hv] at hstops
  rcases runs_bind.mp hstop with ⟨failure, rfl, hf⟩ | ⟨_, ⟨⟩, ended, _, rfl, hs, hreturn⟩
  · cases runs_stopTimer hstops hf
  · obtain ⟨rfl, -⟩ := quiet_stopTimer name hs
    obtain ⟨rfl, rfl, rfl⟩ := runs_pure.mp hreturn
    exact ⟨before, behind, by simpa using hv, hopen, steady_stopTimer name hs⟩

end Action

namespace Warehouse

variable {warehouse : Warehouse} {session after : Session} {exchanges : List Exchange}

/-- What the answer to a statement says. -/
def verdict (answer : Except Fault Job) : Except Failure JobResult := do
  let job ← answer.mapError Fault.failure
  let result ← job.outcome.mapError Fault.failure
  if result.state = doneState then return result else throw (.jobState result.state)

/-- A statement was done if the verdict on it is good. -/
theorem done_iff {statement : Statement} {bindings : List Binding} {timeout : Option Int}
    {answer : Except Fault Job} :
    Exchange.Done ⟨.query statement bindings timeout, answer⟩ ↔
      ∃ result, verdict answer = .ok result := by
  constructor
  · intro h
    obtain ⟨job, result, rfl, houtcome, hstate⟩ := h
    have hended : job.outcome.mapError Fault.failure = .ok result := mapError_eq_ok.mpr houtcome
    exact ⟨result, bind_eq_ok.mpr ⟨job, mapError_eq_ok.mpr rfl,
      bind_eq_ok.mpr ⟨result, hended, if_pos hstate⟩⟩⟩
  · intro h
    obtain ⟨result, hresult⟩ := h
    obtain ⟨job, hjob, hresult⟩ := bind_eq_ok.mp hresult
    obtain ⟨ended, hended, hresult⟩ := bind_eq_ok.mp hresult
    refine ⟨job, ended, mapError_eq_ok.mp hjob, mapError_eq_ok.mp hended, ?_⟩
    split at hresult
    · next hstate => exact hstate
    · cases hresult

/-- With an open log file a statement without parameters is written to the log. -/
theorem sure_logStatement_none (statement : Statement) (detail : Detail) :
    Sure (logStatement statement Parameters.none detail) :=
  (sure_log _ _ _).bind fun _ => sure_pure _

/-- What becomes of a job is quiet. -/
theorem quiet_settle_job (answer : Except Fault Job) :
    Quiet (do
      let job ← settle answer
      let result ← finish job
      if result.state = doneState then return result else throw (.jobState result.state)) := by
  apply (quiet_settle answer).bind
  intro job
  apply Quiet.bind
  · intro session exchanges outcome after h
    obtain ⟨hnone, hdrawn, -⟩ := runs_finish h
    exact ⟨hnone, hdrawn⟩
  · intro result
    split
    · exact quiet_pure result
    · exact quiet_throw _

/-- A statement that was sent was written to an open log file first. -/
theorem open_of_runs_run {statement : Statement} {outcome : Except Failure Int}
    (h : Runs (warehouse.run statement) session exchanges outcome after)
    (hsent : exchanges ≠ []) : session.Open ∧ warehouse.dryRun = false := by
  rcases (quiet_logStatement _ _ _).runs_bind h with ⟨rfl, -⟩ | ⟨⟨⟩, logged, hlog, -, hrest⟩
  · exact absurd rfl hsent
  constructor
  · obtain ⟨_, ⟨⟩, _, _, -, hline, -⟩ := runs_bind_ok hlog
    obtain ⟨-, ⟨failure, -, hfailed⟩ | ⟨hwritten, -⟩⟩ := runs_log hline
    · cases hfailed
    · exact Session.open_of_log hwritten
  · split at hrest
    · obtain ⟨rfl, -, -⟩ := runs_pure.mp hrest
      exact absurd rfl hsent
    · next hsends => simpa using hsends

/-- With an open log file a job is followed to the end that it has. -/
theorem runs_finish_of_open {job : Job} {outcome : Except Failure JobResult}
    (h : Runs (finish job) session exchanges outcome after) (hopen : session.Open) :
    outcome = job.outcome.mapError Fault.failure := by
  obtain ⟨⟨⟩, logged, hlogged, hrest⟩ := (sure_log _ _ _).runs_bind (Action.quiet_log _ _ _) h hopen
  obtain ⟨⟨⟩, passed, -, hsettle⟩ := (sure_pass _).runs_bind (quiet_pass _) hrest hlogged
  exact (runs_settle.mp hsettle).2.1

/-- With an open log file a statement that is sent ends with the verdict on it. -/
theorem runs_runStatement_of_open {statement : Statement} {outcome : Except Failure JobResult}
    (h : Runs (warehouse.runStatement statement Parameters.none) session exchanges outcome after)
    (hopen : session.Open) :
    ∃ answer, exchanges = [⟨.query statement [] warehouse.timeout, answer⟩] ∧
      outcome = verdict answer := by
  rcases runs_ofExcept_bind.mp h with ⟨failure, hfailed, -⟩ | ⟨bindings, hbindings, hasked⟩
  · cases hfailed
  obtain rfl : [] = bindings := Except.ok.inj hbindings
  obtain ⟨answer, rest, rfl, hsettled⟩ := runs_ask_bind.mp hasked
  have hquiet := (quiet_settle_job answer hsettled).1
  refine ⟨answer, by rw [hquiet], ?_⟩
  unfold verdict
  rcases runs_bind.mp hsettled with ⟨failure, rfl, hf⟩ | ⟨_, job, _, _, rfl, hjob, hfollowed⟩
  · rw [← (runs_settle.mp hf).2.1]
    rfl
  obtain ⟨rfl, hsame, rfl⟩ := runs_settle.mp hjob
  rw [← hsame]
  rcases runs_bind.mp hfollowed with ⟨failure, rfl, hf⟩ | ⟨_, result, _, _, rfl, hended, hstate⟩
  · change _ = job.outcome.mapError Fault.failure >>= _
    rw [← runs_finish_of_open hf hopen]
    rfl
  · change _ = job.outcome.mapError Fault.failure >>= _
    rw [← runs_finish_of_open hended hopen]
    change _ = if result.state = doneState then _ else _
    split at hstate
    · next hdone => rw [if_pos hdone, (runs_pure.mp hstate).2.1]; rfl
    · next hdone => rw [if_neg hdone, (runs_throw.mp hstate).2.1]; rfl

/-- A statement that ends well is one query, with a good verdict. -/
theorem runs_runStatement_ok {statement : Statement} {parameters : Parameters} {result : JobResult}
    (h : Runs (warehouse.runStatement statement parameters) session exchanges (.ok result) after) :
    ∃ bindings answer, exchanges = [⟨.query statement bindings warehouse.timeout, answer⟩] ∧
      verdict answer = .ok result := by
  rcases runs_ofExcept_bind.mp h with ⟨failure, -, -, hnever, -⟩ | ⟨bindings, -, hasked⟩
  · cases hnever
  obtain ⟨answer, rest, rfl, hsettled⟩ := runs_ask_bind.mp hasked
  obtain ⟨_, job, _, _, rfl, hjob, hfollowed⟩ := runs_bind_ok hsettled
  obtain ⟨rfl, hanswer, rfl⟩ := runs_settle.mp hjob
  obtain ⟨_, ended, _, _, rfl, hended, hstate⟩ := runs_bind_ok hfollowed
  obtain ⟨rfl, -, houtcome⟩ := runs_finish hended
  split at hstate
  · next hdone =>
    obtain ⟨rfl, hvalue, -⟩ := runs_pure.mp hstate
    obtain rfl := Except.ok.inj hvalue
    refine ⟨bindings, answer, rfl, bind_eq_ok.mpr ⟨job, hanswer.symm, bind_eq_ok.mpr ?_⟩⟩
    exact ⟨result, mapError_eq_ok.mpr (houtcome result rfl), by rw [if_pos hdone]; rfl⟩
  · cases (runs_throw.mp hstate).2.1

/-- With an open log file a statement without parameters is sent, and ends with the verdict on it. -/
theorem runs_run_of_open {statement : Statement} {outcome : Except Failure Int}
    (hsends : warehouse.dryRun = false)
    (h : Runs (warehouse.run statement) session exchanges outcome after) (hopen : session.Open) :
    ∃ answer, exchanges = [⟨.query statement [] warehouse.timeout, answer⟩] ∧
      outcome = (verdict answer).map fun result => result.affected.getD 0 := by
  obtain ⟨⟨⟩, logged, hlogged, hrest⟩ :=
    (sure_logStatement_none statement Detail.verbose).runs_bind (quiet_logStatement _ _ _) h hopen
  rw [hsends] at hrest
  rcases runs_bind.mp hrest with ⟨failure, rfl, hf⟩ | ⟨sent, result, _, _, rfl, hsent, hreturn⟩
  · obtain ⟨answer, rfl, hverdict⟩ := runs_runStatement_of_open hf hlogged
    exact ⟨answer, rfl, by rw [← hverdict]; rfl⟩
  · obtain ⟨answer, rfl, hverdict⟩ := runs_runStatement_of_open hsent hlogged
    obtain ⟨rfl, rfl, -⟩ := runs_pure.mp hreturn
    exact ⟨answer, rfl, by rw [← hverdict]; rfl⟩

end Warehouse

/-- The exchange sends a statement, and the verdict on it is a failure. -/
def Exchange.Fails (exchange : Exchange) (failure : Failure) : Prop :=
  ∃ statement bindings timeout answer, exchange = ⟨.query statement bindings timeout, answer⟩ ∧
    Warehouse.verdict answer = .error failure

/-- The exchange sends a statement, and the verdict on it is good and brings a result. -/
def Exchange.Brings (exchange : Exchange) (statement : Statement) (result : JobResult) : Prop :=
  ∃ bindings timeout answer, exchange = ⟨.query statement bindings timeout, answer⟩ ∧
    Warehouse.verdict answer = .ok result

/-- The service answered that there is no such object. -/
def Failure.IsMissing (failure : Failure) : Prop :=
  ∃ error, failure = .backend error ∧ error.kind = .notFound

namespace Warehouse

variable {warehouse : Warehouse} {session after : Session} {exchanges : List Exchange}

/-- With an open log file a drop is sent, and fails with the verdict on it, unless the object is
missing and may be. -/
theorem runs_drop_of_open {kind : ObjectKind} {target : TableName} {mayMiss : Bool}
    {outcome : Except Failure Int} (hsends : warehouse.dryRun = false)
    (h : Runs (warehouse.drop kind target mayMiss) session exchanges outcome after)
    (hopen : session.Open) :
    ∃ answer, exchanges = [⟨.query (.drop kind target false) [] warehouse.timeout, answer⟩] ∧
      ∀ failure, outcome = .error failure ↔
        verdict answer = .error failure ∧ ¬ (mayMiss = true ∧ failure.IsMissing) := by
  rcases runs_tryCatch.mp h with ⟨value, rfl, hv⟩ | ⟨first, failure, caught, last, rfl, hf, hl⟩
  · obtain ⟨answer, rfl, hvalue⟩ := runs_run_of_open hsends hv hopen
    obtain ⟨result, hresult, -⟩ := map_eq_ok.mp hvalue.symm
    exact ⟨answer, rfl, by simp [hresult]⟩
  obtain ⟨answer, rfl, hfailure⟩ := runs_run_of_open hsends hf hopen
  have hverdict : verdict answer = .error failure := by
    cases hanswer : verdict answer with
    | ok result =>
      rw [hanswer] at hfailure
      cases hfailure
    | error other =>
      rw [hanswer] at hfailure
      cases hfailure
      rfl
  refine ⟨answer, ?_⟩
  rw [hverdict]
  by_cases hmiss : mayMiss = true ∧ failure.IsMissing
  · -- A missing object is written to the log and forgiven.
    obtain ⟨hmay, error, rfl, hkind⟩ := id hmiss
    change Runs (if (mayMiss && decide (error.kind = .notFound)) = true then _ else _) _ _ _ _ at hl
    rw [if_pos (by simp [hmay, hkind])] at hl
    obtain ⟨⟨⟩, logged, -, hreturn⟩ :=
      (sure_log _ _ _).runs_bind (Action.quiet_log _ _ _) hl (steady_run warehouse _ hf hopen)
    obtain ⟨rfl, rfl, -⟩ := runs_pure.mp hreturn
    refine ⟨rfl, fun other => ⟨fun hnever => (by cases hnever), fun hfailed => ?_⟩⟩
    obtain rfl := Except.error.inj hfailed.1
    exact absurd hmiss hfailed.2
  · have hthrow : Runs (throw failure : Action Int) caught last outcome after := by
      split at hl
      · next error =>
        split at hl
        · next hforgiven =>
          simp only [Bool.and_eq_true, decide_eq_true_eq] at hforgiven
          exact absurd ⟨hforgiven.1, error, rfl, hforgiven.2⟩ hmiss
        · exact hl
      · exact hl
    obtain ⟨rfl, rfl, -⟩ := runs_throw.mp hthrow
    refine ⟨rfl, fun other => ⟨fun hsame => ?_, fun hsame => ?_⟩⟩
    · cases hsame
      exact ⟨rfl, hmiss⟩
    · cases hsame.1
      rfl

/-- A statement that is written to the log leaves what is recorded of the import under way. -/
theorem aside_logStatement (statement : Statement) (parameters : Parameters) (detail : Detail) :
    Aside (logStatement statement parameters detail) := by
  refine (aside_log _ _ _).bind fun _ => ?_
  split
  · split
    · exact aside_log _ _ _
    · exact aside_throw _
  · exact aside_pure _

/-- So does one that is sent. -/
theorem aside_runStatement (warehouse : Warehouse) (statement : Statement)
    (parameters : Parameters) : Aside (warehouse.runStatement statement parameters) := by
  refine (aside_ofExcept _).bind fun _ => (aside_ask _).bind fun answer => ?_
  refine (aside_settle answer).bind fun job => ?_
  refine ((aside_log _ _ _).bind fun _ => (aside_pass _).bind fun _ => aside_settle _).bind ?_
  intro result
  split
  · exact aside_pure _
  · exact aside_throw _

/-- So does one that is written to the log and sent. -/
theorem aside_execute (warehouse : Warehouse) (statement : Statement) (parameters : Parameters) :
    Aside (warehouse.execute statement parameters) := by
  refine (aside_logStatement _ _ _).bind fun _ => ?_
  split
  · exact aside_pure _
  · exact (aside_runStatement _ _ _).bind fun _ => aside_pure _

/-- A statement without parameters likewise. -/
theorem aside_run (warehouse : Warehouse) (statement : Statement) :
    Aside (warehouse.run statement) :=
  aside_execute warehouse statement Parameters.none

/-- A drop likewise. -/
theorem aside_drop (warehouse : Warehouse) (kind : ObjectKind) (target : TableName)
    (mayMiss : Bool) : Aside (warehouse.drop kind target mayMiss) := by
  refine (aside_run _ _).tryCatch fun failure => ?_
  split
  · split
    · exact (aside_log _ _ _).bind fun _ => aside_pure _
    · exact aside_throw _
  · exact aside_throw _

end Warehouse

end WarehouseImport
