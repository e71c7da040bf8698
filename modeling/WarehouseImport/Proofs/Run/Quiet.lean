import WarehouseImport.Proofs.Results
import WarehouseImport.Proofs.Run.Action

/-!
# Quiet actions

A quiet action makes no call and draws no name. Lines, timers, notices and checks are quiet, so the
exchanges of an import are those of the few actions that send something. Steps and timers surround
such an action without exchanges of their own.

A quiet action may still fail, for a log file that is closed or a timer that is running.
-/

namespace WarehouseImport.Action

variable {α β : Type} {action : Action α} {session after : Session} {exchanges : List Exchange}

/-- No run of the action makes a call or draws a name. -/
def Quiet (action : Action α) : Prop :=
  ∀ ⦃session exchanges outcome after⦄, Runs action session exchanges outcome after →
    exchanges = [] ∧ after.drawn = session.drawn

/-- A value is quiet. -/
theorem quiet_pure (value : α) : Quiet (pure value) := by
  intro session exchanges outcome after h
  obtain ⟨rfl, -, rfl⟩ := runs_pure.mp h
  exact ⟨rfl, rfl⟩

/-- A failure is quiet. -/
theorem quiet_throw (failure : Failure) : Quiet (throw failure : Action α) := by
  intro session exchanges outcome after h
  obtain ⟨rfl, -, rfl⟩ := runs_throw.mp h
  exact ⟨rfl, rfl⟩

/-- Looking at the session is quiet. -/
theorem quiet_get : Quiet get := by
  intro session exchanges outcome after h
  obtain ⟨rfl, -, rfl⟩ := runs_get.mp h
  exact ⟨rfl, rfl⟩

/-- A change of the session is quiet when it leaves the number of drawn names. -/
theorem quiet_modify {change : Session → Session} (hchange : ∀ s, (change s).drawn = s.drawn) :
    Quiet (modify change : Action PUnit) := by
  intro session exchanges outcome after h
  cases h
  exact ⟨rfl, hchange session⟩

/-- A sequence of quiet actions is quiet. -/
theorem Quiet.bind {f : α → Action β} (hfirst : Quiet action) (hlast : ∀ value, Quiet (f value)) :
    Quiet (action >>= f) := by
  intro session exchanges outcome after h
  rcases runs_bind.mp h with ⟨failure, rfl, hf⟩ | ⟨first, value, middle, last, rfl, hv, hl⟩
  · exact hfirst hf
  · obtain ⟨rfl, hdrawn⟩ := hfirst hv
    obtain ⟨rfl, hdrawn'⟩ := hlast value hl
    exact ⟨rfl, hdrawn'.trans hdrawn⟩

/-- A quiet action with a quiet handler is quiet. -/
theorem Quiet.tryCatch {handle : Failure → Action α} (haction : Quiet action)
    (hhandle : ∀ failure, Quiet (handle failure)) : Quiet (tryCatch action handle) := by
  intro session exchanges outcome after h
  rcases runs_tryCatch.mp h with ⟨value, rfl, hv⟩ | ⟨first, failure, middle, last, rfl, hf, hl⟩
  · exact haction hv
  · obtain ⟨rfl, hdrawn⟩ := haction hf
    obtain ⟨rfl, hdrawn'⟩ := hhandle failure hl
    exact ⟨rfl, hdrawn'.trans hdrawn⟩

/-- Quiet actions for every item of a list are quiet together. -/
theorem quiet_forIn (items : List α) {body : α → Action PUnit} (hbody : ∀ item, Quiet (body item)) :
    Quiet (forIn items PUnit.unit fun item _ => do
      body item
      return ForInStep.yield PUnit.unit) := by
  induction items with
  | nil => exact quiet_pure _
  | cons item rest ih =>
    rw [List.forIn_cons]
    refine Quiet.bind (Quiet.bind (hbody item) fun _ => quiet_pure _) fun step => ?_
    cases step with
    | done value => exact quiet_pure _
    | yield value => exact ih

/-- A result that may be a failure is quiet, and ends the action as it is. -/
theorem runs_ofExcept {result : Except Failure α} {outcome : Except Failure α} :
    Runs (ofExcept result) session exchanges outcome after ↔
      exchanges = [] ∧ outcome = result ∧ after = session := by
  cases result with
  | ok value => exact runs_pure
  | error failure => exact runs_throw

/-- A sequence that begins with a result fails as the result does, or goes on from its value. -/
theorem runs_ofExcept_bind {result : Except Failure α} {f : α → Action β}
    {outcome : Except Failure β} :
    Runs (ofExcept result >>= f) session exchanges outcome after ↔
      (∃ failure, result = .error failure ∧ exchanges = [] ∧ outcome = .error failure ∧
        after = session) ∨
      ∃ value, result = .ok value ∧ Runs (f value) session exchanges outcome after := by
  rw [runs_bind]
  constructor
  · rintro (⟨failure, rfl, hf⟩ | ⟨first, value, middle, rest, rfl, hv, hl⟩)
    · obtain ⟨rfl, hfailure, rfl⟩ := runs_ofExcept.mp hf
      exact .inl ⟨failure, hfailure.symm, rfl, rfl, rfl⟩
    · obtain ⟨rfl, hvalue, rfl⟩ := runs_ofExcept.mp hv
      exact .inr ⟨value, hvalue.symm, hl⟩
  · rintro (⟨failure, rfl, rfl, rfl, rfl⟩ | ⟨value, rfl, h⟩)
    · exact .inl ⟨failure, rfl, runs_ofExcept.mpr ⟨rfl, rfl, rfl⟩⟩
    · exact .inr ⟨[], value, session, exchanges, rfl, runs_ofExcept.mpr ⟨rfl, rfl, rfl⟩, h⟩

/-- A result that may be a failure is quiet. -/
theorem quiet_ofExcept (result : Except Failure α) : Quiet (ofExcept result) := by
  intro session exchanges outcome after h
  obtain ⟨rfl, -, rfl⟩ := runs_ofExcept.mp h
  exact ⟨rfl, rfl⟩

/-- An answer that may be a fault ends the action as the fault or with the answer. -/
theorem runs_settle {answer : Except Fault α} {outcome : Except Failure α} :
    Runs (settle answer) session exchanges outcome after ↔
      exchanges = [] ∧ outcome = answer.mapError Fault.failure ∧ after = session := by
  cases answer with
  | ok value => exact runs_pure
  | error fault => exact runs_throw

/-- An answer that may be a fault is quiet. -/
theorem quiet_settle (answer : Except Fault α) : Quiet (settle answer) := by
  intro session exchanges outcome after h
  obtain ⟨rfl, -, rfl⟩ := runs_settle.mp h
  exact ⟨rfl, rfl⟩

/-- A change of the session that may fail is quiet when it leaves the number of drawn names. -/
theorem quiet_update {change : Session → Except Failure Session}
    (hchange : ∀ s t, change s = .ok t → t.drawn = s.drawn) : Quiet (update change) := by
  intro session exchanges outcome after h
  rcases runs_ofExcept_bind.mp (runs_get_bind.mp h) with
    ⟨failure, -, rfl, -, rfl⟩ | ⟨next, hnext, hset⟩
  · exact ⟨rfl, rfl⟩
  · obtain ⟨rfl, -, rfl⟩ := runs_set.mp hset
    exact ⟨rfl, hchange _ _ hnext⟩

end WarehouseImport.Action

namespace WarehouseImport.Session

variable {session next : Session}

/-- A line in the log file draws no name. -/
theorem drawn_record {line : String} (h : session.record line = .ok next) :
    next.drawn = session.drawn := by
  unfold record at h
  split at h
  · cases h
    rfl
  · obtain ⟨file, -, h⟩ := bind_eq_ok.mp h
    rw [← Except.ok.inj h]

/-- A line on the terminal draws no name. -/
theorem drawn_display {line : String} (h : session.display line = .ok next) :
    next.drawn = session.drawn := by
  unfold display at h
  split at h
  · cases h
    rfl
  · split at h
    · cases h
      rfl
    · obtain ⟨middle, hrecord, h⟩ := bind_eq_ok.mp h
      rw [← Except.ok.inj h]
      change middle.drawn = session.drawn
      exact drawn_record hrecord

/-- A line of a level of detail draws no name. -/
theorem drawn_log {line : Option String} {detail : Option Detail} {colours : List String}
    (h : session.log line detail colours = .ok next) : next.drawn = session.drawn := by
  unfold log at h
  obtain ⟨middle, hrecord, h⟩ := bind_eq_ok.mp h
  split at h
  · exact (drawn_display h).trans (drawn_record hrecord)
  · split at h
    · exact (drawn_display h).trans (drawn_record hrecord)
    · cases h
      exact drawn_record hrecord

end WarehouseImport.Session

namespace WarehouseImport.Action

variable {α β : Type} {action : Action α} {session after : Session} {exchanges : List Exchange}

/-- A line is quiet. -/
theorem quiet_log (line : String) (detail : Option Detail) (colours : List String) :
    Quiet (log line detail colours) :=
  quiet_update fun _ _ => Session.drawn_log

/-- A line of the usual level is quiet. -/
theorem quiet_say (line : String) : Quiet (say line) := quiet_log _ _ _

/-- A notice is quiet. -/
theorem quiet_notice (text : String) (detail : Option Detail) : Quiet (notice text detail) := by
  refine Quiet.bind (quiet_modify ?_) fun _ => quiet_log _ _ _
  intro session
  rfl

/-- The time is quiet to look at. -/
theorem quiet_now : Quiet now := quiet_get.bind fun _ => quiet_pure _

/-- A line with the time is quiet. -/
theorem quiet_logTime (detail : Option Detail) (colours : List String) :
    Quiet (logTime detail colours) :=
  quiet_now.bind fun _ => (quiet_log _ _ _).bind fun _ => quiet_pure _

/-- Time that passes is quiet. -/
theorem quiet_pass (seconds : Float) : Quiet (pass seconds) := quiet_modify fun _ => rfl

/-- A finished timer is recorded quietly. -/
theorem quiet_keepTimer (timer : Timer) : Quiet (keepTimer timer) :=
  quiet_now.bind fun _ => quiet_modify fun _ => rfl

/-- The lines at the start of a step are quiet. -/
theorem quiet_beginStep (name : String) : Quiet (beginStep name) :=
  (quiet_say _).bind fun _ => (quiet_log _ _ _).bind fun _ => quiet_logTime _ _

/-- The lines at the end of a step are quiet. -/
theorem quiet_endStep (timer : Timer) (began : Int) (recorded : Bool) :
    Quiet (endStep timer began recorded) := by
  refine quiet_now.bind fun _ => (quiet_log _ _ _).bind fun _ => (quiet_log _ _ _).bind fun _ => ?_
  split
  · exact quiet_keepTimer timer
  · exact quiet_pure _

/-- A table of steps is quiet. -/
theorem quiet_logSteps (top : Int) (detail : Option Detail) : Quiet (logSteps top detail) := by
  refine quiet_get.bind fun session => ?_
  refine (quiet_forIn (session.messages.stepTable top).1 fun row => quiet_log row detail []).bind
    fun _ => ?_
  split
  · exact quiet_log _ _ _
  · exact quiet_pure _

/-- The warnings and notices at the end are quiet. -/
theorem quiet_logMessages : Quiet logMessages := by
  refine quiet_get.bind fun session => ?_
  refine (quiet_forIn session.messages.listing fun entry =>
    quiet_log entry.1 (some Detail.normal) entry.2).bind fun _ => quiet_pure _

/-- A timer starts quietly. -/
theorem quiet_startTimer (name : String) : Quiet (startTimer name) := by
  intro session exchanges outcome after h
  rcases runs_ofExcept_bind.mp (runs_get_bind.mp h) with
    ⟨failure, -, rfl, -, rfl⟩ | ⟨progress, -, hset⟩
  · exact ⟨rfl, rfl⟩
  · obtain ⟨rfl, -, rfl⟩ := runs_set.mp hset
    exact ⟨rfl, rfl⟩

/-- A timer stops quietly. -/
theorem quiet_stopTimer (name : String) : Quiet (stopTimer name) := by
  intro session exchanges outcome after h
  rcases runs_ofExcept_bind.mp (runs_get_bind.mp h) with
    ⟨failure, -, rfl, -, rfl⟩ | ⟨stopped, -, hkeeps⟩
  · exact ⟨rfl, rfl⟩
  · obtain ⟨rfl, hdrawn⟩ := quiet_keepTimer _ (runs_set_bind.mp hkeeps)
    exact ⟨rfl, hdrawn⟩

/-- Counted rows are quiet. -/
theorem quiet_addRows (count : Json) : Quiet (addRows count) := by
  refine quiet_update fun session next h => ?_
  cases hrows : session.progress.addRows count with
  | error failure => simp [hrows, Except.map] at h
  | ok progress =>
    simp only [hrows, Except.map, Except.ok.injEq] at h
    rw [← h]

/-- The columns of an import are set quietly. -/
theorem quiet_setColumns (columns : List String) : Quiet (setColumns columns) :=
  quiet_modify fun _ => rfl

/-- The import under way is quiet to look at. -/
theorem quiet_progress : Quiet progress := quiet_get.bind fun _ => quiet_pure _

/-- An import gets under way quietly. -/
theorem quiet_beginImport (staging : String) : Quiet (beginImport staging) :=
  quiet_modify fun _ => rfl

/-- Behind a quiet action the exchanges are those of what follows, unless it fails. -/
theorem Quiet.runs_bind {f : α → Action β} {outcome : Except Failure β} (haction : Quiet action)
    (h : Runs (action >>= f) session exchanges outcome after) :
    (exchanges = [] ∧ after.drawn = session.drawn ∧ ∃ failure, outcome = .error failure) ∨
      ∃ value middle, Runs action session [] (.ok value) middle ∧ middle.drawn = session.drawn ∧
        Runs (f value) middle exchanges outcome after := by
  rcases Action.runs_bind.mp h with
    ⟨failure, rfl, hf⟩ | ⟨first, value, middle, last, rfl, hv, hl⟩
  · obtain ⟨hnil, hdrawn⟩ := haction hf
    exact .inl ⟨hnil, hdrawn, failure, rfl⟩
  · obtain ⟨rfl, hdrawn⟩ := haction hv
    exact .inr ⟨value, middle, hv, hdrawn, hl⟩

/-- In front of a quiet action the exchanges are those of what went before. -/
theorem runs_bind_quiet {f : α → Action β} {outcome : Except Failure β}
    (hlast : ∀ value, Quiet (f value)) (h : Runs (action >>= f) session exchanges outcome after) :
    ∃ result middle, Runs action session exchanges result middle ∧ after.drawn = middle.drawn ∧
      ∀ value, outcome = .ok value → ∃ given, result = .ok given := by
  rcases Action.runs_bind.mp h with
    ⟨failure, rfl, hf⟩ | ⟨first, value, middle, last, rfl, hv, hl⟩
  · exact ⟨.error failure, after, hf, rfl, by simp⟩
  · obtain ⟨rfl, hdrawn⟩ := hlast value hl
    exact ⟨.ok value, middle, by simpa using hv, hdrawn, fun _ _ => ⟨value, rfl⟩⟩

end WarehouseImport.Action
