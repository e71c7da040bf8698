import WarehouseImport.Import.FromFile
import WarehouseImport.Proofs.Run.Around

/-!
# The log file in use

A line can be written as long as the log file in use takes text. Nothing but the end of a run closes
it, so it takes text all the way behind the first line that it took. Lines, the time and the tables
at the end then cannot fail.

An action that can fail for other reasons, by a check or a call, may still leave the log file open
however it ends.
-/

namespace WarehouseImport

namespace Session

variable {session next : Session}

/-- The log file in use, if there is one, takes text. -/
def Open (session : Session) : Prop := ∀ file ∈ session.logs.reverse.head?, file.isClosed = false

/-- A session of the same log files is as open. -/
theorem Open.of_logs (h : session.Open) (hlogs : next.logs = session.logs) : next.Open := by
  unfold Open
  rw [hlogs]
  exact h

/-- A file that took text takes more. -/
theorem open_of_record {line : String} (h : session.record line = .ok next) :
    session.Open ∧ next.Open := by
  unfold record at h
  unfold Open
  cases hlogs : session.logs.reverse with
  | nil =>
    simp only [hlogs, Except.ok.injEq] at h
    subst h
    simp [hlogs]
  | cons file others =>
    simp only [hlogs] at h
    cases hclosed : file.isClosed with
    | true => simp [LogFile.write, hclosed, bind, Except.bind] at h
    | false =>
      simp only [LogFile.write, hclosed, bind, Except.bind, pure, Except.pure, Bool.false_eq_true,
        if_false, Except.ok.injEq] at h
      subst h
      simp [hclosed]

/-- An open file takes a line. -/
theorem Open.record (h : session.Open) (line : String) :
    ∃ next, session.record line = .ok next ∧ next.Open := by
  have hrecords : ∃ next, session.record line = .ok next := by
    unfold Session.record
    unfold Open at h
    cases hlogs : session.logs.reverse with
    | nil => exact ⟨session, rfl⟩
    | cons file others =>
      rw [hlogs] at h
      have hclosed : file.isClosed = false := h file (by simp)
      simp [LogFile.write, hclosed, bind, Except.bind, pure, Except.pure]
  obtain ⟨next, hnext⟩ := hrecords
  exact ⟨next, hnext, (open_of_record hnext).2⟩

/-- With an open file a line reaches the terminal, or the loss of it is noted. -/
theorem Open.display (h : session.Open) (line : String) :
    ∃ next, session.display line = .ok next ∧ next.Open := by
  unfold Session.display
  split
  · exact ⟨session, rfl, h⟩
  · split
    · exact ⟨_, rfl, h.of_logs rfl⟩
    · obtain ⟨noted, hnoted, hopen⟩ := h.record ("Disabling STDOUT logging due to: " ++
        Terminal.lostText)
      refine ⟨{ noted with terminalLost := true }, ?_, hopen.of_logs rfl⟩
      rw [hnoted]
      rfl

/-- With an open file a line of any level of detail is written. -/
theorem Open.log (h : session.Open) (line : Option String) (detail : Option Detail)
    (colours : List String) : ∃ next, session.log line detail colours = .ok next ∧ next.Open := by
  obtain ⟨recorded, hrecorded, hopen⟩ := h.record (line.getD "")
  unfold Session.log
  simp only [hrecorded, bind, Except.bind]
  split
  · exact hopen.display _
  · split
    · exact hopen.display _
    · exact ⟨recorded, rfl, hopen⟩

/-- A line was written to an open file. -/
theorem open_of_log {line : Option String} {detail : Option Detail} {colours : List String}
    (h : session.log line detail colours = .ok next) : session.Open := by
  obtain ⟨recorded, hrecord, -⟩ := bind_eq_ok.mp h
  exact (open_of_record hrecord).1

end Session

namespace Action

variable {α β : Type} {action : Action α} {session after : Session} {exchanges : List Exchange}
  {outcome : Except Failure α}

/-- Every run leaves the log file open. -/
def Steady (action : Action α) : Prop :=
  ∀ ⦃session exchanges outcome after⦄, Runs action session exchanges outcome after →
    session.Open → after.Open

/-- Every run with an open log file ends well and leaves it open. -/
def Sure (action : Action α) : Prop :=
  ∀ ⦃session exchanges outcome after⦄, Runs action session exchanges outcome after →
    session.Open → outcome.isOk = true ∧ after.Open

/-- What ends well leaves the log file open. -/
theorem Sure.steady (h : Sure action) : Steady action :=
  fun _ _ _ _ hrun hopen => (h hrun hopen).2

/-- A value is sure. -/
theorem sure_pure (value : α) : Sure (pure value) := by
  intro session exchanges outcome after h hopen
  obtain ⟨-, rfl, rfl⟩ := runs_pure.mp h
  exact ⟨rfl, hopen⟩

/-- A failure leaves the log file open. -/
theorem steady_throw (failure : Failure) : Steady (throw failure : Action α) := by
  intro session exchanges outcome after h hopen
  obtain ⟨-, -, rfl⟩ := runs_throw.mp h
  exact hopen

/-- A question is sure, whatever the answer. -/
theorem sure_ask (call : Call) : Sure (ask call) := by
  intro session exchanges outcome after h hopen
  obtain ⟨answer, -, rfl, rfl⟩ := runs_ask.mp h
  exact ⟨rfl, hopen⟩

/-- Looking at the session is sure. -/
theorem sure_get : Sure get := by
  intro session exchanges outcome after h hopen
  obtain ⟨-, rfl, rfl⟩ := runs_get.mp h
  exact ⟨rfl, hopen⟩

/-- A change of the session that leaves the log files is sure. -/
theorem sure_modify {change : Session → Session} (hlogs : ∀ s, (change s).logs = s.logs) :
    Sure (modify change : Action PUnit) := by
  intro session exchanges outcome after h hopen
  cases h
  exact ⟨rfl, hopen.of_logs (hlogs session)⟩

/-- A sequence of sure actions is sure. -/
theorem Sure.bind {f : α → Action β} (hfirst : Sure action) (hlast : ∀ value, Sure (f value)) :
    Sure (action >>= f) := by
  intro session exchanges outcome after h hopen
  rcases runs_bind.mp h with ⟨failure, rfl, hf⟩ | ⟨first, value, middle, last, rfl, hv, hl⟩
  · cases (hfirst hf hopen).1
  · exact hlast value hl (hfirst hv hopen).2

/-- With an open log file a sequence goes on behind what is quiet and sure. -/
theorem Sure.runs_bind {f : α → Action β} {outcome : Except Failure β} (hsure : Sure action)
    (hquiet : Quiet action) (h : Runs (action >>= f) session exchanges outcome after)
    (hopen : session.Open) :
    ∃ value middle, middle.Open ∧ Runs (f value) middle exchanges outcome after := by
  rcases Action.runs_bind.mp h with
    ⟨failure, rfl, hf⟩ | ⟨first, value, middle, last, rfl, hv, hl⟩
  · cases (hsure hf hopen).1
  · obtain ⟨rfl, -⟩ := hquiet hv
    exact ⟨value, middle, (hsure hv hopen).2, hl⟩

/-- A sequence leaves the log file open if its parts do. -/
theorem Steady.bind {f : α → Action β} (hfirst : Steady action)
    (hlast : ∀ value, Steady (f value)) : Steady (action >>= f) := by
  intro session exchanges outcome after h hopen
  rcases runs_bind.mp h with ⟨failure, rfl, hf⟩ | ⟨first, value, middle, last, rfl, hv, hl⟩
  · exact hfirst hf hopen
  · exact hlast value hl (hfirst hv hopen)

/-- Nothing comes behind a failure, so the log file stays open. -/
theorem steady_throw_bind (failure : Failure) (f : α → Action β) :
    Steady (throw failure >>= f) := by
  intro session exchanges outcome after h hopen
  obtain ⟨-, -, rfl⟩ := runs_throw_bind h
  exact hopen

/-- Another value leaves the log file as open. -/
theorem Steady.map {f : α → β} (haction : Steady action) : Steady (f <$> action) := by
  intro session exchanges outcome after h hopen
  obtain ⟨result, -, hr⟩ := runs_map.mp h
  exact haction hr hopen

/-- A handler leaves the log file open if it does so itself. -/
theorem Steady.tryCatch {handle : Failure → Action α} (haction : Steady action)
    (hhandle : ∀ failure, Steady (handle failure)) : Steady (tryCatch action handle) := by
  intro session exchanges outcome after h hopen
  rcases runs_tryCatch.mp h with ⟨value, rfl, hv⟩ | ⟨first, failure, middle, last, rfl, hf, hl⟩
  · exact haction hv hopen
  · exact hhandle failure hl (haction hf hopen)

/-- A cleanup leaves the log file open if it does so itself. -/
theorem Steady.afterwards {last : Action Unit} (haction : Steady action) (hlast : Steady last) :
    Steady (Action.afterwards action last) := by
  intro session exchanges outcome after h hopen
  obtain ⟨first, result, middle, rest, cleaned, -, hr, hc, -⟩ := runs_afterwards.mp h
  exact hlast hc (haction hr hopen)

/-- A loop of sure actions is sure. -/
theorem sure_forIn {ι : Type} (items : List ι) {body : ι → Action PUnit}
    (hbody : ∀ item, Sure (body item)) :
    Sure (forIn items PUnit.unit fun item _ => do
      body item
      pure (ForInStep.yield PUnit.unit)) := by
  induction items with
  | nil => exact sure_pure _
  | cons item rest ih =>
    rw [List.forIn_cons]
    refine Sure.bind (Sure.bind (hbody item) fun _ => sure_pure _) fun step => ?_
    cases step with
    | done value => exact sure_pure _
    | yield value => exact ih

/-- A result that may be a failure leaves the log file open. -/
theorem steady_ofExcept (result : Except Failure α) : Steady (ofExcept result) := by
  intro session exchanges outcome after h hopen
  obtain ⟨-, -, rfl⟩ := runs_ofExcept.mp h
  exact hopen

/-- An answer that may be a fault leaves the log file open. -/
theorem steady_settle (answer : Except Fault α) : Steady (settle answer) := by
  intro session exchanges outcome after h hopen
  obtain ⟨-, -, rfl⟩ := runs_settle.mp h
  exact hopen

/-- What is made of the session leaves the log file open if what is done with it does. -/
theorem steady_get_ofExcept {f : Session → Except Failure β} {next : Session → β → Action α}
    (hnext : ∀ ⦃session value⦄, f session = .ok value → ∀ ⦃exchanges outcome after⦄,
      Runs (next session value) session exchanges outcome after → session.Open → after.Open) :
    Steady (get >>= fun session => ofExcept (f session) >>= next session) := by
  intro session exchanges outcome after h hopen
  rcases runs_ofExcept_bind.mp (runs_get_bind.mp h) with
    ⟨failure, -, -, -, rfl⟩ | ⟨value, hmade, hrest⟩
  · exact hopen
  · exact hnext hmade hrest hopen

/-- A line is written in one go: it leaves what the session makes of it, or its failure. -/
theorem runs_log {line : String} {detail : Option Detail} {colours : List String}
    {outcome : Except Failure Unit}
    (h : Runs (log line detail colours) session exchanges outcome after) :
    exchanges = [] ∧ ((∃ failure, session.log (some line) detail colours = .error failure ∧
      outcome = .error failure) ∨
      (session.log (some line) detail colours = .ok after ∧ outcome = .ok ())) := by
  rcases runs_ofExcept_bind.mp (runs_get_bind.mp h) with
    ⟨failure, hfailure, rfl, rfl, -⟩ | ⟨next, hnext, hset⟩
  · exact ⟨rfl, .inl ⟨failure, hfailure, rfl⟩⟩
  · obtain ⟨rfl, rfl, rfl⟩ := runs_set.mp hset
    exact ⟨rfl, .inr ⟨hnext, rfl⟩⟩

/-- A line is sure. -/
theorem sure_log (line : String) (detail : Option Detail) (colours : List String) :
    Sure (log line detail colours) := by
  intro session exchanges outcome after h hopen
  obtain ⟨next, hnext, hopen'⟩ := hopen.log (some line) detail colours
  obtain ⟨-, ⟨failure, hfailure, -⟩ | ⟨hafter, rfl⟩⟩ := runs_log h
  · cases hnext.symm.trans hfailure
  · obtain rfl := Except.ok.inj (hafter.symm.trans hnext)
    exact ⟨rfl, hopen'⟩

/-- The log file takes text when it took a line. -/
theorem open_of_runs_say {line : String} (h : Runs (say line) session exchanges (.ok ()) after) :
    after.Open := by
  have hopen : session.Open := by
    obtain ⟨-, ⟨failure, -, hfailure⟩ | ⟨hafter, -⟩⟩ := runs_log h
    · cases hfailure
    · exact Session.open_of_log hafter
  exact (sure_log _ _ _ h hopen).2

/-- A line of the usual level is sure. -/
theorem sure_say (line : String) : Sure (say line) := sure_log _ _ _

/-- A notice is sure. -/
theorem sure_notice (text : String) (detail : Option Detail) : Sure (notice text detail) := by
  refine Sure.bind (sure_modify ?_) fun _ => sure_log _ _ _
  intro session
  rfl

/-- The time is sure to look at. -/
theorem sure_now : Sure now := sure_get.bind fun _ => sure_pure _

/-- A line with the time is sure. -/
theorem sure_logTime (detail : Option Detail) (colours : List String) :
    Sure (logTime detail colours) :=
  sure_now.bind fun _ => (sure_log _ _ _).bind fun _ => sure_pure _

/-- Time that passes is sure. -/
theorem sure_pass (seconds : Float) : Sure (pass seconds) := sure_modify fun _ => rfl

/-- A finished timer is recorded for sure. -/
theorem sure_keepTimer (timer : Timer) : Sure (keepTimer timer) :=
  sure_now.bind fun _ => sure_modify fun _ => rfl

/-- The lines at the start of a step are sure. -/
theorem sure_beginStep (name : String) : Sure (beginStep name) :=
  (sure_say _).bind fun _ => (sure_log _ _ _).bind fun _ => sure_logTime _ _

/-- The lines at the end of a step are sure. -/
theorem sure_endStep (timer : Timer) (began : Int) (recorded : Bool) :
    Sure (endStep timer began recorded) := by
  refine sure_now.bind fun _ => (sure_log _ _ _).bind fun _ => (sure_log _ _ _).bind fun _ => ?_
  split
  · exact sure_keepTimer timer
  · exact sure_pure _

/-- A step leaves the log file open if its body does. -/
theorem Steady.step {body : Action α} (h : Steady body) (name : String) (recorded : Bool) :
    Steady (Action.step name recorded body) := by
  unfold Action.step
  split
  · exact steady_throw_bind _ _
  · refine (sure_beginStep _).steady.bind fun _ => sure_now.steady.bind fun _ => ?_
    refine Steady.tryCatch ?_ fun failure => ?_
    · exact h.bind fun _ => (sure_endStep _ _ _).steady.bind fun _ => (sure_pure _).steady
    · exact sure_now.steady.bind fun _ => (sure_log _ _ _).steady.bind fun _ => steady_throw _

/-- A timer that starts leaves the log file open. -/
theorem steady_startTimer (name : String) : Steady (startTimer name) := by
  refine steady_get_ofExcept fun session progress _ exchanges outcome after h hopen => ?_
  obtain ⟨-, -, rfl⟩ := runs_set.mp h
  exact hopen.of_logs rfl

/-- A timer that stops leaves the log file open. -/
theorem steady_stopTimer (name : String) : Steady (stopTimer name) := by
  refine steady_get_ofExcept fun session stopped _ exchanges outcome after h hopen => ?_
  rcases runs_bind.mp h with ⟨failure, rfl, hf⟩ | ⟨first, ⟨⟩, middle, last, rfl, hset, hkept⟩
  · cases (runs_set.mp hf).2.1
  obtain ⟨-, -, rfl⟩ := runs_set.mp hset
  exact (sure_keepTimer _ hkept (hopen.of_logs rfl)).2

/-- A timed action leaves the log file open if the action does. -/
theorem Steady.timed (h : Steady action) (name : String) : Steady (Action.timed name action) :=
  (steady_startTimer name).bind fun _ => h.bind fun _ => (steady_stopTimer name).bind fun _ =>
    (sure_pure _).steady

/-- Counted rows leave the log file open. -/
theorem steady_addRows (count : Json) : Steady (addRows count) := by
  refine steady_get_ofExcept fun session next hnext exchanges outcome after h hopen => ?_
  obtain ⟨-, -, rfl⟩ := runs_set.mp h
  cases hrows : session.progress.addRows count with
  | error failure => simp [hrows, Except.map] at hnext
  | ok progress =>
    simp only [hrows, Except.map, Except.ok.injEq] at hnext
    exact hopen.of_logs (by rw [← hnext])

/-- The columns of an import are set for sure. -/
theorem sure_setColumns (columns : List String) : Sure (setColumns columns) :=
  sure_modify fun _ => rfl

/-- The import under way is sure to look at. -/
theorem sure_progress : Sure progress := sure_get.bind fun _ => sure_pure _

/-- An import gets under way for sure. -/
theorem sure_beginImport (staging : String) : Sure (beginImport staging) :=
  sure_modify fun _ => rfl

/-- A name is drawn for sure. -/
theorem sure_drawName (beginning : String) : Sure (drawName beginning) := by
  intro session exchanges outcome after h hopen
  cases h
  exact ⟨rfl, hopen.of_logs rfl⟩

/-- The table of steps is sure. -/
theorem sure_logSteps (top : Int) (detail : Option Detail) : Sure (logSteps top detail) := by
  refine sure_get.bind fun session => ?_
  refine (sure_forIn (session.messages.stepTable top).1 fun row => sure_log row detail []).bind
    fun _ => ?_
  split
  · exact sure_log _ _ _
  · exact sure_pure _

/-- The warnings and notices at the end are sure. -/
theorem sure_logMessages : Sure logMessages := by
  refine sure_get.bind fun session => ?_
  exact (sure_forIn session.messages.listing fun entry =>
    sure_log entry.1 (some Detail.normal) entry.2).bind fun _ => sure_pure _

end Action

end WarehouseImport
