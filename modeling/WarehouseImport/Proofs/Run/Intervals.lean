import Mathlib.Data.List.Induction
import Mathlib.Data.List.TakeWhile
import WarehouseImport.Proofs.Run.Quiet

/-!
# The intervals of timers

An import keeps the latest interval of each of its timers, while the messages of the run count every
stop that is taken. Both are read off the calls that were made: what a timer does depends on the
switches of its name from the first start on, and on nothing that is done to other timers.

A start begins an interval, unless one is running: then it is refused. A stop ends the running
interval, and it is refused only if there was no start at all. So a stop that comes next behind
another one is taken as well; it ends nothing and is counted again. The count of a name is therefore
the number of its intervals that have ended exactly if no stop of it came next behind another one,
while the list of finished timers has each name once, in the order of the first starts, if its
latest interval has ended.

The invariant is `Session.Records`. One call keeps it (`Session.Records.call`), whether it is taken
or refused, and so does any number of calls (`Session.Records.attempts`).
-/

namespace WarehouseImport

open WarehouseImport.Action

/-- How often the time of a step was recorded. -/
def Messages.timesKept (messages : Messages) (name : String) : Nat :=
  ((messages.steps.find? fun total => total.name == name).map StepTotal.count).getD 0

/-- A recorded step counts once more, and no other one does. -/
theorem Messages.timesKept_addStep (messages : Messages) (name other : String)
    (duration : Duration) :
    (messages.addStep name duration).timesKept other =
      messages.timesKept other + if other = name then 1 else 0 := by
  unfold timesKept addStep
  dsimp only
  induction messages.steps with
  | nil =>
    by_cases hsame : other = name
    · simp [addTo, hsame]
    · simp [addTo, hsame, Ne.symm hsame]
  | cons total rest ih =>
    by_cases htotal : total.name = name
    · by_cases hsame : other = name
      · simp [addTo, htotal, hsame]
      · simp [addTo, htotal, hsame, Ne.symm hsame]
    · by_cases hother : total.name = other
      · simp [addTo, hother, hother ▸ htotal]
      · simpa [addTo, htotal, List.find?_cons, hother] using ih

/-- What is done to a timer. -/
inductive Switch where
  | start
  | stop
  deriving DecidableEq, Repr

namespace Switch

/-- Whether a timer runs behind its switches: the last of them is a start. -/
def running (switches : List Switch) : Bool := switches.getLast? == some start

/-- How often one switch comes next behind another one. -/
def followed (first second : Switch) (switches : List Switch) : Nat :=
  (switches.zip switches.tail).count (first, second)

/-- The number of intervals that have ended. A start during an interval does not begin another one,
and the next stop ends it; so each of these intervals ends with a stop that comes next behind a
start. -/
def ended (switches : List Switch) : Nat := followed start stop switches

/-- The number of stops that find their interval ended already. -/
def repeated (switches : List Switch) : Nat := followed stop stop switches

/-- The number of stops that are taken. -/
def stops (switches : List Switch) : Nat := ended switches + repeated switches

/-- The last switch decides whether a timer runs. -/
@[simp]
theorem running_concat (switches : List Switch) (switch : Switch) :
    running (switches ++ [switch]) = (switch == start) := by
  simp [running]

/-- A switch at the end comes next behind the one that was the last. -/
theorem followed_concat (first second : Switch) (switches : List Switch) (switch : Switch) :
    followed first second (switches ++ [switch]) =
      followed first second switches +
        if switches.getLast? = some first ∧ switch = second then 1 else 0 := by
  unfold followed
  induction switches with
  | nil => simp
  | cons head rest ih =>
    cases rest with
    | nil => by_cases hhead : head = first <;> by_cases hlast : switch = second <;> simp [*]
    | cons next rest =>
      simp only [List.cons_append, List.tail_cons, List.zip_cons_cons, List.count_cons] at ih ⊢
      rw [ih, List.getLast?_cons_cons]
      omega

/-- One switch never comes next behind another one exactly if they do not stand in a row. -/
theorem followed_eq_zero_iff {first second : Switch} {switches : List Switch} :
    followed first second switches = 0 ↔ ¬ [first, second] <:+: switches := by
  unfold followed
  induction switches with
  | nil => simp
  | cons head rest ih =>
    cases rest with
    | nil => simp [List.infix_cons_iff, List.cons_prefix_cons]
    | cons next rest =>
      rw [List.infix_cons_iff, not_or, ← ih]
      simp only [List.tail_cons, List.zip_cons_cons, List.count_cons, List.cons_prefix_cons,
        List.nil_prefix, and_true, beq_iff_eq, Prod.mk.injEq]
      by_cases hpair : first = head ∧ second = next
      · simp [hpair]
      · simp [hpair, eq_comm]

/-- A start stops nothing. -/
theorem stops_concat_start (switches : List Switch) :
    stops (switches ++ [start]) = stops switches := by
  simp [stops, ended, repeated, followed_concat]

/-- A stop behind other switches is one more, whichever of them is the last. -/
theorem stops_concat_stop {switches : List Switch} (h : switches ≠ []) :
    stops (switches ++ [stop]) = stops switches + 1 := by
  obtain ⟨last, hlast⟩ := Option.ne_none_iff_exists'.mp (mt List.getLast?_eq_none_iff.mp h)
  unfold stops ended repeated
  rw [followed_concat, followed_concat, hlast]
  cases last <;> simp <;> omega

end Switch

/-- A switch of the timer of a name, or some seconds that pass before the next one. -/
inductive TimerCall where
  | switch (switch : Switch) (name : String)
  | pass (seconds : Float)

namespace TimerCall

open Switch

/-- What the call does to the import under way. -/
def action : TimerCall → Action Unit
  | switch .start name => startTimer name
  | switch .stop name => stopTimer name
  | pass seconds => Action.pass seconds

/-- Makes calls one after another, whether or not the ones before failed. -/
def attempts : List TimerCall → Action Unit
  | [] => pure ()
  | call :: calls => do
    tryCatch call.action fun _ => pure ()
    attempts calls

/-- Makes calls on the timers of an import that gets under way with a staging table. -/
def underWay (staging : String) (calls : List TimerCall) : Action Unit := do
  beginImport staging
  attempts calls

/-- The switch of the timer of a name that the call is, if it is one. -/
def switch? (name : String) : TimerCall → Option Switch
  | switch made other => if other = name then some made else none
  | pass _ => none

/-- The switches of a name from its first start on. The stops before it are refused. -/
def switches (name : String) (calls : List TimerCall) : List Switch :=
  (calls.filterMap (switch? name)).dropWhile (· == .stop)

/-- The name of the timer that the call starts, if it does. -/
def started? : TimerCall → Option String
  | switch .start name => some name
  | _ => none

/-- The names of the timers that were started, in the order of the first starts. -/
def started (calls : List TimerCall) : List String := (calls.filterMap started?).eraseDups

/-- How a call ends behind other ones: a timer that runs cannot be started, and one that was never
started cannot be stopped. -/
def verdict (before : List TimerCall) : TimerCall → Except Failure Unit
  | switch .start name =>
    if running (switches name before) then .error (.timerRunning name) else .ok ()
  | switch .stop name =>
    if switches name before = [] then .error (.timerNotStarted name) else .ok ()
  | pass _ => .ok ()

variable {calls : List TimerCall} {call : TimerCall} {name other : String}

/-- A call that switches no timer of the name leaves its switches. -/
theorem switches_concat_of_none (h : call.switch? name = none) :
    switches name (calls ++ [call]) = switches name calls := by
  simp [switches, h]

/-- So does a switch of another name. -/
theorem switches_concat_of_ne (made : Switch) (h : other ≠ name) :
    switches other (calls ++ [switch made name]) = switches other calls :=
  switches_concat_of_none (if_neg (Ne.symm h))

/-- A start comes behind the switches of its name. -/
theorem switches_concat_start :
    switches name (calls ++ [switch .start name]) = switches name calls ++ [.start] := by
  simp only [switches, List.filterMap_append, List.dropWhile_append, List.isEmpty_iff]
  split <;> simp [switch?, *]

/-- A stop comes behind them if there are any. -/
theorem switches_concat_stop (h : switches name calls ≠ []) :
    switches name (calls ++ [switch .stop name]) = switches name calls ++ [.stop] := by
  unfold switches at h ⊢
  simp [List.dropWhile_append, h, switch?]

/-- A stop before the first start plays no part. -/
theorem switches_concat_stop_of_nil (h : switches name calls = []) (other : String) :
    switches other (calls ++ [switch .stop name]) = switches other calls := by
  by_cases hsame : other = name
  · subst hsame
    unfold switches at h ⊢
    simp [List.dropWhile_append, h, switch?]
  · exact switches_concat_of_ne .stop hsame

/-- No start is a stop of any name. -/
theorem stops_concat_start_call (name other : String) :
    stops (switches other (calls ++ [switch .start name])) = stops (switches other calls) := by
  by_cases hsame : other = name
  · rw [hsame, switches_concat_start, stops_concat_start]
  · rw [switches_concat_of_ne .start hsame]

/-- A start of a timer that runs changes nothing about which timers run. -/
theorem running_concat_start_call (h : running (switches name calls) = true) (other : String) :
    running (switches other (calls ++ [switch .start name])) = running (switches other calls) := by
  by_cases hsame : other = name
  · rw [hsame, switches_concat_start, running_concat, h]
    rfl
  · rw [switches_concat_of_ne .start hsame]

/-- A call starts a timer exactly if it is a start among the switches of its name. -/
theorem started?_eq_some : call.started? = some name ↔ call.switch? name = some .start := by
  rcases call with ⟨_ | _, other⟩ | seconds <;> simp [started?, switch?]

/-- A name has switches exactly if its timer was started. -/
theorem switches_ne_nil : switches name calls ≠ [] ↔ name ∈ started calls := by
  have hstops : switches name calls = [] ↔ .start ∉ calls.filterMap (switch? name) := by
    rw [switches, List.dropWhile_eq_nil_iff]
    constructor
    · intro hstop hstart
      exact absurd (hstop _ hstart) (by decide)
    · intro hstart made hmade
      cases made with
      | start => exact absurd hmade hstart
      | stop => rfl
  simp only [ne_eq, hstops, not_not, List.mem_filterMap, started, List.mem_eraseDups,
    started?_eq_some]

/-- A timer that runs was started. -/
theorem mem_started_of_running (h : running (switches name calls) = true) :
    name ∈ started calls := by
  refine switches_ne_nil.mp fun hnil => ?_
  rw [hnil] at h
  cases h

/-- A name that is started for the first time comes last. -/
theorem started_concat_of_some (h : call.started? = some name) :
    started (calls ++ [call]) =
      if name ∈ started calls then started calls else started calls ++ [name] := by
  simp only [started, List.filterMap_append, List.eraseDups_append, List.mem_eraseDups]
  split <;> simp_all [List.removeAll, List.eraseDups_cons]

/-- A call that starts no timer adds no name. -/
theorem started_concat_of_none (h : call.started? = none) :
    started (calls ++ [call]) = started calls := by
  simp [started, h]

/-- No name is listed twice. -/
theorem nodup_started (calls : List TimerCall) : (started calls).Nodup := by
  induction calls using List.reverseRecOn with
  | nil => exact List.nodup_nil
  | append_singleton calls call ih =>
    cases hstarted : call.started? with
    | none => rwa [started_concat_of_none hstarted]
    | some name =>
      rw [started_concat_of_some hstarted]
      split
      · exact ih
      · next hnew =>
        refine List.nodup_append.mpr ⟨ih, by simp, ?_⟩
        simpa using fun other hother => ne_of_mem_of_not_mem hother hnew

end TimerCall

open Switch TimerCall

namespace Progress

/-- The finished timers are those that do not run. -/
theorem map_name_finished (progress : Progress) :
    progress.finished.map FinishedTimer.name =
      (progress.timers.filter fun timer => !timer.isRunning).map Timer.name := by
  unfold finished
  induction progress.timers with
  | nil => rfl
  | cons timer rest ih =>
    cases hduration : timer.duration <;> simpa [Timer.isRunning, hduration] using ih

/-- The timers of an import are those that were started, in the order of their first starts, and
each of them runs or not as its switches say. -/
structure Tells (progress : Progress) (calls : List TimerCall) : Prop where
  order : progress.timers.map Timer.name = started calls
  runs : ∀ timer ∈ progress.timers, timer.isRunning = running (switches timer.name calls)

variable {progress : Progress} {calls : List TimerCall} {call : TimerCall} {name : String}

/-- A timer is found under its name once it was started. -/
theorem Tells.map_timer? (h : progress.Tells calls) (name : String) :
    (progress.timer? name).map Timer.isRunning =
      if switches name calls = [] then none else some (running (switches name calls)) := by
  cases hfound : progress.timer? name with
  | none =>
    have hnew : name ∉ started calls := by
      rw [← h.order, List.mem_map]
      rintro ⟨timer, hmem, hname⟩
      exact List.find?_eq_none.mp hfound timer hmem (beq_iff_eq.mpr hname)
    rw [if_pos (not_not.mp (mt switches_ne_nil.mp hnew))]
    rfl
  | some timer =>
    have hmem := List.mem_of_find?_eq_some hfound
    have hname : timer.name = name := by simpa using List.find?_some hfound
    have hstarted : name ∈ started calls := by
      rw [← h.order, ← hname]
      exact List.mem_map_of_mem hmem
    rw [if_neg (switches_ne_nil.mpr hstarted), Option.map_some, h.runs timer hmem, hname]

/-- A timer can be started unless it runs. -/
theorem Tells.start_eq (h : progress.Tells calls) (name : String) (now : Float) :
    progress.start name now =
      if running (switches name calls) then .error (.timerRunning name)
      else .ok (progress.putTimer (Timer.begin name now)) := by
  have hguard : ((progress.timer? name).map Timer.isRunning).getD false =
      running (switches name calls) := by
    rw [h.map_timer?]
    split
    · next hnil =>
      rw [hnil]
      rfl
    · rfl
  rw [start, hguard]

/-- A timer that was never started cannot be stopped. -/
theorem Tells.stop_eq_error (h : progress.Tells calls) (hnil : switches name calls = [])
    (now : Float) : progress.stop name now = .error (.timerNotStarted name) := by
  have hnone := h.map_timer? name
  rw [if_pos hnil, Option.map_eq_none_iff] at hnone
  rw [stop, hnone]

/-- A timer that was started can be stopped, whether it runs or not. -/
theorem Tells.stop_eq_ok (h : progress.Tells calls) (hstarted : switches name calls ≠ [])
    (now : Float) : ∃ timer : Timer, timer.name = name ∧
      progress.stop name now = .ok (progress.putTimer (timer.stop now), timer.stop now) := by
  have hsome := h.map_timer? name
  rw [if_neg hstarted, Option.map_eq_some_iff] at hsome
  obtain ⟨timer, hfound, -⟩ := hsome
  exact ⟨timer, by simpa using List.find?_some hfound, by rw [stop, hfound]⟩

/-- A timer that is switched takes its place, and the others stay as they are. -/
theorem Tells.put (h : progress.Tells calls) (timer : Timer) {made : Switch}
    (hswitches : switches timer.name (calls ++ [.switch made timer.name]) =
      switches timer.name calls ++ [made])
    (hstarted : started (calls ++ [.switch made timer.name]) =
      if timer.name ∈ started calls then started calls else started calls ++ [timer.name])
    (hrunning : timer.isRunning = (made == .start)) :
    (progress.putTimer timer).Tells (calls ++ [.switch made timer.name]) := by
  refine ⟨?_, fun other hother => ?_⟩
  · rw [hstarted, ← h.order]
    exact Keyed.map_put _ _ _
  · -- No two timers share a name, so the one that was put is the only one of its name.
    have hdistinct : (progress.timers.map Timer.name).Nodup := h.order ▸ nodup_started calls
    rcases Keyed.eq_or_mem_of_mem_put hdistinct hother with rfl | ⟨hmem, hname⟩
    · rw [hswitches, hrunning, running_concat]
    · rw [switches_concat_of_ne made hname, h.runs other hmem]

/-- A call that changes no timer leaves what they tell. -/
theorem Tells.skip (h : progress.Tells calls) (hstarted : started (calls ++ [call]) = started calls)
    (hrunning : ∀ name, running (switches name (calls ++ [call])) =
      running (switches name calls)) : progress.Tells (calls ++ [call]) :=
  ⟨h.order.trans hstarted.symm, fun timer hmem => (h.runs timer hmem).trans (hrunning _).symm⟩

/-- The finished timers are those that were started and do not run. -/
theorem Tells.map_name_finished (h : progress.Tells calls) :
    progress.finished.map FinishedTimer.name =
      (started calls).filter fun name => !running (switches name calls) := by
  rw [Progress.map_name_finished, ← h.order, List.filter_map]
  refine congrArg _ (List.filter_congr fun timer hmem => ?_)
  rw [h.runs timer hmem]
  rfl

end Progress

namespace Action

variable {session : Session} {progress : Progress} {timer : Timer} {name : String}
  {failure : Failure}

/-- A timer that can be started is put among those of the import. -/
theorem runs_startTimer_of_ok (h : session.progress.start name session.clock = .ok progress) :
    Runs (startTimer name) session [] (.ok ()) { session with progress := progress } :=
  runs_get_bind.mpr (runs_ofExcept_bind.mpr (.inr ⟨progress, h, runs_set.mpr ⟨rfl, rfl, rfl⟩⟩))

/-- A timer that cannot be started leaves the session. -/
theorem runs_startTimer_of_error
    (h : session.progress.start name session.clock = .error failure) :
    Runs (startTimer name) session [] (.error failure) session :=
  runs_get_bind.mpr (runs_ofExcept_bind.mpr (.inl ⟨failure, h, rfl, rfl, rfl⟩))

/-- A timer that can be stopped is put among those of the import, and its time is recorded. -/
theorem runs_stopTimer_of_ok
    (h : session.progress.stop name session.clock = .ok (progress, timer)) :
    Runs (stopTimer name) session [] (.ok ())
      (({ session with progress := progress } : Session).keepStep timer.name
        (Duration.ofSeconds (timer.elapsed session.clock))) :=
  runs_get_bind.mpr (runs_ofExcept_bind.mpr (.inr ⟨(progress, timer), h,
    runs_set_bind.mpr (.done _)⟩))

/-- A timer that cannot be stopped leaves the session. -/
theorem runs_stopTimer_of_error
    (h : session.progress.stop name session.clock = .error failure) :
    Runs (stopTimer name) session [] (.error failure) session :=
  runs_get_bind.mpr (runs_ofExcept_bind.mpr (.inl ⟨failure, h, rfl, rfl, rfl⟩))

end Action

namespace Session

/-- What a session has recorded of the timers behind calls, since an earlier one in which the import
got under way: the timers themselves, and each stop of them that was taken. -/
structure Records (begun session : Session) (calls : List TimerCall) : Prop where
  timers : session.progress.Tells calls
  counted : ∀ name, session.messages.timesKept name =
    begun.messages.timesKept name + stops (switches name calls)

variable {begun session : Session} {calls : List TimerCall}

/-- An import that gets under way has no timers yet. -/
theorem records_begin (session : Session) (staging : String) :
    Records session { session with progress := { staging := staging } } [] :=
  ⟨⟨rfl, by simp⟩, fun _ => rfl⟩

/-- A timer is started unless it runs, and nothing is counted. -/
theorem Records.start (h : Records begun session calls) (name : String) :
    ∃ after, Runs (startTimer name) session [] (verdict calls (.switch .start name)) after ∧
      ((verdict calls (.switch .start name)).isOk = false → after = session) ∧
      Records begun after (calls ++ [.switch .start name]) := by
  have hstarts := h.timers.start_eq name session.clock
  have hstarted : started (calls ++ [.switch .start name]) = _ := started_concat_of_some rfl
  have hcounted (other : String) : session.messages.timesKept other =
      begun.messages.timesKept other +
        stops (switches other (calls ++ [.switch .start name])) := by
    rw [stops_concat_start_call]
    exact h.counted other
  by_cases hrunning : running (switches name calls) = true
  · rw [if_pos hrunning] at hstarts
    rw [if_pos (mem_started_of_running hrunning)] at hstarted
    rw [verdict, if_pos hrunning]
    refine ⟨session, runs_startTimer_of_error hstarts, fun _ => rfl, ?_, hcounted⟩
    exact h.timers.skip hstarted (running_concat_start_call hrunning)
  · rw [if_neg hrunning] at hstarts
    rw [verdict, if_neg hrunning]
    refine ⟨_, runs_startTimer_of_ok hstarts, nofun, ?_, hcounted⟩
    exact h.timers.put (Timer.begin name session.clock) switches_concat_start hstarted rfl

/-- A timer is stopped once it was started, and each time it is counted. -/
theorem Records.stop (h : Records begun session calls) (name : String) :
    ∃ after, Runs (stopTimer name) session [] (verdict calls (.switch .stop name)) after ∧
      ((verdict calls (.switch .stop name)).isOk = false → after = session) ∧
      Records begun after (calls ++ [.switch .stop name]) := by
  have hstarted : started (calls ++ [.switch .stop name]) = _ := started_concat_of_none rfl
  by_cases hnil : switches name calls = []
  · have hsame := switches_concat_stop_of_nil hnil
    rw [verdict, if_pos hnil]
    refine ⟨session, runs_stopTimer_of_error (h.timers.stop_eq_error hnil _), fun _ => rfl, ?_,
      fun other => ?_⟩
    · exact h.timers.skip hstarted fun other => by rw [hsame]
    · rw [hsame]
      exact h.counted other
  · obtain ⟨timer, rfl, hstops⟩ := h.timers.stop_eq_ok hnil session.clock
    rw [verdict, if_neg hnil]
    refine ⟨_, runs_stopTimer_of_ok hstops, nofun, ?_, fun other => ?_⟩
    · refine h.timers.put (timer.stop session.clock) (switches_concat_stop hnil) ?_ rfl
      exact hstarted.trans (if_pos (switches_ne_nil.mp hnil)).symm
    · -- The timer may have been stopped before, and is recorded again all the same.
      refine (Messages.timesKept_addStep _ timer.name other _).trans ?_
      rw [h.counted]
      by_cases hsame : other = timer.name
      · rw [hsame, if_pos rfl, switches_concat_stop hnil, stops_concat_stop hnil, Nat.add_assoc]
      · rw [if_neg hsame, switches_concat_of_ne _ hsame, Nat.add_zero]

/-- Any call is taken or refused as its verdict says, and a refused one changes nothing. -/
theorem Records.call (h : Records begun session calls) (call : TimerCall) :
    ∃ after, Runs call.action session [] (verdict calls call) after ∧
      ((verdict calls call).isOk = false → after = session) ∧
      Records begun after (calls ++ [call]) := by
  match call with
  | .switch .start name => exact h.start name
  | .switch .stop name => exact h.stop name
  | .pass seconds =>
    have hsame (name : String) : switches name (calls ++ [.pass seconds]) = switches name calls :=
      switches_concat_of_none rfl
    refine ⟨session.later seconds, .done _, nofun, ?_, fun name => ?_⟩
    · exact h.timers.skip (started_concat_of_none rfl) fun name => by rw [hsame]
    · rw [hsame]
      exact h.counted name

/-- Calls one after another are recorded, whichever of them are refused. -/
theorem Records.attempts (h : Records begun session calls) (others : List TimerCall) :
    ∃ after, Runs (attempts others) session [] (.ok ()) after ∧
      Records begun after (calls ++ others) := by
  induction others generalizing session calls with
  | nil => exact ⟨session, .done _, by rwa [List.append_nil]⟩
  | cons call others ih =>
    obtain ⟨middle, hcall, -, hmiddle⟩ := h.call call
    obtain ⟨after, hrest, hafter⟩ := ih hmiddle
    rw [List.append_assoc, List.singleton_append] at hafter
    refine ⟨after, runs_bind.mpr (.inr ⟨[], (), middle, [], rfl, ?_, hrest⟩), hafter⟩
    refine runs_tryCatch.mpr ?_
    cases hverdict : verdict calls call with
    | ok value => exact .inl ⟨value, rfl, hverdict ▸ hcall⟩
    | error failure =>
      exact .inr ⟨[], failure, middle, [], rfl, hverdict ▸ hcall, runs_pure.mpr ⟨rfl, rfl, rfl⟩⟩

end Session

namespace TimerCall

/-- Calls on the timers of an import go on whatever becomes of them. Behind them the messages of the
run have counted every name once for each of its intervals that have ended, and once more for each
stop that found its interval ended; so they have counted the intervals exactly if no stop came next
behind another one. The finished timers are those whose latest interval has ended, in the order of
the first starts. Any further call ends as its verdict says, and changes nothing if it is
refused. -/
theorem intervals_recorded (session : Session) (staging : String) (calls : List TimerCall) :
    ∃ after, Runs (underWay staging calls) session [] (.ok ()) after ∧
      (∀ name, after.messages.timesKept name = session.messages.timesKept name +
        (ended (switches name calls) + repeated (switches name calls))) ∧
      (∀ name, after.messages.timesKept name =
          session.messages.timesKept name + ended (switches name calls) ↔
        ¬ [.stop, .stop] <:+: switches name calls) ∧
      after.progress.finished.map FinishedTimer.name =
        (started calls).filter (fun name => !running (switches name calls)) ∧
      ∀ call, ∃ next, Runs call.action after [] (verdict calls call) next ∧
        ((verdict calls call).isOk = false → next = after) := by
  obtain ⟨after, hrun, hafter⟩ := (Session.records_begin session staging).attempts calls
  rw [List.nil_append] at hafter
  refine ⟨after, ?_, hafter.counted, fun name => ?_, hafter.timers.map_name_finished,
    fun call => ?_⟩
  · exact runs_bind.mpr (.inr ⟨[], (), _, [], rfl, .done _, hrun⟩)
  · rw [hafter.counted, ← followed_eq_zero_iff, stops, ← repeated]
    omega
  · obtain ⟨next, hnext, hsame, -⟩ := hafter.call call
    exact ⟨next, hnext, hsame⟩

/-- A timer that is stopped twice in a row. -/
def stoppedTwice : List TimerCall :=
  [.switch .start "dedup", .pass 1.5, .switch .stop "dedup", .switch .stop "dedup"]

/-- It has had one interval, is listed once, and is counted twice. -/
theorem intervals_recorded_twice : ∃ after,
    Runs (underWay "stg" stoppedTwice) (Session.start 0 { detail := Detail.silent, ansi := false })
      [] (.ok ()) after ∧
    ended (switches "dedup" stoppedTwice) = 1 ∧
    after.progress.finished.map FinishedTimer.name = ["dedup"] ∧
    after.messages.timesKept "dedup" = 2 := by
  obtain ⟨after, hrun, hcounted, -, hfinished, -⟩ := intervals_recorded
    (Session.start 0 { detail := Detail.silent, ansi := false }) "stg" stoppedTwice
  refine ⟨after, hrun, by decide, ?_, ?_⟩
  · rw [hfinished]
    decide
  · rw [hcounted]
    decide

end TimerCall

end WarehouseImport
