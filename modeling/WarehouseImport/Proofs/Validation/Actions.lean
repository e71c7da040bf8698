import WarehouseImport.Proofs.Run.Order
import WarehouseImport.Proofs.Validation.Definitions

/-!
# Careful actions

What is of concern is a kind of failures, and what the service is trusted in, so that the
definitions of the tables it describes are no such failures. For the failures of validation it is
trusted in one point: the tables that it describes have distinct columns, with their keys among
them.

An action is careful if a run that ends with such a failure has done nothing but look: it has
connected and asked for descriptions. An action that only looks is careful, and so is one that
passes, whose runs never end with such a failure. Behind an action that only looks comes a careful
one, and behind a careful one an action that passes; so the checks of a program have to stand before
its first write.
-/

namespace WarehouseImport

/-- A call that asks for nothing but a connection or the description of a table. -/
def Call.Looks : Call → Prop
  | .connect _ | .reflect _ => True
  | _ => False

/-- A description that is brought is sound. -/
def Exchange.Sound : Exchange → Prop
  | ⟨.reflect _, answer⟩ => ∀ described, answer = .ok described → described.Sound
  | _ => True

/-- A kind of failures, and the exchanges in which the service is trusted: the tables that it
describes in them have definitions without such a failure. -/
structure Concern extends FailureKind where
  trusted : Exchange → Prop
  defines : ∀ {table : TableName} {described : ReflectedTable},
    trusted ⟨.reflect table, .ok described⟩ → Passes toFailureKind (described.definition table)

/-- The failures of validation, where the service is trusted to describe tables soundly. -/
def Concern.validation : Concern where
  toFailureKind := .validation
  trusted := Exchange.Sound
  defines h := ReflectedTable.Sound.passes_definition (h _ rfl) _

namespace Action

variable {concern : Concern} {α β : Type} {action : Action α} {kind : α → Prop}

/-- No run of the action ends with a failure of concern. -/
def Passing (concern : Concern) (action : Action α) : Prop :=
  ∀ ⦃session exchanges outcome after⦄, Runs action session exchanges outcome after →
    (∀ exchange ∈ exchanges, concern.trusted exchange) → Passes concern.toFailureKind outcome

/-- No run of the action does more than look. -/
def Looking (action : Action α) : Prop :=
  ∀ ⦃session exchanges outcome after⦄, Runs action session exchanges outcome after →
    ∀ exchange ∈ exchanges, exchange.call.Looks

/-- A run of the action that ends with a failure of concern has only looked. -/
def Careful (concern : Concern) (action : Action α) : Prop :=
  ∀ ⦃session exchanges outcome after⦄, Runs action session exchanges outcome after →
    (∀ exchange ∈ exchanges, concern.trusted exchange) →
      Passes concern.toFailureKind outcome ∨ ∀ exchange ∈ exchanges, exchange.call.Looks

/-- An action that passes is careful. -/
theorem Passing.careful (h : Passing concern action) : Careful concern action :=
  fun _ _ _ _ hruns hsound => .inl (h hruns hsound)

/-- An action that only looks is careful. -/
theorem Looking.careful (h : Looking action) : Careful concern action :=
  fun _ _ _ _ hruns _ => .inr (h hruns)

/-- A quiet action does not even look. -/
theorem Quiet.looking (h : Quiet action) : Looking action := by
  intro session exchanges outcome after hruns
  rw [(h hruns).1]
  simp

/-- An action whose trace only looks does so too. -/
theorem Follows.looking {trace : Trace} (h : Follows action trace)
    (htrace : Trace.Every trace fun exchange => exchange.call.Looks) : Looking action :=
  fun _ _ _ _ hruns => htrace (h hruns).1

/-! ## Sequences -/

/-- Behind an action that passes, one that passes for each value. -/
theorem Passing.bind_of {f : α → Action β} (hfirst : Passing concern action)
    (hkind : Returns action kind) (hlast : ∀ value, kind value → Passing concern (f value)) :
    Passing concern (action >>= f) := by
  intro session exchanges outcome after h hsound
  rcases runs_bind.mp h with ⟨failure, rfl, hf⟩ | ⟨first, value, middle, last, rfl, hv, hl⟩
  · exact passes_of_among (hfirst hf hsound failure rfl)
  · exact hlast value (hkind hv) hl fun exchange hmem =>
      hsound exchange (List.mem_append_right _ hmem)

/-- Behind an action that passes, one that passes. -/
theorem Passing.bind {f : α → Action β} (hfirst : Passing concern action)
    (hlast : ∀ value, Passing concern (f value)) : Passing concern (action >>= f) :=
  hfirst.bind_of (fun _ _ _ _ _ => trivial) fun value _ => hlast value

/-- Behind an action that only looks, one that is careful for each value. -/
theorem Looking.bind_careful_of {f : α → Action β} (hfirst : Looking action)
    (hkind : Returns action kind) (hlast : ∀ value, kind value → Careful concern (f value)) :
    Careful concern (action >>= f) := by
  intro session exchanges outcome after h hsound
  rcases runs_bind.mp h with ⟨failure, rfl, hf⟩ | ⟨first, value, middle, last, rfl, hv, hl⟩
  · exact .inr (hfirst hf)
  · refine (hlast value (hkind hv) hl fun exchange hmem =>
      hsound exchange (List.mem_append_right _ hmem)).imp id fun hlooks exchange hmem => ?_
    rcases List.mem_append.mp hmem with hmem | hmem
    · exact hfirst hv exchange hmem
    · exact hlooks exchange hmem

/-- Behind an action that only looks, a careful one. -/
theorem Looking.bind_careful {f : α → Action β} (hfirst : Looking action)
    (hlast : ∀ value, Careful concern (f value)) : Careful concern (action >>= f) :=
  hfirst.bind_careful_of (fun _ _ _ _ _ => trivial) fun value _ => hlast value

/-- Behind a careful action, one that passes for each value. -/
theorem Careful.bind_of {f : α → Action β} (hfirst : Careful concern action)
    (hkind : Returns action kind) (hlast : ∀ value, kind value → Passing concern (f value)) :
    Careful concern (action >>= f) := by
  intro session exchanges outcome after h hsound
  rcases runs_bind.mp h with ⟨failure, rfl, hf⟩ | ⟨first, value, middle, last, rfl, hv, hl⟩
  · refine (hfirst hf hsound).imp (fun hpasses => ?_) id
    exact passes_of_among (hpasses failure rfl)
  · exact .inl (hlast value (hkind hv) hl fun exchange hmem =>
      hsound exchange (List.mem_append_right _ hmem))

/-- Behind a careful action, one that passes. -/
theorem Careful.bind {f : α → Action β} (hfirst : Careful concern action)
    (hlast : ∀ value, Passing concern (f value)) : Careful concern (action >>= f) :=
  hfirst.bind_of (fun _ _ _ _ _ => trivial) fun value _ => hlast value

/-! ## Single actions -/

/-- A value passes. -/
theorem passing_pure (value : α) : Passing concern (pure value) := by
  intro session exchanges outcome after h _
  rw [(runs_pure.mp h).2.1]
  exact passes_ok _

/-- A failure that is of no concern passes. -/
theorem passing_throw_of_among {failure : Failure} (h : concern.among failure = false) :
    Passing concern (throw failure : Action α) := by
  intro session exchanges outcome after hruns _
  rw [(runs_throw.mp hruns).2.1]
  exact passes_of_among h

/-- A foreign failure passes. -/
theorem passing_throw {failure : Failure} (h : failure.isForeign = true) :
    Passing concern (throw failure : Action α) :=
  passing_throw_of_among (concern.foreign failure h)

/-- So does what would come behind it. -/
theorem passing_throw_bind {failure : Failure} (h : failure.isForeign = true)
    (f : α → Action β) : Passing concern (throw failure >>= f) := by
  intro session exchanges outcome after hruns _
  rw [(runs_throw_bind hruns).2.1]
  exact passes_error h

/-- A result passes as an action if it does. -/
theorem passing_ofExcept {result : Except Failure α} (h : Passes concern.toFailureKind result) :
    Passing concern (ofExcept result) := by
  intro session exchanges outcome after hruns _
  rw [(runs_ofExcept.mp hruns).2.1]
  exact h

/-- Behind a result that passes, what passes for its value. -/
theorem passing_ofExcept_bind {result : Except Failure α} {f : α → Action β}
    (h : Passes concern.toFailureKind result)
    (hlast : ∀ value, result = .ok value → Passing concern (f value)) :
    Passing concern (ofExcept result >>= f) :=
  (passing_ofExcept h).bind_of (fun _ _ _ _ hruns => (runs_ofExcept.mp hruns).2.1.symm) hlast

/-- Behind a result, what is careful for its value. -/
theorem careful_ofExcept_bind {result : Except Failure α} {f : α → Action β}
    (hlast : ∀ value, result = .ok value → Careful concern (f value)) :
    Careful concern (ofExcept result >>= f) :=
  (quiet_ofExcept result).looking.bind_careful_of
    (fun _ _ _ _ hruns => (runs_ofExcept.mp hruns).2.1.symm) hlast

/-- An answer passes, since faults are foreign. -/
theorem passing_settle (answer : Except Fault α) : Passing concern (settle answer) := by
  intro session exchanges outcome after hruns _
  rw [(runs_settle.mp hruns).2.1]
  cases answer with
  | ok value => exact passes_ok _
  | error fault => exact passes_error fault.isForeign_failure

/-- A question passes. -/
theorem passing_ask (call : Call) : Passing concern (ask call) := by
  intro session exchanges outcome after hruns _
  obtain ⟨answer, -, rfl, -⟩ := runs_ask.mp hruns
  exact passes_ok _

/-- Looking at the session passes. -/
theorem passing_get : Passing concern get := by
  intro session exchanges outcome after hruns _
  rw [(runs_get.mp hruns).2.1]
  exact passes_ok _

/-- Another session passes. -/
theorem passing_set (next : Session) : Passing concern (set next : Action PUnit) := by
  intro session exchanges outcome after hruns _
  rw [(runs_set.mp hruns).2.1]
  exact passes_ok _

/-- A change of the session that cannot fail passes. -/
theorem passing_modify (change : Session → Session) :
    Passing concern (modify change : Action PUnit) := by
  intro session exchanges outcome after hruns _
  cases hruns
  exact passes_ok _

/-- A changed value passes as the action does. -/
theorem Passing.map {f : α → β} (haction : Passing concern action) :
    Passing concern (f <$> action) := by
  intro session exchanges outcome after hruns hsound
  obtain ⟨result, rfl, hresult⟩ := runs_map.mp hruns
  exact (haction hresult hsound).map f

/-! ## Handlers, steps and timers -/

/-- An action with a handler passes if both do; the handler is only asked about failures that are of
no concern. -/
theorem Passing.tryCatch {handle : Failure → Action α} (haction : Passing concern action)
    (hhandle : ∀ failure, concern.among failure = false → Passing concern (handle failure)) :
    Passing concern (tryCatch action handle) := by
  intro session exchanges outcome after hruns hsound
  rcases runs_tryCatch.mp hruns with ⟨value, rfl, -⟩ | ⟨first, failure, middle, last, rfl, hf, hl⟩
  · exact passes_ok _
  · have hfailure := haction hf (fun exchange hmem =>
      hsound exchange (List.mem_append_left _ hmem)) failure rfl
    exact hhandle failure hfailure hl fun exchange hmem =>
      hsound exchange (List.mem_append_right _ hmem)

/-- Another name for a failure passes if it does not make it one of concern. -/
theorem Passing.rethrow {rename : Failure → Failure} (haction : Passing concern action)
    (hrename : ∀ failure, concern.among failure = false → concern.among (rename failure) = false) :
    Passing concern (MonadExcept.tryCatch action fun failure => throw (rename failure)) :=
  haction.tryCatch fun failure hfailure => passing_throw_of_among (hrename failure hfailure)

/-- An action with a cleanup passes if both do. -/
theorem Passing.afterwards {last : Action Unit} (haction : Passing concern action)
    (hlast : Passing concern last) : Passing concern (afterwards action last) := by
  intro session exchanges outcome after hruns hsound
  obtain ⟨first, result, middle, rest, cleaned, rfl, hr, hc, rfl⟩ := runs_afterwards.mp hruns
  refine (hlast hc fun exchange hmem => hsound exchange (List.mem_append_right _ hmem)).bind
    fun _ _ => ?_
  exact haction hr fun exchange hmem => hsound exchange (List.mem_append_left _ hmem)

/-- Actions for every item of a list pass together. -/
theorem passing_forIn (items : List α) {body : α → Action PUnit}
    (hbody : ∀ item, Passing concern (body item)) :
    Passing concern (forIn items PUnit.unit fun item _ => do
      body item
      return ForInStep.yield PUnit.unit) := by
  induction items with
  | nil => exact passing_pure _
  | cons item rest ih =>
    rw [List.forIn_cons]
    refine Passing.bind (Passing.bind (hbody item) fun _ => passing_pure _) fun step => ?_
    cases step with
    | done value => exact passing_pure _
    | yield value => exact ih

/-- A change of the session passes if its result does. -/
theorem passing_update {change : Session → Except Failure Session}
    (h : ∀ session, Passes concern.toFailureKind (change session)) :
    Passing concern (update change) :=
  passing_get.bind fun _ => (passing_ofExcept (h _)).bind fun _ => passing_set _

/-- A line passes. -/
theorem passing_log (line : String) (detail : Option Detail) (colours : List String) :
    Passing concern (log line detail colours) :=
  passing_update fun _ => Session.passes_log _ _ _ _

/-- A notice passes. -/
theorem passing_notice (text : String) (detail : Option Detail) :
    Passing concern (notice text detail) :=
  (passing_modify _).bind fun _ => passing_log _ _ _

/-- The time passes. -/
theorem passing_now : Passing concern now := passing_get.bind fun _ => passing_pure _

/-- A finished timer passes. -/
theorem passing_keepTimer (timer : Timer) : Passing concern (keepTimer timer) :=
  passing_now.bind fun _ => passing_modify _

/-- A timer starts and passes. -/
theorem passing_startTimer (name : String) : Passing concern (startTimer name) :=
  passing_get.bind fun _ => (passing_ofExcept (Progress.passes_start _ _ _)).bind fun _ =>
    passing_set _

/-- A timer stops and passes. -/
theorem passing_stopTimer (name : String) : Passing concern (stopTimer name) :=
  passing_get.bind fun _ => (passing_ofExcept (Progress.passes_stop _ _ _)).bind fun _ =>
    (passing_set _).bind fun _ => passing_keepTimer _

/-- A timed action passes if it does. -/
theorem Passing.timed (haction : Passing concern action) (name : String) :
    Passing concern (timed name action) :=
  (passing_startTimer name).bind fun _ => haction.bind fun _ =>
    (passing_stopTimer name).bind fun _ => passing_pure _

/-- A step passes if its body does. -/
theorem Passing.step (hbody : Passing concern action) (name : String) (recorded : Bool) :
    Passing concern (step name recorded action) := by
  have hbegin : Passing concern (beginStep name) :=
    (passing_log _ _ _).bind fun _ => (passing_log _ _ _).bind fun _ => passing_now.bind fun _ =>
      (passing_log _ _ _).bind fun _ => passing_pure _
  have hend (timer : Timer) (began : Int) : Passing concern (endStep timer began recorded) := by
    refine passing_now.bind fun _ => (passing_log _ _ _).bind fun _ =>
      (passing_log _ _ _).bind fun _ => ?_
    split
    · exact passing_keepTimer _
    · exact passing_pure _
  unfold Action.step
  split
  · exact passing_throw_bind rfl _
  · refine hbegin.bind fun _ => passing_now.bind fun _ => Passing.tryCatch ?_ fun failure h => ?_
    · exact hbody.bind fun _ => (hend _ _).bind fun _ => passing_pure _
    · exact passing_now.bind fun _ => (passing_log _ _ _).bind fun _ => passing_throw_of_among h

/-- Counted rows pass. -/
theorem passing_addRows (count : Json) : Passing concern (addRows count) :=
  passing_update fun _ => (Progress.passes_addRows _ _).map _

/-- The import under way passes. -/
theorem passing_progress : Passing concern progress := passing_get.bind fun _ => passing_pure _

/-- A table of steps passes. -/
theorem passing_logSteps (top : Int) (detail : Option Detail) :
    Passing concern (logSteps top detail) := by
  refine passing_get.bind fun session => ?_
  refine (passing_forIn (session.messages.stepTable top).1 fun row =>
    passing_log row detail []).bind fun _ => ?_
  split
  · exact passing_log _ _ _
  · exact passing_pure _

/-- The warnings and notices at the end pass. -/
theorem passing_logMessages : Passing concern logMessages := by
  refine passing_get.bind fun session => ?_
  exact (passing_forIn session.messages.listing fun entry =>
    passing_log entry.1 (some Detail.normal) entry.2).bind fun _ => passing_pure _

end Action

end WarehouseImport
