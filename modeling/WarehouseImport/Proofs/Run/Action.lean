import WarehouseImport.Proofs.Run.Exchange

/-!
# Runs of actions

A run of an action takes a session through exchanges to an outcome and a later session. The run of
a composed action is read off the runs of its parts: a sequence stops at the first failure, a
handler takes over behind one, and a cleanup runs behind either outcome.

Most actions are quiet: they make no call and draw no name, whatever they write to the log. What is
done outside is settled by the other ones.
-/

namespace WarehouseImport.Action

variable {α β : Type}

/-- An action leads from one session through exchanges to an outcome and another session. -/
def Runs (action : Action α) (session : Session) (exchanges : List Exchange)
    (outcome : Except Failure α) (after : Session) : Prop :=
  Script.Runs (action.run.run session) exchanges (outcome, after)

/-- The exchanges of an action with an outside that answers by the calls before. -/
def against (action : Action α) (session : Session)
    (outside : List Call → (call : Call) → call.Answer) : List Exchange :=
  (action.run.run session).exchanges outside []

/-- An action has a run against every outside. -/
theorem runs_against (action : Action α) (session : Session)
    (outside : List Call → (call : Call) → call.Answer) :
    ∃ outcome after, Runs action session (action.against session outside) outcome after :=
  ⟨_, _, Script.runs_run outside [] (action.run.run session)⟩

/-- A value is an outcome that ended well. -/
@[simp]
theorem isOk_ok (value : α) : (Except.ok value : Except Failure α).isOk = true := rfl

/-- A failure is an outcome that did not. -/
@[simp]
theorem isOk_error (failure : Failure) : (Except.error failure : Except Failure α).isOk = false :=
  rfl

variable {action : Action α} {session after : Session} {exchanges : List Exchange}
  {outcome : Except Failure α}

/-- A value is an action without calls. -/
theorem runs_pure {value : α} :
    Runs (pure value) session exchanges outcome after ↔
      exchanges = [] ∧ outcome = .ok value ∧ after = session := by
  constructor
  · intro h
    cases h
    exact ⟨rfl, rfl, rfl⟩
  · rintro ⟨rfl, rfl, rfl⟩
    exact .done _

/-- A failure is an action without calls. -/
theorem runs_throw {failure : Failure} :
    Runs (throw failure : Action α) session exchanges outcome after ↔
      exchanges = [] ∧ outcome = .error failure ∧ after = session := by
  constructor
  · intro h
    cases h
    exact ⟨rfl, rfl, rfl⟩
  · rintro ⟨rfl, rfl, rfl⟩
    exact .done _

/-- Looking at the session changes nothing. -/
theorem runs_get {outcome : Except Failure Session} :
    Runs get session exchanges outcome after ↔
      exchanges = [] ∧ outcome = .ok session ∧ after = session := by
  constructor
  · intro h
    cases h
    exact ⟨rfl, rfl, rfl⟩
  · rintro ⟨rfl, rfl, rfl⟩
    exact .done _

/-- A session that is put in the place of another one stays. -/
theorem runs_set {next : Session} {outcome : Except Failure PUnit} :
    Runs (set next) session exchanges outcome after ↔
      exchanges = [] ∧ outcome = .ok ⟨⟩ ∧ after = next := by
  constructor
  · intro h
    cases h
    exact ⟨rfl, rfl, rfl⟩
  · rintro ⟨rfl, rfl, rfl⟩
    exact .done _

/-- A question is one exchange, whatever its answer. -/
theorem runs_ask {call : Call} {outcome : Except Failure call.Answer} :
    Runs (ask call) session exchanges outcome after ↔
      ∃ answer, exchanges = [⟨call, answer⟩] ∧ outcome = .ok answer ∧ after = session := by
  constructor
  · intro h
    cases h with
    | ask answer rest =>
      cases rest
      exact ⟨answer, rfl, rfl, rfl⟩
  · rintro ⟨answer, rfl, rfl, rfl⟩
    exact .ask answer (.done _)

/-- A sequence fails where its first part fails, and otherwise goes on from the value. -/
theorem runs_bind {f : α → Action β} {outcome : Except Failure β} :
    Runs (action >>= f) session exchanges outcome after ↔
      (∃ failure, outcome = .error failure ∧
        Runs action session exchanges (.error failure) after) ∨
      ∃ first value middle last, exchanges = first ++ last ∧
        Runs action session first (.ok value) middle ∧
        Runs (f value) middle last outcome after := by
  have hrun : (action >>= f).run.run session = (action.run.run session).bind fun
      | (.ok value, middle) => (f value).run.run middle
      | (.error failure, middle) => .done (.error failure, middle) := by
    change Script.bind _ _ = _
    congr 1
    funext ⟨result, middle⟩
    cases result <;> rfl
  rw [Runs, hrun, Script.runs_bind]
  constructor
  · rintro ⟨first, ⟨result, middle⟩, last, rfl, hfirst, hlast⟩
    cases result with
    | ok value => exact .inr ⟨first, value, middle, last, rfl, hfirst, hlast⟩
    | error failure =>
      cases hlast
      exact .inl ⟨failure, rfl, by simpa [Runs] using hfirst⟩
  · rintro (⟨failure, rfl, h⟩ | ⟨first, value, middle, last, rfl, hfirst, hlast⟩)
    · exact ⟨exchanges, (.error failure, after), [], by simp, h, .done _⟩
    · exact ⟨first, (.ok value, middle), last, rfl, hfirst, hlast⟩

/-- A value of a sequence comes behind a value of its first part. -/
theorem runs_bind_ok {f : α → Action β} {value : β}
    (h : Runs (action >>= f) session exchanges (.ok value) after) :
    ∃ first given middle last, exchanges = first ++ last ∧
      Runs action session first (.ok given) middle ∧
      Runs (f given) middle last (.ok value) after := by
  rcases runs_bind.mp h with ⟨failure, hfailed, -⟩ | hrest
  · cases hfailed
  · exact hrest

/-- A sequence that begins with a look at the session goes on with what it saw. -/
theorem runs_get_bind {f : Session → Action β} {outcome : Except Failure β} :
    Runs (get >>= f) session exchanges outcome after ↔
      Runs (f session) session exchanges outcome after := by
  rw [runs_bind]
  constructor
  · rintro (⟨failure, -, hf⟩ | ⟨first, value, middle, rest, rfl, hv, hl⟩)
    · cases (runs_get.mp hf).2.1
    · obtain ⟨rfl, hvalue, rfl⟩ := runs_get.mp hv
      obtain rfl := Except.ok.inj hvalue
      exact hl
  · intro h
    exact .inr ⟨[], session, session, exchanges, rfl, runs_get.mpr ⟨rfl, rfl, rfl⟩, h⟩

/-- A sequence that begins with another session goes on in it. -/
theorem runs_set_bind {next : Session} {f : PUnit → Action β} {outcome : Except Failure β} :
    Runs (set next >>= f) session exchanges outcome after ↔
      Runs (f ⟨⟩) next exchanges outcome after := by
  rw [runs_bind]
  constructor
  · rintro (⟨failure, -, hf⟩ | ⟨first, value, middle, rest, rfl, hv, hl⟩)
    · cases (runs_set.mp hf).2.1
    · obtain ⟨rfl, -, rfl⟩ := runs_set.mp hv
      exact hl
  · intro h
    exact .inr ⟨[], ⟨⟩, next, exchanges, rfl, runs_set.mpr ⟨rfl, rfl, rfl⟩, h⟩

/-- A sequence that begins with a question goes on from its answer. -/
theorem runs_ask_bind {call : Call} {f : call.Answer → Action β} {outcome : Except Failure β} :
    Runs (ask call >>= f) session exchanges outcome after ↔
      ∃ answer rest, exchanges = ⟨call, answer⟩ :: rest ∧
        Runs (f answer) session rest outcome after := by
  rw [runs_bind]
  constructor
  · rintro (⟨failure, -, hf⟩ | ⟨first, value, middle, rest, rfl, hv, hl⟩)
    · obtain ⟨answer, -, hok, -⟩ := runs_ask.mp hf
      cases hok
    · obtain ⟨answer, rfl, hanswer, rfl⟩ := runs_ask.mp hv
      obtain rfl := Except.ok.inj hanswer
      exact ⟨value, rest, rfl, hl⟩
  · rintro ⟨answer, rest, rfl, hrest⟩
    exact .inr ⟨_, answer, session, rest, rfl, runs_ask.mpr ⟨answer, rfl, rfl, rfl⟩, hrest⟩

/-- Nothing comes behind a failure. -/
theorem runs_throw_bind {failure : Failure} {f : α → Action β} {outcome : Except Failure β}
    (h : Runs (throw failure >>= f) session exchanges outcome after) :
    exchanges = [] ∧ outcome = .error failure ∧ after = session := by
  rcases runs_bind.mp h with ⟨other, rfl, hf⟩ | ⟨first, value, middle, last, rfl, hv, -⟩
  · obtain ⟨rfl, hfailure, rfl⟩ := runs_throw.mp hf
    cases hfailure
    exact ⟨rfl, rfl, rfl⟩
  · cases (runs_throw.mp hv).2.1

/-- A handler takes over behind a failure, and a value passes it. -/
theorem runs_tryCatch {handle : Failure → Action α} :
    Runs (tryCatch action handle) session exchanges outcome after ↔
      (∃ value, outcome = .ok value ∧ Runs action session exchanges (.ok value) after) ∨
      ∃ first failure middle last, exchanges = first ++ last ∧
        Runs action session first (.error failure) middle ∧
        Runs (handle failure) middle last outcome after := by
  have hrun : (tryCatch action handle).run.run session = (action.run.run session).bind fun
      | (.ok value, middle) => .done (.ok value, middle)
      | (.error failure, middle) => (handle failure).run.run middle := by
    change Script.bind _ _ = _
    congr 1
    funext ⟨result, middle⟩
    cases result <;> rfl
  rw [Runs, hrun, Script.runs_bind]
  constructor
  · rintro ⟨first, ⟨result, middle⟩, last, rfl, hfirst, hlast⟩
    cases result with
    | ok value =>
      cases hlast
      exact .inl ⟨value, rfl, by simpa [Runs] using hfirst⟩
    | error failure => exact .inr ⟨first, failure, middle, last, rfl, hfirst, hlast⟩
  · rintro (⟨value, rfl, h⟩ | ⟨first, failure, middle, last, rfl, hfirst, hlast⟩)
    · exact ⟨exchanges, (.ok value, after), [], by simp, h, .done _⟩
    · exact ⟨first, (.error failure, middle), last, rfl, hfirst, hlast⟩

/-- A changed value takes the exchanges of the action it comes from. -/
theorem runs_map {f : α → β} {outcome : Except Failure β} :
    Runs (f <$> action) session exchanges outcome after ↔
      ∃ result, outcome = result.map f ∧ Runs action session exchanges result after := by
  have hrun : (f <$> action).run.run session = (action.run.run session).bind fun
      | (result, middle) => .done (result.map f, middle) := by
    change Script.bind _ _ = _
    congr 1
    funext ⟨result, middle⟩
    cases result <;> rfl
  rw [Runs, hrun, Script.runs_bind]
  constructor
  · rintro ⟨first, ⟨result, middle⟩, last, rfl, hfirst, hlast⟩
    cases hlast
    exact ⟨result, rfl, by simpa [Runs] using hfirst⟩
  · rintro ⟨result, rfl, h⟩
    exact ⟨exchanges, (result, after), [], by simp, h, .done _⟩

end WarehouseImport.Action
