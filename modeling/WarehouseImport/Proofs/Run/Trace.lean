import WarehouseImport.Proofs.Run.Around

/-!
# Traces

A trace says which exchanges an action may go through, and through which of them it may end well.
An action may always fail before its first exchange, and may fail behind its last one, since its log
lines may fail; every trace allows that.

The traces of composed actions are composed from those of their parts: one part behind another one
that ended well, or a cleanup behind a part whatever it ended with. An action that follows a trace
also draws no name.
-/

namespace WarehouseImport

/-- The exchanges that are allowed, without and with a good end. -/
structure Trace where
  Allows : List Exchange → Bool → Prop
  unbegun : Allows [] false
  weaken : ∀ {exchanges}, Allows exchanges true → Allows exchanges false

namespace Trace

/-- What is allowed with a good end is allowed with any. -/
theorem Allows.of_true {trace : Trace} {exchanges : List Exchange} (finished : Bool)
    (h : trace.Allows exchanges true) : trace.Allows exchanges finished := by
  cases finished with
  | true => exact h
  | false => exact trace.weaken h

/-- No exchanges. -/
def silent : Trace where
  Allows exchanges _ := exchanges = []
  unbegun := rfl
  weaken h := h

/-- One exchange of a kind, which is done behind a good end. -/
def once (kind : Exchange → Prop) : Trace where
  Allows exchanges finished :=
    (exchanges = [] ∧ finished = false) ∨
      ∃ exchange, exchanges = [exchange] ∧ kind exchange ∧ (finished = true → exchange.Done)
  unbegun := .inl ⟨rfl, rfl⟩
  weaken h := by
    rcases h with ⟨rfl, hfalse⟩ | ⟨exchange, rfl, hkind, -⟩
    · exact .inl ⟨rfl, rfl⟩
    · exact .inr ⟨exchange, rfl, hkind, by simp⟩

/-- The exchanges of a trace, or none where it is skipped. -/
def skippedIf (trace : Trace) (skipped : Bool) : Trace where
  Allows exchanges finished :=
    trace.Allows exchanges finished ∨ (skipped = true ∧ exchanges = [])
  unbegun := .inl trace.unbegun
  weaken h := h.imp trace.weaken id

/-- What is not skipped is allowed as it is. -/
theorem allows_of_not_skipped {trace : Trace} {exchanges : List Exchange} {finished : Bool}
    (h : (trace.skippedIf false).Allows exchanges finished) : trace.Allows exchanges finished := by
  rcases h with hallows | ⟨hskipped, -⟩
  · exact hallows
  · cases hskipped

/-- The exchanges of a trace, whatever they mean for the end. -/
def attempt (trace : Trace) : Trace where
  Allows exchanges _ := ∃ finished, trace.Allows exchanges finished
  unbegun := ⟨false, trace.unbegun⟩
  weaken h := h

/-- The exchanges of a trace, and those of another one if the first ended well. -/
def andThen (first last : Trace) : Trace where
  Allows exchanges finished :=
    (finished = false ∧ first.Allows exchanges false) ∨
      ∃ earlier later, exchanges = earlier ++ later ∧ first.Allows earlier true ∧
        last.Allows later finished
  unbegun := .inl ⟨rfl, first.unbegun⟩
  weaken h := by
    rcases h with ⟨hfalse, -⟩ | ⟨earlier, later, rfl, hfirst, hlast⟩
    · cases hfalse
    · exact .inr ⟨earlier, later, rfl, hfirst, last.weaken hlast⟩

/-- How traces one behind the other are grouped does not matter. -/
theorem allows_andThen_assoc {first middle last : Trace} {exchanges : List Exchange}
    {finished : Bool} (h : (first.andThen (middle.andThen last)).Allows exchanges finished) :
    ((first.andThen middle).andThen last).Allows exchanges finished := by
  rcases h with ⟨rfl, hfirst⟩ | ⟨earlier, later, rfl, hfirst, hlater⟩
  · exact .inl ⟨rfl, .inl ⟨rfl, hfirst⟩⟩
  rcases hlater with ⟨rfl, hmiddle⟩ | ⟨between, rest, rfl, hmiddle, hlast⟩
  · exact .inl ⟨rfl, .inr ⟨earlier, later, rfl, hfirst, hmiddle⟩⟩
  · exact .inr ⟨earlier ++ between, rest, by simp,
      .inr ⟨earlier, between, rfl, hfirst, hmiddle⟩, hlast⟩

/-- The exchanges of a trace and those of a cleanup behind it. A good end is one of both. -/
def closedBy (body last : Trace) : Trace where
  Allows exchanges finished := ∃ earlier later begun closed, exchanges = earlier ++ later ∧
    body.Allows earlier begun ∧ last.Allows later closed ∧ (finished = true → begun = true)
  unbegun := ⟨[], [], false, false, rfl, body.unbegun, last.unbegun, by simp⟩
  weaken h := by
    obtain ⟨earlier, later, begun, closed, rfl, hbody, hlast, -⟩ := h
    exact ⟨earlier, later, begun, closed, rfl, hbody, hlast, by simp⟩

/-- The exchanges of one of two traces. -/
def either (left right : Trace) : Trace where
  Allows exchanges finished := left.Allows exchanges finished ∨ right.Allows exchanges finished
  unbegun := .inl left.unbegun
  weaken h := h.imp left.weaken right.weaken

end Trace

namespace Action

variable {α β : Type} {action : Action α} {trace other : Trace}

/-- Every run of the action goes through exchanges that the trace allows, with a good end if it ends
with a value, and draws no name. -/
def Follows (action : Action α) (trace : Trace) : Prop :=
  ∀ ⦃session exchanges outcome after⦄, Runs action session exchanges outcome after →
    trace.Allows exchanges outcome.isOk ∧ after.drawn = session.drawn

/-- Every value that the action ends with is of a kind. -/
def Returns (action : Action α) (kind : α → Prop) : Prop :=
  ∀ ⦃session exchanges value after⦄, Runs action session exchanges (.ok value) after → kind value

/-- A sequence gives what its last part gives. -/
theorem returns_bind {f : α → Action β} {kind : β → Prop}
    (hlast : ∀ value, Returns (f value) kind) : Returns (action >>= f) kind := by
  intro session exchanges value after h
  obtain ⟨_, given, _, _, -, -, hl⟩ := runs_bind_ok h
  exact hlast given hl

/-- A result in front gives what is done with its value. -/
theorem returns_ofExcept_bind {result : Except Failure α} {f : α → Action β} {kind : β → Prop}
    (hlast : ∀ value, result = .ok value → Returns (f value) kind) :
    Returns (ofExcept result >>= f) kind := by
  intro session exchanges value after h
  rcases runs_ofExcept_bind.mp h with ⟨failure, -, -, hfailure, -⟩ | ⟨given, hgiven, hrest⟩
  · cases hfailure
  · exact hlast given hgiven hrest

/-- A failure gives nothing. -/
theorem returns_throw {failure : Failure} {kind : α → Prop} :
    Returns (throw failure : Action α) kind := by
  intro session exchanges value after h
  cases (runs_throw.mp h).2.1

/-- A value gives itself. -/
theorem returns_pure {kind : α → Prop} {value : α} (h : kind value) :
    Returns (pure value) kind := by
  intro session exchanges given after hruns
  obtain ⟨-, hvalue, -⟩ := runs_pure.mp hruns
  obtain rfl := Except.ok.inj hvalue
  exact h

/-- A quiet action follows the trace without exchanges. -/
theorem Quiet.follows (haction : Quiet action) : Follows action .silent :=
  fun _ _ _ _ h => haction h

/-- A failure follows every trace. -/
theorem follows_throw (failure : Failure) : Follows (throw failure : Action α) trace := by
  intro session exchanges outcome after h
  obtain ⟨rfl, rfl, rfl⟩ := runs_throw.mp h
  exact ⟨trace.unbegun, rfl⟩

/-- What would come behind a failure follows every trace. -/
theorem follows_throw_bind (failure : Failure) (f : α → Action β) :
    Follows (throw failure >>= f) trace := by
  intro session exchanges outcome after h
  obtain ⟨rfl, rfl, rfl⟩ := runs_throw_bind h
  exact ⟨trace.unbegun, rfl⟩

/-- What allows more is followed as well. -/
theorem Follows.mono (h : Follows action trace)
    (hallows : ∀ {exchanges finished}, trace.Allows exchanges finished →
      other.Allows exchanges finished) : Follows action other :=
  fun _ _ _ _ hruns => (h hruns).imp hallows id

/-- One exchange of a kind is one of every wider kind. -/
theorem Follows.widen {kind wider : Exchange → Prop} {skipped : Bool}
    (h : Follows action ((Trace.once kind).skippedIf skipped))
    (hwider : ∀ exchange, kind exchange → wider exchange) :
    Follows action ((Trace.once wider).skippedIf skipped) := by
  refine h.mono fun hallows => hallows.imp ?_ id
  rintro (hnone | ⟨exchange, rfl, hkind, hdone⟩)
  · exact .inl hnone
  · exact .inr ⟨exchange, rfl, hwider exchange hkind, hdone⟩

/-- A sequence whose first part gives only values of a kind follows one trace behind another. -/
theorem Follows.bind_of {f : α → Action β} {kind : α → Prop} (hfirst : Follows action trace)
    (hkind : Returns action kind) (hlast : ∀ value, kind value → Follows (f value) other) :
    Follows (action >>= f) (trace.andThen other) := by
  intro session exchanges outcome after h
  rcases runs_bind.mp h with ⟨failure, rfl, hf⟩ | ⟨first, value, middle, last, rfl, hv, hl⟩
  · obtain ⟨hallows, hdrawn⟩ := hfirst hf
    exact ⟨.inl ⟨rfl, hallows⟩, hdrawn⟩
  · obtain ⟨hallows, hdrawn⟩ := hfirst hv
    obtain ⟨hallows', hdrawn'⟩ := hlast value (hkind hv) hl
    exact ⟨.inr ⟨first, last, rfl, hallows, hallows'⟩, hdrawn'.trans hdrawn⟩

/-- A sequence follows one trace behind another. -/
theorem Follows.bind {f : α → Action β} (hfirst : Follows action trace)
    (hlast : ∀ value, Follows (f value) other) :
    Follows (action >>= f) (trace.andThen other) :=
  hfirst.bind_of (fun _ _ _ _ _ => trivial) fun value _ => hlast value

/-- A quiet action in front leaves the trace. -/
theorem Quiet.bind_follows {f : α → Action β} (hfirst : Quiet action)
    (hlast : ∀ value, Follows (f value) trace) : Follows (action >>= f) trace := by
  intro session exchanges outcome after h
  rcases hfirst.runs_bind h with ⟨rfl, hdrawn, failure, rfl⟩ | ⟨value, middle, -, hmiddle, hl⟩
  · exact ⟨trace.unbegun, hdrawn⟩
  · obtain ⟨hallows, hdrawn⟩ := hlast value hl
    exact ⟨hallows, hdrawn.trans hmiddle⟩

/-- A result in front leaves the trace of what is done with its value. -/
theorem follows_ofExcept_bind {result : Except Failure α} {f : α → Action β}
    (hlast : ∀ value, result = .ok value → Follows (f value) trace) :
    Follows (ofExcept result >>= f) trace := by
  intro session exchanges outcome after h
  rcases runs_ofExcept_bind.mp h with ⟨failure, -, rfl, rfl, rfl⟩ | ⟨value, hvalue, hrest⟩
  · exact ⟨trace.unbegun, rfl⟩
  · exact hlast value hvalue hrest

/-- A quiet action behind leaves the trace. -/
theorem Follows.bind_quiet {f : α → Action β} (hfirst : Follows action trace)
    (hlast : ∀ value, Quiet (f value)) : Follows (action >>= f) trace := by
  intro session exchanges outcome after h
  rcases runs_bind.mp h with ⟨failure, rfl, hf⟩ | ⟨first, value, middle, last, rfl, hv, hl⟩
  · exact hfirst hf
  · obtain ⟨hallows, hdrawn⟩ := hfirst hv
    obtain ⟨rfl, hdrawn'⟩ := hlast value hl
    exact ⟨by simpa using hallows.of_true outcome.isOk, hdrawn'.trans hdrawn⟩

/-- A changed value leaves the trace. -/
theorem Follows.map {f : α → β} (haction : Follows action trace) :
    Follows (f <$> action) trace := by
  intro session exchanges outcome after h
  obtain ⟨result, rfl, hr⟩ := runs_map.mp h
  obtain ⟨hallows, hdrawn⟩ := haction hr
  refine ⟨?_, hdrawn⟩
  cases result with
  | ok value => exact hallows
  | error failure => exact hallows

/-- What surrounds an action follows the trace of it. -/
theorem Around.follows {inner : Action α} (haround : Around action inner)
    (hinner : Follows inner trace) : Follows action trace := by
  intro session exchanges outcome after h
  rcases haround h with
    ⟨rfl, hdrawn, failure, rfl⟩ | ⟨before, result, behind, hbefore, hbehind, hr, hvalue⟩
  · exact ⟨trace.unbegun, hdrawn⟩
  · obtain ⟨hallows, hdrawn⟩ := hinner hr
    refine ⟨?_, (hbehind.trans hdrawn).trans hbefore⟩
    cases outcome with
    | ok value =>
      obtain rfl := hvalue value rfl
      exact hallows
    | error failure =>
      cases result with
      | ok value => exact trace.weaken hallows
      | error other => exact hallows

/-- A timed action follows the trace of the action. -/
theorem Follows.timed (haction : Follows action trace) (name : String) :
    Follows (Action.timed name action) trace :=
  (around_timed name action).follows haction

/-- A step follows the trace of its body. -/
theorem Follows.step (haction : Follows action trace) (name : String) (recorded : Bool) :
    Follows (Action.step name recorded action) trace :=
  (around_step name recorded action).follows haction

/-- Another name for a failure leaves the trace. -/
theorem Follows.rethrow (haction : Follows action trace) (rename : Failure → Failure) :
    Follows (tryCatch action fun failure => throw (rename failure)) trace := by
  intro session exchanges outcome after h
  obtain ⟨result, rfl, hr⟩ := runs_rethrow.mp h
  obtain ⟨hallows, hdrawn⟩ := haction hr
  refine ⟨?_, hdrawn⟩
  cases result with
  | ok value => exact hallows
  | error failure => exact hallows

/-- A quiet handler leaves the exchanges of the action, which may then end in either way. -/
theorem Follows.tryCatch {handle : Failure → Action α} (haction : Follows action trace)
    (hhandle : ∀ failure, Quiet (handle failure)) :
    Follows (tryCatch action handle) trace.attempt := by
  intro session exchanges outcome after h
  rcases runs_tryCatch.mp h with
    ⟨value, rfl, hv⟩ | ⟨first, failure, middle, last, rfl, hf, hl⟩
  · obtain ⟨hallows, hdrawn⟩ := haction hv
    exact ⟨⟨_, hallows⟩, hdrawn⟩
  · obtain ⟨hallows, hdrawn⟩ := haction hf
    obtain ⟨rfl, hdrawn'⟩ := hhandle failure hl
    exact ⟨⟨_, by simpa using hallows⟩, hdrawn'.trans hdrawn⟩

/-- A cleanup is behind the trace of the action. -/
theorem Follows.afterwards {last : Action Unit} (haction : Follows action trace)
    (hlast : Follows last other) :
    Follows (Action.afterwards action last) (trace.closedBy other) := by
  intro session exchanges outcome after h
  obtain ⟨first, result, middle, rest, cleaned, rfl, hr, hc, rfl⟩ := runs_afterwards.mp h
  obtain ⟨hallows, hdrawn⟩ := haction hr
  obtain ⟨hallows', hdrawn'⟩ := hlast hc
  refine ⟨⟨first, rest, _, _, rfl, hallows, hallows', ?_⟩, hdrawn'.trans hdrawn⟩
  intro hok
  cases cleaned with
  | ok value => exact hok
  | error failure => cases hok

end Action

end WarehouseImport
