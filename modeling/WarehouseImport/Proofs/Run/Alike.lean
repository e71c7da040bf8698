import WarehouseImport.Proofs.Run.Around

/-!
# Runs with the same answers

Two runs of one script make the same calls as long as they get the same answers. If some calls are
ignored, their answers may differ, and the calls behind them too; as long as the calls still agree,
so do the answers to all others.
-/

namespace WarehouseImport

/-- The answers agree as long as the calls do, apart from those to ignored calls. -/
def AnsweredAlike (ignored : Call → Prop) : List Exchange → List Exchange → Prop
  | first :: rest, other :: others => first.call = other.call →
      (first = other ∨ ignored first.call) ∧ AnsweredAlike ignored rest others
  | _, _ => True

/-- Two runs of a script with the same answers, none of them to an ignored call, are the same run,
and what follows them is answered alike. -/
theorem Script.Runs.unique {α : Type} {ignored : Call → Prop} {script : Script α}
    {first second rest others : List Exchange} {value other : α} (hfirst : Runs script first value)
    (hsecond : Runs script second other)
    (halike : AnsweredAlike ignored (first ++ rest) (second ++ others))
    (hkept : ∀ exchange ∈ first, ¬ ignored exchange.call) :
    first = second ∧ value = other ∧ AnsweredAlike ignored rest others := by
  -- Both runs make the same call as long as the answers so far are the same.
  induction hfirst generalizing second with
  | done value =>
    cases hsecond
    exact ⟨rfl, rfl, halike⟩
  | @ask call next exchanges value answer hrest ih =>
    cases hsecond with
    | ask answer' hrest' =>
      obtain ⟨hsame, hbehind⟩ := halike rfl
      cases hsame.resolve_right (hkept _ (by simp))
      obtain ⟨rfl, hvalue, htail⟩ := ih hrest' hbehind fun exchange hmem =>
        hkept exchange (by simp [hmem])
      exact ⟨rfl, hvalue, htail⟩

/-- Two outsides that answer all but ignored calls in the same way answer alike. -/
theorem Script.answeredAlike_exchanges {α β : Type} {ignored : Call → Prop}
    {outside outside' : List Call → (call : Call) → call.Answer}
    (hsame : ∀ before call, ¬ ignored call → outside before call = outside' before call)
    (before : List Call) (script : Script α) (other : Script β) :
    AnsweredAlike ignored (script.exchanges outside before) (other.exchanges outside' before) := by
  induction script generalizing before other with
  | done value => trivial
  | ask call next ih =>
    cases other with
    | done value => trivial
    | ask call' next' =>
      intro hcall
      obtain rfl : call = call' := hcall
      refine ⟨?_, ih _ _ _⟩
      by_cases hignored : ignored call
      · exact .inr hignored
      · left
        rw [hsame before call hignored]

namespace Action

variable {α β : Type} {ignored : Call → Prop} {action : Action α}

/-- Two runs from sessions of a kind, with the same answers to all but ignored calls, end in the same
way; what follows them is answered alike, and behind a value the sessions are of another kind. -/
def Agrees (ignored : Call → Prop) (related : Session → Session → Prop) (action : Action α)
    (ended : α → Session → Session → Prop) : Prop :=
  ∀ ⦃session session' first second rest others outcome outcome' after after'⦄,
    Runs action session first outcome after → Runs action session' second outcome' after' →
    related session session' → AnsweredAlike ignored (first ++ rest) (second ++ others) →
      outcome = outcome' ∧ AnsweredAlike ignored rest others ∧
        ∀ value, outcome = .ok value → ended value after after'

variable {related : Session → Session → Prop}

/-- An action without ignored calls has the same run from one session. -/
theorem agrees_of_not_ignored {ready : Session → Prop} {ended : α → Session → Prop}
    (hkept : ∀ ⦃session exchanges outcome after⦄, Runs action session exchanges outcome after →
      ready session → (∀ exchange ∈ exchanges, ¬ ignored exchange.call) ∧
        ∀ value, outcome = .ok value → ended value after) :
    Agrees ignored (fun session session' => session = session' ∧ ready session) action
      fun value after after' => after = after' ∧ ended value after := by
  rintro session _ first second rest others outcome outcome' after after' h h' ⟨rfl, hready⟩ halike
  obtain ⟨hignored, hended⟩ := hkept h hready
  obtain ⟨-, hends, htail⟩ := Script.Runs.unique h h' halike hignored
  obtain ⟨rfl, rfl⟩ := Prod.mk.inj hends
  exact ⟨rfl, htail, fun value hvalue => ⟨rfl, hended value hvalue⟩⟩

/-- A result is the same from every session. -/
theorem agrees_ofExcept (result : Except Failure α) :
    Agrees ignored related (ofExcept result) fun _ => related := by
  intro session session' first second rest others outcome outcome' after after' h h' hrelated halike
  obtain ⟨rfl, rfl, rfl⟩ := runs_ofExcept.mp h
  obtain ⟨rfl, rfl, rfl⟩ := runs_ofExcept.mp h'
  exact ⟨rfl, halike, fun _ _ => hrelated⟩

/-- A question that is not ignored has the same answer from every session. -/
theorem agrees_ask {call : Call} (hkept : ¬ ignored call) :
    Agrees ignored related (ask call) fun _ => related := by
  intro session session' first second rest others outcome outcome' after after' h h' hrelated halike
  obtain ⟨answer, rfl, rfl, rfl⟩ := runs_ask.mp h
  obtain ⟨answer', rfl, rfl, rfl⟩ := runs_ask.mp h'
  obtain ⟨hsame, htail⟩ := halike rfl
  cases hsame.resolve_right hkept
  exact ⟨rfl, htail, fun _ _ => hrelated⟩

/-- A sequence agrees if its parts do. -/
theorem Agrees.bind {f : α → Action β} {between : α → Session → Session → Prop}
    {ended : β → Session → Session → Prop} (hfirst : Agrees ignored related action between)
    (hlast : ∀ value, Agrees ignored (between value) (f value) ended) :
    Agrees ignored related (action >>= f) ended := by
  intro session session' first second rest others outcome outcome' after after' h h' hrelated halike
  rcases runs_bind.mp h with ⟨failure, rfl, hf⟩ | ⟨head, value, middle, last, rfl, hv, hl⟩
  · rcases runs_bind.mp h' with ⟨failure', rfl, hf'⟩ | ⟨head', value', _, last', rfl, hv', -⟩
    · obtain ⟨hsame, htail, -⟩ := hfirst hf hf' hrelated halike
      cases hsame
      exact ⟨rfl, htail, by simp⟩
    · rw [List.append_assoc] at halike
      cases (hfirst hf hv' hrelated halike).1
  · rw [List.append_assoc] at halike
    rcases runs_bind.mp h' with ⟨failure', rfl, hf'⟩ | ⟨head', value', _, last', rfl, hv', hl'⟩
    · cases (hfirst hv hf' hrelated halike).1
    · rw [List.append_assoc] at halike
      obtain ⟨hsame, htail, hbetween⟩ := hfirst hv hv' hrelated halike
      cases hsame
      exact hlast value hl hl' (hbetween value rfl) htail

/-- Another name for a failure leaves the agreement. -/
theorem Agrees.rethrow {ended : α → Session → Session → Prop}
    (h : Agrees ignored related action ended) (rename : Failure → Failure) :
    Agrees ignored related (tryCatch action fun failure => throw (rename failure)) ended := by
  intro session session' first second rest others outcome outcome' after after' hr hr' hrelated
    halike
  obtain ⟨result, rfl, hresult⟩ := runs_rethrow.mp hr
  obtain ⟨result', rfl, hresult'⟩ := runs_rethrow.mp hr'
  obtain ⟨rfl, htail, hended⟩ := h hresult hresult' hrelated halike
  exact ⟨rfl, htail, fun value hvalue => hended value (mapError_eq_ok.mp hvalue)⟩

end Action

end WarehouseImport
