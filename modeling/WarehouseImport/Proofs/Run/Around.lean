import WarehouseImport.Proofs.Run.Quiet

/-!
# Steps, timers and cleanups

A step and a timer surround an action with quiet ones. Every run of them is a run of the action
through the same exchanges, or ends before the action begins; and what they end with is the value of
the action or a failure.

A cleanup runs behind whatever the action ended with, so its exchanges always follow.
-/

namespace WarehouseImport.Action

variable {α β : Type} {action : Action α} {session after : Session} {exchanges : List Exchange}
  {outcome : Except Failure α}

/-- Every run of the outer action is one of the inner action through the same exchanges, unless it
fails before the inner action begins. -/
def Around (outer inner : Action α) : Prop :=
  ∀ ⦃session exchanges outcome after⦄, Runs outer session exchanges outcome after →
    (exchanges = [] ∧ after.drawn = session.drawn ∧ ∃ failure, outcome = .error failure) ∨
      ∃ before result behind, before.drawn = session.drawn ∧ after.drawn = behind.drawn ∧
        Runs inner before exchanges result behind ∧
        ∀ value, outcome = .ok value → result = .ok value

/-- A value of the outer action is one of the inner action through the same exchanges. -/
theorem Around.runs_ok {outer inner : Action α} {value : α} (haround : Around outer inner)
    (h : Runs outer session exchanges (.ok value) after) :
    ∃ before behind, before.drawn = session.drawn ∧ after.drawn = behind.drawn ∧
      Runs inner before exchanges (.ok value) behind := by
  rcases haround h with
    ⟨-, -, failure, hfailure⟩ | ⟨before, result, behind, hbefore, hbehind, hr, hvalue⟩
  · cases hfailure
  · obtain rfl := hvalue value rfl
    exact ⟨before, behind, hbefore, hbehind, hr⟩

/-- A timer surrounds the action that it times. -/
theorem around_timed (name : String) (action : Action α) : Around (timed name action) action := by
  intro session exchanges outcome after h
  rcases (quiet_startTimer name).runs_bind h with hfailed | ⟨-, before, -, hbefore, hrest⟩
  · exact .inl hfailed
  · right
    rcases runs_bind.mp hrest with ⟨failure, rfl, hf⟩ | ⟨first, value, behind, last, rfl, hv, hl⟩
    · exact ⟨before, _, after, hbefore, rfl, hf, by simp⟩
    · rcases (quiet_stopTimer name).runs_bind hl with
        ⟨rfl, hdrawn, failure, rfl⟩ | ⟨-, stopped, -, hstopped, hreturn⟩
      · exact ⟨before, _, behind, hbefore, hdrawn, by simpa using hv, by simp⟩
      · obtain ⟨rfl, rfl, rfl⟩ := runs_pure.mp hreturn
        refine ⟨before, _, behind, hbefore, hstopped, by simpa using hv, ?_⟩
        intro other hother
        exact hother

/-- The lines at the end of a step surround its body. -/
theorem around_stepBody (timer : Timer) (began : Int) (recorded : Bool) (body : Action α) :
    Around (stepBody timer began recorded body) body := by
  intro session exchanges outcome after h
  right
  rcases runs_bind.mp h with ⟨failure, rfl, hf⟩ | ⟨first, value, behind, last, rfl, hv, hl⟩
  · exact ⟨session, _, after, rfl, rfl, hf, by simp⟩
  · rcases (quiet_endStep timer began recorded).runs_bind hl with
      ⟨rfl, hdrawn, failure, rfl⟩ | ⟨-, ended, -, hended, hreturn⟩
    · exact ⟨session, _, behind, rfl, hdrawn, by simpa using hv, by simp⟩
    · obtain ⟨rfl, rfl, rfl⟩ := runs_pure.mp hreturn
      refine ⟨session, _, behind, rfl, hended, by simpa using hv, ?_⟩
      intro other hother
      exact hother

/-- A quiet handler that never ends with a value surrounds the action it watches. -/
theorem Around.tryCatch {inner : Action α} {handle : Failure → Action α}
    (houter : Around action inner) (hquiet : ∀ failure, Quiet (handle failure))
    (hfails : ∀ failure {session exchanges outcome after},
      Runs (handle failure) session exchanges outcome after → ∃ other, outcome = .error other) :
    Around (tryCatch action handle) inner := by
  intro session exchanges outcome after h
  rcases runs_tryCatch.mp h with
    ⟨value, rfl, hv⟩ | ⟨first, failure, middle, last, rfl, hf, hl⟩
  · exact houter hv
  · obtain ⟨rfl, hdrawn⟩ := hquiet failure hl
    obtain ⟨other, rfl⟩ := hfails failure hl
    rcases houter hf with ⟨hnil, hdrawn', -⟩ | ⟨before, result, behind, hbefore, hbehind, hr, -⟩
    · exact .inl ⟨by simpa using hnil, hdrawn.trans hdrawn', other, rfl⟩
    · exact .inr ⟨before, result, behind, hbefore, hdrawn.trans hbehind, by simpa using hr, by simp⟩

/-- Quiet actions in front leave an action surrounded. -/
theorem Around.bind {inner : Action α} {first : Action β} {f : β → Action α}
    (hfirst : Quiet first) (hlast : ∀ value, Around (f value) inner) :
    Around (first >>= f) inner := by
  intro session exchanges outcome after h
  rcases hfirst.runs_bind h with hfailed | ⟨value, middle, -, hmiddle, hrest⟩
  · exact .inl hfailed
  · rcases hlast value hrest with
      ⟨hnil, hdrawn, hfailure⟩ | ⟨before, result, behind, hbefore, hbehind, hr, hvalue⟩
    · exact .inl ⟨hnil, hdrawn.trans hmiddle, hfailure⟩
    · exact .inr ⟨before, result, behind, hbefore.trans hmiddle, hbehind, hr, hvalue⟩

/-- A failure surrounds every action. -/
theorem around_throw (failure : Failure) (inner : Action α) :
    Around (throw failure) inner := by
  intro session exchanges outcome after h
  obtain ⟨rfl, rfl, rfl⟩ := runs_throw.mp h
  exact .inl ⟨rfl, rfl, failure, rfl⟩

/-- A step surrounds its body. -/
theorem around_step (name : String) (recorded : Bool) (body : Action α) :
    Around (step name recorded body) body := by
  unfold step
  split
  · exact around_throw _ _
  · refine Around.bind (quiet_beginStep name) fun began => Around.bind quiet_now fun now => ?_
    refine (around_stepBody _ began recorded body).tryCatch ?_ ?_
    · intro failure
      exact quiet_now.bind fun _ => (quiet_log _ _ _).bind fun _ => quiet_throw failure
    · intro failure session exchanges outcome after h
      rcases runs_bind.mp h with ⟨other, rfl, -⟩ | ⟨_, _, _, _, -, -, hlog⟩
      · exact ⟨other, rfl⟩
      rcases runs_bind.mp hlog with ⟨other, rfl, -⟩ | ⟨_, _, _, _, -, -, hthrow⟩
      · exact ⟨other, rfl⟩
      exact ⟨failure, (runs_throw.mp hthrow).2.1⟩

/-- A handler that only names the failure in another way leaves exchanges and values. -/
theorem runs_rethrow {rename : Failure → Failure} :
    Runs (tryCatch action fun failure => throw (rename failure)) session exchanges outcome after ↔
      ∃ result, outcome = result.mapError rename ∧
        Runs action session exchanges result after := by
  rw [runs_tryCatch]
  constructor
  · rintro (⟨value, rfl, hv⟩ | ⟨first, failure, middle, last, rfl, hf, hl⟩)
    · exact ⟨.ok value, rfl, hv⟩
    · obtain ⟨rfl, rfl, rfl⟩ := runs_throw.mp hl
      exact ⟨.error failure, rfl, by simpa using hf⟩
  · rintro ⟨result, rfl, h⟩
    cases result with
    | ok value => exact .inl ⟨value, rfl, h⟩
    | error failure =>
      exact .inr ⟨exchanges, failure, after, [], by simp, h, runs_throw.mpr ⟨rfl, rfl, rfl⟩⟩

/-- What an action ends with can be kept as a value. -/
theorem runs_caught {kept : Except Failure (Except Failure α)} :
    Runs (tryCatch (Except.ok <$> action) fun failure => pure (.error failure)) session exchanges
        kept after ↔
      ∃ result, kept = .ok result ∧ Runs action session exchanges result after := by
  rw [runs_tryCatch]
  constructor
  · rintro (⟨value, rfl, hv⟩ | ⟨begin, failure, m, rest, rfl, hf, hl⟩)
    · obtain ⟨result, hresult, hr⟩ := runs_map.mp hv
      cases result with
      | ok given => exact ⟨.ok given, hresult, hr⟩
      | error failure => cases hresult
    · obtain ⟨rfl, rfl, rfl⟩ := runs_pure.mp hl
      obtain ⟨result, hresult, hr⟩ := runs_map.mp hf
      cases result with
      | ok given => cases hresult
      | error other =>
        cases hresult
        exact ⟨.error failure, rfl, by simpa using hr⟩
  · rintro ⟨result, rfl, h⟩
    cases result with
    | ok given => exact .inl ⟨.ok given, rfl, runs_map.mpr ⟨.ok given, rfl, h⟩⟩
    | error failure =>
      exact .inr ⟨exchanges, failure, after, [], by simp, runs_map.mpr ⟨.error failure, rfl, h⟩,
        runs_pure.mpr ⟨rfl, rfl, rfl⟩⟩

/-- A cleanup follows the action whatever it ended with, and its failure takes the place of that. -/
theorem runs_afterwards {last : Action Unit} :
    Runs (afterwards action last) session exchanges outcome after ↔
      ∃ first result middle rest cleaned, exchanges = first ++ rest ∧
        Runs action session first result middle ∧ Runs last middle rest cleaned after ∧
        outcome = cleaned >>= fun _ => result := by
  unfold afterwards
  rw [runs_bind]
  constructor
  · rintro (⟨failure, rfl, hf⟩ | ⟨first, result, middle, rest, rfl, hv, hl⟩)
    · obtain ⟨_, hkept, -⟩ := runs_caught.mp hf
      cases hkept
    · obtain ⟨given, hkept, hr⟩ := runs_caught.mp hv
      obtain rfl := Except.ok.inj hkept
      rcases runs_bind.mp hl with ⟨failure, rfl, hf⟩ | ⟨rest, ⟨⟩, m, none, rfl, hc, hend⟩
      · exact ⟨first, result, middle, rest, .error failure, rfl, hr, hf, rfl⟩
      · obtain ⟨rfl, rfl, rfl⟩ := runs_ofExcept.mp hend
        exact ⟨first, outcome, middle, rest, .ok (), by simp, hr, hc, rfl⟩
  · rintro ⟨first, result, middle, rest, cleaned, rfl, hr, hc, rfl⟩
    refine .inr ⟨first, result, middle, rest, rfl, runs_caught.mpr ⟨result, rfl, hr⟩, ?_⟩
    rw [runs_bind]
    cases cleaned with
    | ok value =>
      exact .inr ⟨rest, value, after, [], by simp, hc, runs_ofExcept.mpr ⟨rfl, rfl, rfl⟩⟩
    | error failure => exact .inl ⟨failure, rfl, hc⟩

end WarehouseImport.Action
