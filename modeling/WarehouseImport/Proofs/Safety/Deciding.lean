import WarehouseImport.Proofs.Run.Verdict
import WarehouseImport.Proofs.Safety.Clearing

/-!
# Drops that decide how an action ends

The drop of a table decides an action if the action fails wherever the drop fails, in a way that
depends on that failure alone, and if it otherwise ends as though the drop were not there. A missing
table counts as dropped.

Both parts are carried through an import as for the clearing of a staging table: what comes before
does not drop the table, and what comes behind submits nothing more.
-/

namespace WarehouseImport

open WarehouseImport.Action Trace

/-- If the exchange drops the table, it does so or finds it missing. -/
def Exchange.Rids (table : TableName) (exchange : Exchange) : Prop :=
  Call.IsDrop table exchange.call → ∀ failure, exchange.Fails failure → failure.IsMissing

namespace Action

variable {α β : Type} {action : Action α} {ignored : Call → Prop} {clean : Exchange → Prop}
  {related : Session → Session → Prop}

/-- As `Agrees`, for runs all of whose exchanges are clean. -/
def AgreesIf (ignored : Call → Prop) (clean : Exchange → Prop)
    (related : Session → Session → Prop) (action : Action α)
    (ended : α → Session → Session → Prop) : Prop :=
  ∀ ⦃session session' first second rest others outcome outcome' after after'⦄,
    Runs action session first outcome after → Runs action session' second outcome' after' →
    related session session' → AnsweredAlike ignored (first ++ rest) (second ++ others) →
    (∀ exchange ∈ first, clean exchange) → (∀ exchange ∈ second, clean exchange) →
      outcome = outcome' ∧ AnsweredAlike ignored rest others ∧
        ∀ value, outcome = .ok value → ended value after after'

/-- What agrees does so for clean runs. -/
theorem Agrees.if_clean {ended : α → Session → Session → Prop}
    (h : Agrees ignored related action ended) : AgreesIf ignored clean related action ended :=
  fun _ _ _ _ _ _ _ _ _ _ hr hr' hrelated halike _ _ => h hr hr' hrelated halike

/-- A sequence agrees on clean runs if its parts do. -/
theorem AgreesIf.bind {f : α → Action β} {between : α → Session → Session → Prop}
    {ended : β → Session → Session → Prop}
    (hfirst : AgreesIf ignored clean related action between)
    (hlast : ∀ value, AgreesIf ignored clean (between value) (f value) ended) :
    AgreesIf ignored clean related (action >>= f) ended := by
  intro session session' first second rest others outcome outcome' after after' h h' hrelated halike
    hclean hclean'
  rcases runs_bind.mp h with ⟨failure, rfl, hf⟩ | ⟨head, value, middle, last, rfl, hv, hl⟩
  · rcases runs_bind.mp h' with ⟨failure', rfl, hf'⟩ | ⟨head', value', _, last', rfl, hv', -⟩
    · obtain ⟨hsame, htail, -⟩ := hfirst hf hf' hrelated halike hclean hclean'
      cases hsame
      exact ⟨rfl, htail, by simp⟩
    · rw [List.append_assoc] at halike
      cases (hfirst hf hv' hrelated halike hclean (List.forall_mem_append.mp hclean').1).1
  · rw [List.append_assoc] at halike
    obtain ⟨hhead, hrest⟩ := List.forall_mem_append.mp hclean
    rcases runs_bind.mp h' with ⟨failure', rfl, hf'⟩ | ⟨head', value', _, last', rfl, hv', hl'⟩
    · cases (hfirst hv hf' hrelated halike hhead hclean').1
    · rw [List.append_assoc] at halike
      obtain ⟨hhead', hrest'⟩ := List.forall_mem_append.mp hclean'
      obtain ⟨hsame, htail, hbetween⟩ := hfirst hv hv' hrelated halike hhead hhead'
      cases hsame
      exact hlast value hl hl' (hbetween value rfl) htail hrest hrest'

/-- Another name for a failure leaves the agreement on clean runs. -/
theorem AgreesIf.rethrow {ended : α → Session → Session → Prop}
    (h : AgreesIf ignored clean related action ended) (rename : Failure → Failure) :
    AgreesIf ignored clean related (tryCatch action fun failure => throw (rename failure))
      ended := by
  intro session session' first second rest others outcome outcome' after after' hr hr' hrelated
    halike hclean hclean'
  obtain ⟨result, rfl, hresult⟩ := runs_rethrow.mp hr
  obtain ⟨result', rfl, hresult'⟩ := runs_rethrow.mp hr'
  obtain ⟨rfl, htail, hended⟩ := h hresult hresult' hrelated halike hclean hclean'
  exact ⟨rfl, htail, fun value hvalue => hended value (mapError_eq_ok.mp hvalue)⟩

variable {kept target : TableName} {ready : Session → Prop}

/-- From a session that is ready the action does not drop the table; a value that it ends with is of
a kind, and the session is ready for what is next. -/
def Sparing (kept : TableName) (ready : Session → Prop) (action : Action α) (kind : α → Prop)
    (next : Session → Prop) : Prop :=
  ∀ ⦃session exchanges outcome after⦄, Runs action session exchanges outcome after →
    ready session → (∀ exchange ∈ exchanges, ¬ Call.IsDrop kept exchange.call) ∧
      ∀ value, outcome = .ok value → kind value ∧ next after

/-- A prelude drops no table. -/
theorem Prelude.sparing {kind : α → Prop} {next : Session → Prop}
    (h : Prelude target ready action kind next) : Sparing kept ready action kind next := by
  intro session exchanges outcome after hrun hready
  obtain ⟨hidle, hended⟩ := h hrun hready
  exact ⟨fun exchange hmem hdrop => (hidle exchange hmem).not_drops hdrop.drops, hended⟩

/-- An action that drops nothing and leaves the log file open spares the table. -/
theorem sparing_of_follows {trace : Trace} (hfollows : Follows action trace)
    (hdrops : trace.Every (Exchange.DropsOnly fun _ => False)) (hsteady : Steady action) :
    Sparing kept Session.Open action (fun _ => True) Session.Open := by
  intro session exchanges outcome after h hopen
  exact ⟨fun exchange hmem hdrop => hdrops (hfollows h).1 exchange hmem kept hdrop.drops,
    fun _ _ => ⟨trivial, hsteady h hopen⟩⟩

/-- From a session that is ready, a drop of the table that fails ends the action with its failure
under another name, and runs in which none fails agree. -/
structure Decides (kept : TableName) (ready : Session → Prop) (named : Failure → Failure)
    (action : Action α) : Prop where
  /-- A drop that fails takes the place of the outcome. -/
  failed : ∀ ⦃session exchanges outcome after⦄, Runs action session exchanges outcome after →
    ready session → ∀ exchange ∈ exchanges, Call.IsDrop kept exchange.call →
      ∀ failure, exchange.Fails failure → ¬ failure.IsMissing → outcome = .error (named failure)
  /-- A good end leaves the log file open. -/
  opened : ∀ ⦃session exchanges outcome after⦄, Runs action session exchanges outcome after →
    ready session → outcome.isOk = true → after.Open
  /-- Where the table is got rid of, the end does not depend on how. -/
  agrees : AgreesIf (Call.IsDrop kept) (Exchange.Rids kept)
    (fun session session' => session = session' ∧ ready session) action
    fun _ session session' => session.Open ∧ session'.Open

variable {named : Failure → Failure}

/-- What spares the table in front leaves it to what follows to decide. -/
theorem Decides.bind {f : α → Action β} {kind : α → Prop} {next : Session → Prop}
    (hfirst : Sparing kept ready action kind next)
    (hlast : ∀ value, kind value → Decides kept next named (f value)) :
    Decides kept ready named (action >>= f) where
  failed := by
    intro session exchanges outcome after h hready exchange hmem hdrop
    rcases runs_bind.mp h with ⟨failure, rfl, hf⟩ | ⟨first, value, middle, last, rfl, hv, hl⟩
    · exact absurd hdrop ((hfirst hf hready).1 exchange hmem)
    obtain ⟨hspares, hended⟩ := hfirst hv hready
    obtain ⟨hkind, hnext⟩ := hended value rfl
    rcases List.mem_append.mp hmem with hmem | hmem
    · exact absurd hdrop (hspares exchange hmem)
    · exact (hlast value hkind).failed hl hnext exchange hmem hdrop
  opened := by
    intro session exchanges outcome after h hready hok
    rcases runs_bind.mp h with ⟨failure, rfl, hf⟩ | ⟨first, value, middle, last, rfl, hv, hl⟩
    · cases hok
    obtain ⟨hkind, hnext⟩ := (hfirst hv hready).2 value rfl
    exact (hlast value hkind).opened hl hnext hok
  agrees := by
    -- The two runs are one up to the value, since nothing there is ignored.
    apply AgreesIf.bind (agrees_of_not_ignored hfirst).if_clean
    intro value session session' first second rest others outcome outcome' after after' h h' hrelated
    obtain ⟨rfl, hkind, hnext⟩ := hrelated
    exact (hlast value hkind).agrees h h' ⟨rfl, hnext⟩

/-- A prelude in front likewise. -/
theorem Decides.bind_prelude {f : α → Action β} {kind : α → Prop} {next : Session → Prop}
    (hfirst : Prelude kept ready action kind next)
    (hlast : ∀ value, kind value → Decides kept next named (f value)) :
    Decides kept ready named (action >>= f) :=
  Decides.bind hfirst.sparing hlast

/-- What rests behind an action leaves the decision. -/
theorem Decides.bind_coda {f : α → Action β} (hfirst : Decides kept ready named action)
    (hlast : ∀ value, Coda kept (f value)) : Decides kept ready named (action >>= f) where
  failed := by
    intro session exchanges outcome after h hready exchange hmem hdrop failure hfails hkept
    rcases runs_bind.mp h with ⟨other, rfl, hf⟩ | ⟨first, value, middle, last, rfl, hv, hl⟩
    · cases hfirst.failed hf hready exchange hmem hdrop failure hfails hkept
      rfl
    rcases List.mem_append.mp hmem with hmem | hmem
    · cases hfirst.failed hv hready exchange hmem hdrop failure hfails hkept
    · have hrests := ((hlast value).rests hl (hfirst.opened hv hready rfl)).1 exchange hmem
      exact absurd (.inl ⟨_, hdrop.statement⟩) hrests
  opened := by
    intro session exchanges outcome after h hready hok
    rcases runs_bind.mp h with ⟨failure, rfl, hf⟩ | ⟨first, value, middle, last, rfl, hv, hl⟩
    · cases hok
    · exact ((hlast value).rests hl (hfirst.opened hv hready rfl)).2
  agrees := hfirst.agrees.bind fun value => (hlast value).agrees.if_clean

/-- Another name for a failure is one for that of the drop. -/
theorem Decides.rethrow (h : Decides kept ready named action) (rename : Failure → Failure) :
    Decides kept ready (fun failure => rename (named failure))
      (tryCatch action fun failure => throw (rename failure)) where
  failed := by
    intro session exchanges outcome after hrun hready exchange hmem hdrop failure hfails hkept
    obtain ⟨result, rfl, hresult⟩ := runs_rethrow.mp hrun
    rw [h.failed hresult hready exchange hmem hdrop failure hfails hkept]
    rfl
  opened := by
    intro session exchanges outcome after hrun hready hok
    obtain ⟨result, rfl, hresult⟩ := runs_rethrow.mp hrun
    refine h.opened hresult hready ?_
    cases result with
    | ok value => rfl
    | error failure => cases hok
  agrees := h.agrees.rethrow rename

/-- A failure has nothing to decide. -/
theorem decides_throw (failure : Failure) :
    Decides kept ready named (throw failure : Action α) where
  failed := by
    intro session exchanges outcome after h _ exchange hmem
    obtain ⟨rfl, -, -⟩ := runs_throw.mp h
    cases hmem
  opened := by
    intro session exchanges outcome after h _ hok
    obtain ⟨-, rfl, -⟩ := runs_throw.mp h
    cases hok
  agrees := by
    have hclears : Clears kept kept ready (throw failure : Action α) := clears_throw failure
    exact hclears.agrees.if_clean

end Action

end WarehouseImport
