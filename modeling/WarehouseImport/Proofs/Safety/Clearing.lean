import WarehouseImport.Proofs.Drops
import WarehouseImport.Proofs.Run.Alike
import WarehouseImport.Proofs.Run.OpenLog

/-!
# Clearing behind a staging table

A staging table is cleared by an action that drops it last, or that never gets to it. The action is
made of three parts. What comes before the staging table submits nothing but the creation of the
destination; behind that the table is filled and dropped; and what comes after the drop submits
nothing more.

Two runs of such an action that get the same answers to everything but the drop end in the same way.
-/

namespace WarehouseImport

open WarehouseImport.Action Trace

namespace Exchange

/-- The exchange submits a statement or a load that names the table. -/
def Names (exchange : Exchange) (table : TableName) : Prop :=
  (∃ statement, exchange.statement? = some statement ∧ table.sql <:+: statement.sql) ∨
    ∃ request timeout answer, exchange = ⟨.load request timeout, answer⟩ ∧ request.table = table

/-- The exchange creates a table with columns of its own. -/
def Creates (exchange : Exchange) (table : TableName) : Prop :=
  ∃ columns keys, exchange.statement? = some (.createTable table columns keys)

/-- The exchange submits a statement or a load. -/
def Submits (exchange : Exchange) : Prop :=
  (∃ statement, exchange.statement? = some statement) ∨
    ∃ request timeout answer, exchange = ⟨.load request timeout, answer⟩

/-- The exchange submits nothing but the creation of a destination. -/
def Idle (destination : TableName) (exchange : Exchange) : Prop :=
  exchange.Submits → exchange.Creates destination

/-- A statement or load that names a table is submitted. -/
theorem Names.submits {exchange : Exchange} {table : TableName} (h : exchange.Names table) :
    exchange.Submits := by
  rcases h with ⟨statement, hstatement, -⟩ | ⟨request, timeout, answer, rfl, -⟩
  · exact .inl ⟨statement, hstatement⟩
  · exact .inr ⟨request, timeout, answer, rfl⟩

/-- A description submits nothing. -/
theorem not_submits_of_reflect {exchange : Exchange} {table : TableName}
    (h : exchange.call = .reflect table) : ¬ exchange.Submits := by
  obtain ⟨call, answer⟩ := exchange
  cases h
  rintro (⟨statement, hstatement⟩ | ⟨request, timeout, answer, heq⟩)
  · cases hstatement
  · cases heq

end Exchange

/-- The call drops a table. -/
def Call.IsDrop (table : TableName) (call : Call) : Prop :=
  ∃ bindings timeout, call = .query (.drop .table table false) bindings timeout

/-- A staging table is dropped by one statement, and no statement or load comes behind it. -/
def DroppedLast (staging : TableName) (exchanges : List Exchange) : Prop :=
  ∃ before drop after, exchanges = before ++ drop :: after ∧ Call.IsDrop staging drop.call ∧
    (∀ exchange ∈ before, ¬ exchange.Drops staging) ∧ ∀ exchange ∈ after, ¬ exchange.Submits

/-- An exchange whose call is a drop sends the statement. -/
theorem Call.IsDrop.statement {exchange : Exchange} {table : TableName}
    (h : IsDrop table exchange.call) :
    exchange.statement? = some (.drop .table table false) := by
  obtain ⟨call, answer⟩ := exchange
  obtain ⟨bindings, timeout, rfl⟩ := h
  rfl

/-- A drop is dropping. -/
theorem Call.IsDrop.drops {exchange : Exchange} {table : TableName}
    (h : IsDrop table exchange.call) : exchange.Drops table :=
  ⟨_, h.statement, rfl⟩

namespace Exchange

/-- An idle exchange drops nothing. -/
theorem Idle.not_drops {exchange : Exchange} {destination table : TableName}
    (h : exchange.Idle destination) : ¬ exchange.Drops table := by
  rintro ⟨statement, hstatement, hdrops⟩
  obtain ⟨columns, keys, hcreates⟩ := h (.inl ⟨statement, hstatement⟩)
  obtain rfl := Option.some.inj (hstatement.symm.trans hcreates)
  exact hdrops

end Exchange

namespace Action

variable {α β : Type} {action : Action α} {staging destination : TableName}
  {ready : Session → Prop}

/-- From a session that is ready the action submits nothing but the creation of a destination; a
value that it ends with is of a kind, and the session is ready for what is next. -/
def Prelude (destination : TableName) (ready : Session → Prop) (action : Action α)
    (kind : α → Prop) (next : Session → Prop) : Prop :=
  ∀ ⦃session exchanges outcome after⦄, Runs action session exchanges outcome after →
    ready session → (∀ exchange ∈ exchanges, exchange.Idle destination) ∧
      ∀ value, outcome = .ok value → kind value ∧ next after

/-- Behind the drop of a staging table the action submits nothing, and how it ends only depends on
the answers, as long as the log file is open. -/
structure Coda (staging : TableName) (action : Action α) : Prop where
  /-- Nothing is submitted, and the log file stays open. -/
  rests : ∀ ⦃session exchanges outcome after⦄, Runs action session exchanges outcome after →
    session.Open → (∀ exchange ∈ exchanges, ¬ exchange.Submits) ∧ after.Open
  /-- The end does not depend on the session. -/
  agrees : Agrees (Call.IsDrop staging) (fun session session' => session.Open ∧ session'.Open)
    action fun _ session session' => session.Open ∧ session'.Open

/-- From a session that is ready the action drops the staging table last or submits nothing but the
creation of the destination, and what comes of the drop has no part in how it ends. -/
structure Clears (staging destination : TableName) (ready : Session → Prop) (action : Action α) :
    Prop where
  /-- The staging table is dropped last, or nothing but the destination is created. -/
  cleared : ∀ ⦃session exchanges outcome after⦄, Runs action session exchanges outcome after →
    ready session → ((∀ exchange ∈ exchanges, exchange.Idle destination) ∨
      DroppedLast staging exchanges) ∧ (outcome.isOk = true → after.Open)
  /-- The end does not depend on the answer to the drop. -/
  agrees : Agrees (Call.IsDrop staging) (fun session session' => session = session' ∧ ready session)
    action fun _ session session' => session.Open ∧ session'.Open

/-- A prelude in front leaves it to what follows to clear. -/
theorem Clears.bind {f : α → Action β} {kind : α → Prop} {next : Session → Prop}
    (hfirst : Prelude destination ready action kind next)
    (hlast : ∀ value, kind value → Clears staging destination next (f value)) :
    Clears staging destination ready (action >>= f) where
  cleared := by
    intro session exchanges outcome after h hready
    rcases runs_bind.mp h with ⟨failure, rfl, hf⟩ | ⟨first, value, middle, last, rfl, hv, hl⟩
    · exact ⟨.inl (hfirst hf hready).1, by simp⟩
    obtain ⟨hidle, hended⟩ := hfirst hv hready
    obtain ⟨hkind, hnext⟩ := hended value rfl
    obtain ⟨hcleared, hopen⟩ := (hlast value hkind).cleared hl hnext
    refine ⟨?_, hopen⟩
    rcases hcleared with hidle' | ⟨before, drop, rest, rfl, hdrop, hbefore, hrest⟩
    · exact .inl (List.forall_mem_append.mpr ⟨hidle, hidle'⟩)
    · refine .inr ⟨first ++ before, drop, rest, by simp, hdrop, ?_, hrest⟩
      exact List.forall_mem_append.mpr
        ⟨fun exchange hmem => (hidle exchange hmem).not_drops, hbefore⟩
  agrees := by
    -- The two runs are one up to the value, since no idle exchange is a drop.
    have hsame : Agrees (Call.IsDrop staging)
        (fun session session' => session = session' ∧ ready session) action
        fun value after after' => after = after' ∧ kind value ∧ next after := by
      apply agrees_of_not_ignored
      intro session exchanges outcome after hrun hready
      obtain ⟨hidle, hended⟩ := hfirst hrun hready
      exact ⟨fun exchange hmem hdrop => (hidle exchange hmem).not_drops hdrop.drops, hended⟩
    apply hsame.bind
    intro value session session' first second rest others outcome outcome' after after' h h' hrelated
    obtain ⟨rfl, hkind, hnext⟩ := hrelated
    exact (hlast value hkind).agrees h h' ⟨rfl, hnext⟩

/-- What rests behind an action leaves it cleared. -/
theorem Clears.bind_coda {f : α → Action β} (hfirst : Clears staging destination ready action)
    (hlast : ∀ value, Coda staging (f value)) :
    Clears staging destination ready (action >>= f) where
  cleared := by
    intro session exchanges outcome after h hready
    rcases runs_bind.mp h with ⟨failure, rfl, hf⟩ | ⟨first, value, middle, last, rfl, hv, hl⟩
    · exact ⟨(hfirst.cleared hf hready).1, by simp⟩
    obtain ⟨hcleared, hopen⟩ := hfirst.cleared hv hready
    obtain ⟨hrests, hafter⟩ := (hlast value).rests hl (hopen rfl)
    refine ⟨?_, fun _ => hafter⟩
    rcases hcleared with hidle | ⟨before, drop, rest, rfl, hdrop, hbefore, hrest⟩
    · exact .inl (List.forall_mem_append.mpr
        ⟨hidle, fun exchange hmem hsubmits => (hrests exchange hmem hsubmits).elim⟩)
    · exact .inr ⟨before, drop, rest ++ last, by simp, hdrop, hbefore,
        List.forall_mem_append.mpr ⟨hrest, hrests⟩⟩
  agrees := hfirst.agrees.bind fun value => (hlast value).agrees

/-- Another name for a failure leaves an action cleared. -/
theorem Clears.rethrow (h : Clears staging destination ready action)
    (rename : Failure → Failure) :
    Clears staging destination ready
      (tryCatch action fun failure => throw (rename failure)) where
  cleared := by
    intro session exchanges outcome after hrun hready
    obtain ⟨result, rfl, hresult⟩ := runs_rethrow.mp hrun
    obtain ⟨hcleared, hopen⟩ := h.cleared hresult hready
    refine ⟨hcleared, fun hok => hopen ?_⟩
    cases result with
    | ok value => rfl
    | error failure => cases hok
  agrees := h.agrees.rethrow rename

/-- A failure has nothing to clear. -/
theorem clears_throw (failure : Failure) :
    Clears staging destination ready (throw failure : Action α) where
  cleared := by
    intro session exchanges outcome after h _
    obtain ⟨rfl, rfl, rfl⟩ := runs_throw.mp h
    exact ⟨.inl (by simp), by simp⟩
  agrees := by
    intro session session' first second rest others outcome outcome' after after' h h' _ halike
    obtain ⟨rfl, rfl, -⟩ := runs_throw.mp h
    obtain ⟨rfl, rfl, -⟩ := runs_throw.mp h'
    exact ⟨rfl, halike, by simp⟩

/-- Results in front of an action are a prelude to it. -/
theorem prelude_ofExcept (result : Except Failure α) :
    Prelude destination ready (ofExcept result) (fun value => result = .ok value) ready := by
  intro session exchanges outcome after h hready
  obtain ⟨rfl, rfl, rfl⟩ := runs_ofExcept.mp h
  exact ⟨by simp, fun value hvalue => ⟨hvalue, hready⟩⟩

/-- A quiet action that ends well without a value of its own is a coda. -/
theorem coda_of_sure {action : Action Unit} (hquiet : Quiet action) (hsure : Sure action) :
    Coda staging action where
  rests := by
    intro session exchanges outcome after h hopen
    obtain ⟨rfl, -⟩ := hquiet h
    exact ⟨by simp, (hsure h hopen).2⟩
  agrees := by
    intro session session' first second rest others outcome outcome' after after' h h' hopen halike
    obtain ⟨rfl, -⟩ := hquiet h
    obtain ⟨rfl, -⟩ := hquiet h'
    obtain ⟨hok, hafter⟩ := hsure h hopen.1
    obtain ⟨hok', hafter'⟩ := hsure h' hopen.2
    cases outcome with
    | error failure => cases hok
    | ok value =>
      cases outcome' with
      | error failure => cases hok'
      | ok value' => exact ⟨rfl, halike, fun _ _ => ⟨hafter, hafter'⟩⟩

/-- A result is a coda. -/
theorem coda_ofExcept (result : Except Failure α) : Coda staging (ofExcept result) where
  rests := by
    intro session exchanges outcome after h hopen
    obtain ⟨rfl, -, rfl⟩ := runs_ofExcept.mp h
    exact ⟨by simp, hopen⟩
  agrees := agrees_ofExcept result

/-- A value is a coda. -/
theorem coda_pure (value : α) : Coda staging (pure value) := coda_ofExcept (.ok value)

/-- A failure is a coda. -/
theorem coda_throw (failure : Failure) : Coda staging (throw failure : Action α) :=
  coda_ofExcept (.error failure)

/-- The question for a description is a coda. -/
theorem coda_ask_reflect (table : TableName) : Coda staging (ask (.reflect table)) where
  rests := by
    intro session exchanges outcome after h hopen
    obtain ⟨answer, rfl, -, rfl⟩ := runs_ask.mp h
    refine ⟨fun exchange hmem => ?_, hopen⟩
    rw [List.mem_singleton.mp hmem]
    exact Exchange.not_submits_of_reflect rfl
  agrees := by
    refine agrees_ask ?_
    rintro ⟨bindings, timeout, heq⟩
    cases heq

/-- A sequence of codas is one. -/
theorem Coda.bind {f : α → Action β} (hfirst : Coda staging action)
    (hlast : ∀ value, Coda staging (f value)) : Coda staging (action >>= f) where
  rests := by
    intro session exchanges outcome after h hopen
    rcases runs_bind.mp h with ⟨failure, rfl, hf⟩ | ⟨first, value, middle, last, rfl, hv, hl⟩
    · exact hfirst.rests hf hopen
    · obtain ⟨hrests, hmiddle⟩ := hfirst.rests hv hopen
      obtain ⟨hrests', hafter⟩ := (hlast value).rests hl hmiddle
      exact ⟨List.forall_mem_append.mpr ⟨hrests, hrests'⟩, hafter⟩
  agrees := hfirst.agrees.bind fun value => (hlast value).agrees

end Action

end WarehouseImport
