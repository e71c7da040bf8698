import WarehouseImport.Warehouse.Basic

/-!
# Exchanges and runs of scripts

An exchange is a call with the answer it got. A script runs through a list of exchanges to a value
when it makes these calls in this order, gets these answers and ends with the value. Nothing is
assumed about the answers, so a statement about every run is a statement about every behaviour of
the outside.

The run of a script against an outside that answers by the calls before is one of these runs.
-/

namespace WarehouseImport

/-- A call and what came back. -/
structure Exchange where
  call : Call
  answer : call.Answer

namespace Exchange

/-- The statement that was sent, if the call is one. -/
def statement? (exchange : Exchange) : Option Statement :=
  match exchange.call with
  | .query statement _ _ => some statement
  | _ => none

/-- The table that the call creates, fills, writes or drops. -/
def target? (exchange : Exchange) : Option TableName :=
  match exchange.call with
  | .query statement _ _ => statement.target?
  | .load request _ => some request.table
  | _ => none

/-- Whether the call ended well: a job was accepted and ended without a fault, that of a statement
in the state that marks it as done, and other answers are no faults. -/
def Done : Exchange → Prop
  | ⟨.connect _, _⟩ => True
  | ⟨.reflect _, answer⟩ => ∃ described, answer = .ok described
  | ⟨.query .., answer⟩ => ∃ job result,
      answer = .ok job ∧ job.outcome = .ok result ∧ result.state = Warehouse.doneState
  | ⟨.load .., answer⟩ => ∃ job result, answer = .ok job ∧ job.outcome = .ok result
  | ⟨.openFile .., answer⟩ => ∃ text, answer = some text

/-- An exchange that sends a statement has the target of the statement. -/
theorem target?_of_statement? {exchange : Exchange} {statement : Statement}
    (h : exchange.statement? = some statement) : exchange.target? = statement.target? := by
  obtain ⟨call, answer⟩ := exchange
  cases call with
  | query sent bindings timeout =>
    obtain rfl : sent = statement := Option.some.inj h
    rfl
  | _ => cases h

end Exchange

namespace Script

variable {α β : Type}

/-- A script makes the calls of the exchanges, gets their answers, and ends with the value. -/
inductive Runs : Script α → List Exchange → α → Prop where
  | done (value : α) : Runs (.done value) [] value
  | ask {call : Call} {next : call.Answer → Script α} {exchanges : List Exchange} {value : α}
      (answer : call.Answer) (rest : Runs (next answer) exchanges value) :
      Runs (.ask call next) (⟨call, answer⟩ :: exchanges) value

/-- The runs of two scripts one after the other are a run of the first and then one of the second
from its value. -/
theorem runs_bind {script : Script α} {f : α → Script β} {exchanges : List Exchange} {value : β} :
    Runs (script.bind f) exchanges value ↔
      ∃ first middle last, exchanges = first ++ last ∧ Runs script first middle ∧
        Runs (f middle) last value := by
  induction script generalizing exchanges with
  | done middle =>
    constructor
    · intro h
      exact ⟨[], middle, exchanges, rfl, .done middle, h⟩
    · rintro ⟨first, _, last, rfl, hfirst, hlast⟩
      cases hfirst
      exact hlast
  | ask call next ih =>
    constructor
    · intro h
      cases h with
      | ask answer rest =>
        obtain ⟨first, middle, last, rfl, hfirst, hlast⟩ := (ih answer).mp rest
        exact ⟨⟨call, answer⟩ :: first, middle, last, rfl, .ask answer hfirst, hlast⟩
    · rintro ⟨first, middle, last, rfl, hfirst, hlast⟩
      cases hfirst with
      | ask answer rest =>
        exact .ask answer ((ih answer).mpr ⟨_, middle, last, rfl, rest, hlast⟩)

/-- The exchanges of a run determine its value. -/
theorem Runs.value_unique {script : Script α} {exchanges : List Exchange} {value other : α}
    (hfirst : Runs script exchanges value) (hsecond : Runs script exchanges other) :
    value = other := by
  induction hfirst with
  | done value =>
    cases hsecond
    rfl
  | ask answer rest ih =>
    cases hsecond with
    | ask _ rest' => exact ih rest'

/-- An outside in which every job is done and every table is described as given. -/
def obliging (tables : TableName → Except Fault ReflectedTable) :
    List Call → (call : Call) → call.Answer
  | _, .connect _ => "project"
  | _, .reflect table => tables table
  | _, .query .. => .ok ⟨"job", 0, .ok ⟨Warehouse.doneState, none, []⟩⟩
  | _, .load .. => .ok ⟨"job", 0, .ok ⟨Warehouse.doneState, none, []⟩⟩
  | _, .openFile .. => none

/-- The exchanges of a script with an outside that answers each call by the calls before it, latest
first. -/
def exchanges (outside : List Call → (call : Call) → call.Answer) (before : List Call) :
    Script α → List Exchange
  | done _ => []
  | ask call next =>
    ⟨call, outside before call⟩ ::
      exchanges outside (call :: before) (next (outside before call))

/-- Running a script against an outside is a run through its exchanges with it. -/
theorem runs_run (outside : List Call → (call : Call) → call.Answer) (before : List Call)
    (script : Script α) :
    Runs script (exchanges outside before script) (run outside before script).1 := by
  induction script generalizing before with
  | done value => exact .done value
  | ask call next ih => exact .ask (outside before call) (ih (outside before call) (call :: before))

/-- The exchanges with an outside hold the answers of it. -/
theorem answer_of_mem_exchanges {outside : List Call → (call : Call) → call.Answer}
    {before : List Call} {script : Script α} {exchange : Exchange}
    (h : exchange ∈ script.exchanges outside before) :
    ∃ earlier, exchange.answer = outside earlier exchange.call := by
  induction script generalizing before with
  | done value => cases h
  | ask call next ih =>
    rcases List.mem_cons.mp h with rfl | hrest
    · exact ⟨before, rfl⟩
    · exact ih _ hrest

/-- The calls of a run against an outside are those of its exchanges. -/
theorem run_calls (outside : List Call → (call : Call) → call.Answer) (before : List Call)
    (script : Script α) :
    (run outside before script).2 =
      ((exchanges outside before script).map Exchange.call).reverse ++ before := by
  induction script generalizing before with
  | done value => rfl
  | ask call next ih =>
    simp only [run, exchanges, List.map_cons, List.reverse_cons, List.append_assoc,
      List.cons_append, List.nil_append]
    exact ih (outside before call) (call :: before)

end Script

end WarehouseImport
