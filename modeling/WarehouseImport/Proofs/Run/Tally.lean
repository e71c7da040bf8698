import WarehouseImport.Proofs.Run.Staging
import WarehouseImport.Proofs.Run.Verdict

/-!
# What is counted of an import

An import under way records the rows and columns that it wrote. Statements, timers and cleanups
leave them; only rows that are added and columns that are set change them. So the result of an import
is read off the few exchanges whose answers are counted.

A count of rows is that of a description, or what a query counts where the description leaves it
out or is that of a view.
-/

namespace WarehouseImport

open WarehouseImport.Action

/-- The rows and columns that are recorded of an import. -/
def Progress.tally (progress : Progress) : Json × List String := (progress.rows, progress.columns)

/-- The sum of no rows and a number of rows is that number. -/
theorem addCounts_zero (rows : Int) : addCounts (.int 0) (.int rows) = .ok (.int rows) := by
  by_cases hrows : rows = 0
  · rw [hrows]
    rfl
  · simp [addCounts, Json.isGiven, hrows]

namespace Progress

variable {progress next : Progress}

/-- A timer that starts leaves rows and columns. -/
theorem tally_start {name : String} {now : Float} (h : progress.start name now = .ok next) :
    next.tally = progress.tally := by
  unfold start at h
  split at h
  · cases h
  · rw [← Except.ok.inj h]
    rfl

/-- So does one that stops. -/
theorem tally_stop {name : String} {now : Float} {timer : Timer}
    (h : progress.stop name now = .ok (next, timer)) : next.tally = progress.tally := by
  unfold stop at h
  split at h
  · cases h
  · obtain ⟨rfl, -⟩ := Prod.mk.inj (Except.ok.inj h)
    rfl

end Progress

namespace Action

variable {α β : Type} {action : Action α} {session after : Session} {exchanges : List Exchange}

/-- Every run leaves the rows and columns that are recorded of the import under way. -/
def Uncounted (action : Action α) : Prop :=
  ∀ ⦃session exchanges outcome after⦄, Runs action session exchanges outcome after →
    after.progress.tally = session.progress.tally

/-- What leaves all that is recorded leaves rows and columns. -/
theorem Aside.uncounted (h : Aside action) : Uncounted action :=
  fun _ _ _ _ hrun => congrArg Progress.tally (h hrun)

/-- A sequence leaves rows and columns if its parts do. -/
theorem Uncounted.bind {f : α → Action β} (hfirst : Uncounted action)
    (hlast : ∀ value, Uncounted (f value)) : Uncounted (action >>= f) := by
  intro session exchanges outcome after h
  rcases runs_bind.mp h with ⟨failure, rfl, hf⟩ | ⟨first, value, middle, last, rfl, hv, hl⟩
  · exact hfirst hf
  · exact (hlast value hl).trans (hfirst hv)

/-- A cleanup leaves rows and columns if it does so itself. -/
theorem Uncounted.afterwards {last : Action Unit} (haction : Uncounted action)
    (hlast : Uncounted last) : Uncounted (Action.afterwards action last) := by
  intro session exchanges outcome after h
  obtain ⟨first, result, middle, rest, cleaned, rfl, hr, hc, -⟩ := runs_afterwards.mp h
  exact (hlast hc).trans (haction hr)

/-- A timer starts and leaves rows and columns. -/
theorem uncounted_startTimer (name : String) : Uncounted (startTimer name) := by
  intro session exchanges outcome after h
  rcases runs_ofExcept_bind.mp (runs_get_bind.mp h) with
    ⟨failure, -, -, -, rfl⟩ | ⟨started, hstarted, hset⟩
  · rfl
  · obtain ⟨-, -, rfl⟩ := runs_set.mp hset
    exact Progress.tally_start hstarted

/-- A timer stops and leaves rows and columns. -/
theorem uncounted_stopTimer (name : String) : Uncounted (stopTimer name) := by
  intro session exchanges outcome after h
  rcases runs_ofExcept_bind.mp (runs_get_bind.mp h) with
    ⟨failure, -, -, -, rfl⟩ | ⟨stopped, hstopped, hkeeps⟩
  · rfl
  · cases runs_set_bind.mp hkeeps
    exact Progress.tally_stop hstopped

/-- A timer around an action leaves rows and columns if the action does. -/
theorem Uncounted.timed (haction : Uncounted action) (name : String) :
    Uncounted (Action.timed name action) :=
  (uncounted_startTimer name).bind fun _ => haction.bind fun value =>
    (uncounted_stopTimer name).bind fun _ => (aside_pure value).uncounted

/-- Rows that are added are added to those that were recorded. -/
theorem runs_addRows {count : Json} {value : Unit}
    (h : Runs (addRows count) session exchanges (.ok value) after) :
    exchanges = [] ∧ ∃ rows, addCounts session.progress.rows count = .ok rows ∧
      after.progress.tally = (rows, session.progress.columns) := by
  rcases runs_ofExcept_bind.mp (runs_get_bind.mp h) with
    ⟨failure, -, -, hnever, -⟩ | ⟨next, hnext, hset⟩
  · cases hnever
  obtain ⟨rfl, -, rfl⟩ := runs_set.mp hset
  obtain ⟨progress, hprogress, rfl⟩ := map_eq_ok.mp hnext
  obtain ⟨rows, hrows, rfl⟩ := map_eq_ok.mp hprogress
  exact ⟨rfl, rows, hrows, rfl⟩

/-- Columns that are set take the place of those that were recorded. -/
theorem runs_setColumns {columns : List String} {outcome : Except Failure PUnit}
    (h : Runs (setColumns columns) session exchanges outcome after) :
    exchanges = [] ∧ after.progress.tally = (session.progress.rows, columns) := by
  cases h
  exact ⟨rfl, rfl⟩

end Action

namespace Warehouse

variable {warehouse : Warehouse} {session after : Session} {exchanges : List Exchange}

/-- A statement that is run and ends well brings the number of rows that it affected. -/
theorem runs_execute_ok {statement : Statement} {parameters : Parameters} {rows : Int}
    (hsends : warehouse.dryRun = false)
    (h : Runs (warehouse.execute statement parameters) session exchanges (.ok rows) after) :
    ∃ exchange result, exchanges = [exchange] ∧ exchange.Brings statement result ∧
      rows = result.affected.getD 0 := by
  obtain ⟨_, ⟨⟩, logged, rest, rfl, hlog, hrest⟩ := runs_bind_ok h
  obtain ⟨rfl, -⟩ := quiet_logStatement _ _ _ hlog
  rw [hsends] at hrest
  obtain ⟨_, result, _, _, rfl, hsent, hreturn⟩ := runs_bind_ok hrest
  obtain ⟨bindings, answer, rfl, hverdict⟩ := runs_runStatement_ok hsent
  obtain ⟨rfl, hrows, -⟩ := runs_pure.mp hreturn
  exact ⟨_, result, rfl, ⟨bindings, _, answer, rfl, hverdict⟩, Except.ok.inj hrows⟩

/-- A table that is created takes the statement that creates it. -/
theorem runs_createTable_ok {definition : TableDefinition} {rows : Int}
    (hsends : warehouse.dryRun = false)
    (h : Runs (warehouse.createTable definition) session exchanges (.ok rows) after) :
    ∃ exchange, exchanges = [exchange] ∧
      exchange.statement? = some (.createTable definition.name definition.columns.columns
        definition.primaryKeys) := by
  have hallows := (follows_createTable warehouse definition h).1
  rw [sends, hsends] at hallows
  rcases Trace.allows_of_not_skipped hallows with ⟨-, hnever⟩ | ⟨exchange, rfl, hstatement, -⟩
  · cases hnever
  · exact ⟨exchange, rfl, hstatement⟩

/-- That leaves what is recorded of the import under way. -/
theorem aside_createTable (warehouse : Warehouse) (definition : TableDefinition) :
    Aside (warehouse.createTable definition) :=
  (aside_ofExcept _).bind fun _ => aside_run _ _

/-- The first row of a query is the first of its result. -/
theorem runs_firstRow_ok {statement : Statement} {parameters : Parameters} {timed : Bool}
    {row : Option (List Json)}
    (h : Runs (warehouse.firstRow statement parameters timed) session exchanges (.ok row) after) :
    ∃ exchange result, exchanges = [exchange] ∧ exchange.Brings statement result ∧
      row = result.rows.head? := by
  obtain ⟨_, ⟨⟩, logged, rest, rfl, hlog, hrest⟩ := runs_bind_ok h
  obtain ⟨rfl, -⟩ := quiet_logStatement _ _ _ hlog
  obtain ⟨_, result, ended, last, rfl, hsent, hlast⟩ := runs_bind_ok hrest
  obtain ⟨bindings, answer, rfl, hverdict⟩ := runs_runStatement_ok hsent
  have hreturned : last = [] ∧ row = result.rows.head? := by
    split at hlast
    · obtain ⟨_, ⟨⟩, _, _, rfl, hline, hreturn⟩ := runs_bind_ok hlast
      obtain ⟨rfl, -⟩ := Action.quiet_log _ _ _ hline
      obtain ⟨rfl, hrow, -⟩ := runs_pure.mp hreturn
      exact ⟨rfl, Except.ok.inj hrow⟩
    · obtain ⟨rfl, hrow, -⟩ := runs_pure.mp hlast
      exact ⟨rfl, Except.ok.inj hrow⟩
  obtain ⟨rfl, rfl⟩ := hreturned
  exact ⟨_, result, rfl, ⟨bindings, _, answer, rfl, hverdict⟩, rfl⟩

/-- How the rows of a table are counted: the number of its description is taken, and where that is
left out or the table is a view, the first cell of a query, or zero if it brings none. -/
inductive Counted (table : TableName) : List Exchange → Json → Prop where
  | described {described : ReflectedTable} {rows : Int} (hview : described.isView = false)
      (hrows : described.rows = some rows) :
      Counted table [⟨.reflect table, .ok described⟩] (.int rows)
  | queried {described : ReflectedTable} {exchange : Exchange} {result : JobResult}
      (hrows : described.isView = true ∨ described.rows = none)
      (hbrings : exchange.Brings (.countRows table "") result) :
      Counted table [⟨.reflect table, .ok described⟩, exchange]
        ((result.rows.head?.bind List.head?).getD (.int 0))

/-- A count of rows is read in one of these ways. -/
theorem runs_rowCount_ok {table : TableName} {count : Json}
    (h : Runs (warehouse.rowCount table) session exchanges (.ok count) after) :
    Counted table exchanges count := by
  obtain ⟨_, found, _, rest, rfl, hreflect, hrest⟩ := runs_bind_ok h
  obtain ⟨answer, rfl, hanswer, rfl⟩ := runs_reflect_of_answer hreflect
  cases found with
  | none => cases (runs_throw.mp hrest).2.1
  | some described =>
    obtain rfl : answer = .ok described := reflected_eq_ok.mp hanswer.symm
    dsimp only at hrest
    split at hrest
    · next rows hview hrows =>
      obtain ⟨_, ⟨⟩, _, _, rfl, hline, hreturn⟩ := runs_bind_ok hrest
      obtain ⟨rfl, -⟩ := Action.quiet_log _ _ _ hline
      obtain ⟨rfl, hcount, -⟩ := runs_pure.mp hreturn
      obtain rfl := Except.ok.inj hcount
      exact .described hview hrows
    · next hother =>
      obtain ⟨_, row, _, last, rfl, hrow, hreturn⟩ := runs_bind_ok hrest
      have hreturned : last = [] ∧ count = (row.bind List.head?).getD (.int 0) := by
        rcases row with _ | _ | ⟨cell, cells⟩ <;>
          exact (runs_pure.mp hreturn).imp_right fun h => Except.ok.inj h.1
      obtain ⟨rfl, rfl⟩ := hreturned
      obtain ⟨exchange, result, rfl, hbrings, rfl⟩ := runs_firstRow_ok hrow
      have hrows : described.isView = true ∨ described.rows = none := by
        cases hview : described.isView with
        | true => exact .inl rfl
        | false =>
          cases hknown : described.rows with
          | none => exact .inr rfl
          | some rows => exact (hother rows hview hknown).elim
      exact .queried hrows hbrings

/-- Counting leaves what is recorded of the import under way. -/
theorem aside_rowCount (warehouse : Warehouse) (table : TableName) :
    Aside (warehouse.rowCount table) := by
  have hreflect : Aside (reflect table) := by
    intro session exchanges outcome after h
    obtain ⟨_, -, -, rfl⟩ := runs_reflect_of_answer h
    rfl
  have hfirst : Aside (warehouse.firstRow (.countRows table "") Parameters.none true) :=
    (aside_logStatement _ _ _).bind fun _ => (aside_runStatement _ _ _).bind fun _ =>
      (aside_log _ _ _).bind fun _ => aside_pure _
  refine hreflect.bind fun found => ?_
  cases found with
  | none => exact aside_throw _
  | some described =>
    dsimp only
    split
    · exact (aside_log _ _ _).bind fun _ => aside_pure _
    · refine hfirst.bind fun row => ?_
      split <;> exact aside_pure _

/-- The answer to a description gives a number of rows and one of bytes: zeros for a table that is
missing, and for a number that is left out. -/
def Measures (answer : Except Fault ReflectedTable) (rows bytes : Int) : Prop :=
  (∃ described, answer = .ok described ∧ rows = described.rows.getD 0 ∧
    bytes = described.bytes.getD 0) ∨
  ∃ error, answer = .error (.refused error) ∧ error.kind = .notFound ∧ rows = 0 ∧ bytes = 0

/-- The numbers of rows and bytes are those of one description. -/
theorem runs_stats_ok {table : TableName} {numbers : Int × Int}
    (h : Runs (stats table) session exchanges (.ok numbers) after) :
    ∃ answer, exchanges = [⟨.reflect table, answer⟩] ∧ Measures answer numbers.1 numbers.2 := by
  obtain ⟨_, found, _, rest, rfl, hreflect, hrest⟩ := runs_bind_ok h
  obtain ⟨answer, rfl, hanswer, rfl⟩ := runs_reflect_of_answer hreflect
  have hfound := reflected_eq_ok.mp hanswer.symm
  refine ⟨answer, ?_⟩
  cases found with
  | none =>
    obtain ⟨error, rfl, hkind⟩ := hfound
    obtain ⟨rfl, hnumbers, -⟩ := runs_pure.mp hrest
    obtain rfl := Except.ok.inj hnumbers
    exact ⟨rfl, .inr ⟨error, rfl, hkind, rfl, rfl⟩⟩
  | some described =>
    obtain rfl : answer = .ok described := hfound
    obtain ⟨rfl, hnumbers, -⟩ := runs_pure.mp hrest
    obtain rfl := Except.ok.inj hnumbers
    exact ⟨rfl, .inl ⟨described, rfl, rfl, rfl⟩⟩

end Warehouse

end WarehouseImport
