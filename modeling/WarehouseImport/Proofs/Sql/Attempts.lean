import WarehouseImport.Proofs.Sql.References
import WarehouseImport.Sql.Builder

/-!
# Steps that may fail

Steps are attempted on a selection one after another, and a step that fails does not keep the next
one from being attempted. A step works on the selection itself, and the name of the next parameter
is read off the bindings there are, so a step that failed half way could shift the numbers of all
later ones.

It does not: as long as the parameters are numbered one by one, a step either does all that it does
where selections are built without failures, or it does nothing. Either way the parameters are
numbered one by one again, which carries this from one step to any number of them.
-/

namespace WarehouseImport

open FilterClause (parameterName)

namespace FilterClause

/-- The number of the parameter that a condition refers to, if it is one of a filter. -/
def parameter? : FilterClause → Option Nat
  | recent _ => none
  | compare _ _ _ _ number => some number

end FilterClause

namespace FilterStep

/-- The call that makes a step. -/
def call : FilterStep → Building Unit
  | recent seconds => Building.addRecent seconds
  | filter spec => Building.addFilter spec

/-- Attempts steps one after another, whether or not the ones before failed; each has its
outcome. -/
def attempts (steps : List FilterStep) : StateM FilterQuery (List (Except Failure Unit)) :=
  steps.mapM fun step => step.call.run

/-- The steps that did not fail. -/
def kept (steps : List FilterStep) (outcomes : List (Except Failure Unit)) : List FilterStep :=
  ((steps.zip outcomes).filter fun attempt => attempt.2.isOk).map Prod.fst

/-- Where no step fails, all are kept. -/
theorem kept_of_ok (steps : List FilterStep) : kept steps (steps.map fun _ => .ok ()) = steps := by
  induction steps with
  | nil => rfl
  | cons step steps ih => exact congrArg (step :: ·) ih

end FilterStep

namespace FilterQuery

/-- The parameters of a selection are numbered one by one: so are the names of its bindings, and so
are the conditions that refer to them. -/
structure Numbered (query : FilterQuery) : Prop where
  names : query.bindings.map Binding.name =
    (List.range' 1 query.bindings.length).map parameterName
  parameters : query.clauses.filterMap FilterClause.parameter? =
    List.range' 1 query.bindings.length

/-- What becomes of a selection: the next one, or with a failure still the same. -/
def unlessFailed (query : FilterQuery) :
    Except Failure FilterQuery → Except Failure Unit × FilterQuery
  | .ok next => (.ok (), next)
  | .error failure => (.error failure, query)

variable {query next : FilterQuery} {step : FilterStep}

theorem Numbered.start (table : TableName) : (start table).Numbered := ⟨rfl, rfl⟩

/-- The name of the next parameter is new. -/
theorem Numbered.next_notMem (h : query.Numbered) :
    parameterName (query.bindings.length + 1) ∉ query.bindings.map Binding.name := by
  intro hmem
  rw [h.names] at hmem
  obtain ⟨number, hnumber, hsame⟩ := List.mem_map.mp hmem
  have hlast := FilterClause.parameterName_injective hsame
  have hrange := List.mem_range'_1.mp hnumber
  omega

/-- A step that is made goes on with the numbers. -/
theorem Numbered.take (h : query.Numbered) (hstep : query.take step = .ok next) :
    next.Numbered := by
  obtain ⟨clauses, bindings, hgives, rfl⟩ := take_eq_ok.mp hstep
  cases hgives with
  | recent seconds =>
    refine ⟨by simpa [extended] using h.names, ?_⟩
    have hnone : (if 0 < seconds then [FilterClause.recent seconds] else []).filterMap
        FilterClause.parameter? = [] := by
      split <;> rfl
    simp only [extended, List.filterMap_append, hnone, List.append_nil]
    exact h.parameters
  | filter hcheck hgives =>
    cases hgives <;>
      exact ⟨by simp [extended, h.names, List.range'_concat, Nat.add_comm],
        by simp [extended, FilterClause.parameter?, h.parameters, List.range'_concat, Nat.add_comm]⟩

end FilterQuery

namespace Building

variable {α : Type} {query : FilterQuery}

/-- A step that begins with a result goes on with it, or fails with it and changes nothing. -/
theorem run_result_bind {result : Except Failure α} {step : α → Building Unit}
    {next : α → Except Failure FilterQuery}
    (h : ∀ value, (step value).run.run query = query.unlessFailed (next value)) :
    (liftM result >>= step : Building Unit).run.run query =
      query.unlessFailed (result >>= next) := by
  cases result with
  | ok value => exact h value
  | error failure => rfl

/-- A value that is bound, and the condition that refers to it, stand behind what was there. -/
theorem run_bindNext_require (h : query.Numbered) (type : String) (value : BoundValue)
    (clause : Nat → FilterClause) :
    (bindNext type value >>= fun number => require (clause number) : Building Unit).run.run query =
      (.ok (), query.extended [clause (query.bindings.length + 1)]
        [⟨parameterName (query.bindings.length + 1), type, value⟩]) := by
  have hput :
      Binding.insert query.bindings ⟨parameterName (query.bindings.length + 1), type, value⟩ =
        query.bindings ++ [⟨parameterName (query.bindings.length + 1), type, value⟩] :=
    Keyed.put_of_notMem h.next_notMem
  rw [FilterQuery.extended, ← hput]
  rfl

/-- A filter is added to numbered parameters as it is where failures end the selection, and a filter
that fails adds nothing. -/
theorem run_addFilter (h : query.Numbered) (spec : FilterSpec) :
    (addFilter spec).run.run query = query.unlessFailed (query.add spec) := by
  refine run_result_bind fun filter => ?_
  obtain ⟨column, operator, values, type⟩ := filter
  match values with
  | [] => rfl
  | [value] =>
    refine run_result_bind fun cast => ?_
    refine run_result_bind fun bound => ?_
    exact run_bindNext_require h _ _ _
  | first :: second :: others =>
    unfold FilterQuery.restrict
    dsimp only
    cases operator.several? with
    | none => rfl
    | some symbol =>
      refine run_result_bind fun cast => ?_
      refine run_result_bind fun bound => ?_
      exact run_bindNext_require h _ _ _

end Building

namespace FilterQuery

variable {query next : FilterQuery} {table : TableName} {step : FilterStep}
  {steps : List FilterStep}

/-- A step on numbered parameters is made, or it fails and changes nothing. -/
theorem Numbered.run_call (h : query.Numbered) (step : FilterStep) :
    step.call.run.run query = query.unlessFailed (query.take step) := by
  cases step with
  | recent seconds =>
    change (Building.addRecent seconds).run.run query = (.ok (), query.within seconds)
    unfold Building.addRecent within
    split <;> rfl
  | filter spec => exact Building.run_addFilter h spec

/-- The names of numbered parameters are all different. -/
theorem Numbered.nodup_names (h : query.Numbered) :
    (query.bindings.map Binding.name).Nodup := by
  rw [h.names]
  exact List.Nodup.map FilterClause.parameterName_injective List.nodup_range'

/-- Where the parameters are numbered, there is one binding for each condition of a filter. -/
theorem Numbered.length_bindings (h : query.Numbered) :
    query.bindings.length =
      query.clauses.countP fun clause => clause.parameter?.isSome := by
  rw [← List.length_filterMap_eq_countP, h.parameters, List.length_range']

/-- The first step is attempted on the selection, and the others on what it becomes. -/
theorem run_attempts_cons (step : FilterStep) (steps : List FilterStep) (query : FilterQuery) :
    (FilterStep.attempts (step :: steps)).run query =
      (let (outcome, next) := step.call.run.run query
       let (outcomes, last) := (FilterStep.attempts steps).run next
       (outcome :: outcomes, last)) := by
  rw [FilterStep.attempts, List.mapM_cons]
  rfl

/-- What comes later does not change the outcomes of the first steps. -/
theorem attempts_take_fst (count : Nat) (steps : List FilterStep) (query : FilterQuery) :
    ((FilterStep.attempts (steps.take count)).run query).1 =
      ((FilterStep.attempts steps).run query).1.take count := by
  induction steps generalizing count query with
  | nil =>
    rw [List.take_nil]
    exact List.take_nil.symm
  | cons step steps ih =>
    cases count with
    | zero => rfl
    | succ count =>
      rw [List.take_succ_cons, run_attempts_cons, run_attempts_cons]
      exact congrArg _ (ih count _)

/-- Numbered parameters stay numbered whatever is attempted, and a selection becomes what the steps
that are kept make of it. -/
theorem Numbered.run_attempts (h : query.Numbered) {outcomes : List (Except Failure Unit)}
    (hrun : (FilterStep.attempts steps).run query = (outcomes, next)) :
    (FilterStep.kept steps outcomes).foldlM FilterQuery.take query = .ok next ∧
      next.Numbered := by
  induction steps generalizing query outcomes with
  | nil =>
    cases hrun
    exact ⟨rfl, h⟩
  | cons step steps ih =>
    rw [run_attempts_cons, h.run_call] at hrun
    cases hstep : query.take step with
    | error failure =>
      rw [hstep] at hrun
      cases hrun
      exact ih h rfl
    | ok middle =>
      rw [hstep] at hrun
      cases hrun
      obtain ⟨hkept, hnext⟩ := ih (h.take hstep) rfl
      refine ⟨?_, hnext⟩
      change (step :: FilterStep.kept steps _).foldlM FilterQuery.take query = _
      rw [List.foldlM_cons]
      exact bind_eq_ok.mpr ⟨middle, hstep, hkept⟩

/-- Steps that can all be made are all made when they are attempted. -/
theorem Numbered.run_attempts_of_ok (h : query.Numbered)
    (hsteps : steps.foldlM FilterQuery.take query = .ok next) :
    (FilterStep.attempts steps).run query = (steps.map fun _ => .ok (), next) := by
  induction steps generalizing query with
  | nil =>
    cases hsteps
    rfl
  | cons step steps ih =>
    rw [List.foldlM_cons] at hsteps
    obtain ⟨middle, hstep, hrest⟩ := bind_eq_ok.mp hsteps
    rw [run_attempts_cons, h.run_call, hstep]
    simp only [unlessFailed, ih (h.take hstep) hrest, List.map_cons]

/-- Steps that fail leave no trace. Whatever steps are attempted one after another, the selection
becomes what it becomes if only those are attempted that did not fail; these then all succeed, and
are the steps by which a selection without failures is built. At every point in between there is
one binding for each condition of a filter, in their order, and the names of the bindings are those
of the parameters from 1 on, without gaps or repeats. -/
theorem attempts_eq_kept (table : TableName) (steps : List FilterStep) :
    ∃ outcomes query,
      (FilterStep.attempts steps).run (start table) = (outcomes, query) ∧
      (FilterStep.attempts (FilterStep.kept steps outcomes)).run (start table) =
        ((FilterStep.kept steps outcomes).map fun _ => .ok (), query) ∧
      build table (FilterStep.kept steps outcomes) = .ok query ∧
      ∀ count, ∃ seen middle,
        (FilterStep.attempts (steps.take count)).run (start table) = (seen, middle) ∧
        seen = outcomes.take count ∧
        middle.bindings.length =
          (middle.clauses.countP fun clause => clause.parameter?.isSome) ∧
        middle.clauses.filterMap FilterClause.parameter? =
          List.range' 1 middle.bindings.length ∧
        middle.bindings.map Binding.name =
          (List.range' 1 middle.bindings.length).map parameterName ∧
        (middle.bindings.map Binding.name).Nodup := by
  obtain ⟨hkept, -⟩ := (Numbered.start table).run_attempts
    (rfl : (FilterStep.attempts steps).run (start table) = _)
  refine ⟨_, _, rfl, (Numbered.start table).run_attempts_of_ok hkept, hkept, fun count => ?_⟩
  obtain ⟨-, hmiddle⟩ := (Numbered.start table).run_attempts
    (rfl : (FilterStep.attempts (steps.take count)).run (start table) = _)
  exact ⟨_, _, rfl, attempts_take_fst count steps _, hmiddle.length_bindings, hmiddle.parameters,
    hmiddle.names, hmiddle.nodup_names⟩

example (table : TableName) :
    ((FilterStep.attempts
        [.filter ⟨some "a", .str "eq", [.str "v"], .str "STRING"⟩,
          .filter ⟨some "b", .str "gt", [.str "v", .str "w"], .str "STRING"⟩,
          .filter ⟨some "c", .str "ne", [.str "v", .str "w"], .str "STRING"⟩]).run
      (start table)).2.bindings.map Binding.name = ["dcValue1", "dcValue2"] := by
  cbv

/-- A selection under filters is what attempts make of it, if none of them fails. -/
theorem select_eq_ok_iff_attempts {table : TableName} {columns : List String}
    {filters : List FilterSpec} {seconds limit : Int} {sql : SqlText} {bindings : List Binding} :
    select table columns filters seconds limit = .ok (sql, bindings) ↔
      ∃ query, (FilterStep.attempts (.recent seconds :: filters.map .filter)).run (start table) =
          ((FilterStep.recent seconds :: filters.map .filter).map fun _ => .ok (), query) ∧
        sql = query.sql columns limit ∧ bindings = query.bindings := by
  rw [select_eq_ok]
  refine exists_congr fun query => and_congr_left' ?_
  constructor
  · exact (Numbered.start table).run_attempts_of_ok
  · intro hrun
    have hkept := ((Numbered.start table).run_attempts hrun).1
    rwa [FilterStep.kept_of_ok] at hkept

end FilterQuery

end WarehouseImport
