import WarehouseImport.Proofs.Results
import WarehouseImport.Sql.Filter
import Mathlib.Data.List.Forall2

/-!
# Selections under filters, step by step

A selection is restricted in steps, to recent rows or by a filter. Each step adds a condition, and a
filter adds a binding as well, for the parameter with the next number. What several steps add is
what each of them adds, one behind the other; the numbers go on where the bindings before end.

Everything that is said of whole selections follows from what one step adds.
-/

namespace WarehouseImport

/-- A step by which a selection is restricted. -/
inductive FilterStep where
  | recent (seconds : Int)
  | filter (spec : FilterSpec)

namespace FilterSpec

variable {spec : FilterSpec} {filter : WhereFilter}

/-- A description that passes its check has a column and values, and names an operator and a data
type. -/
theorem check_eq_ok :
    spec.check = .ok filter ↔
      spec.column = some filter.column ∧ filter.column ≠ "" ∧
      spec.values = filter.values ∧ filter.values ≠ [] ∧
      spec.operator.asText?.bind Named.ofName? = some filter.operator ∧
      spec.type.asText?.bind Named.ofName? = some filter.type := by
  obtain ⟨column, operator, values, type⟩ := spec
  obtain ⟨filtered, compared, given, kind⟩ := filter
  cases column with
  | none => simp [check, bind, Except.bind]
  | some column =>
    by_cases hcolumn : column = ""
    · constructor
      · intro h
        simp [check, hcolumn, bind, Except.bind] at h
      · rintro ⟨hfiltered, hgiven, -⟩
        exact absurd ((Option.some.inj hfiltered).symm.trans hcolumn) hgiven
    by_cases hvalues : values = []
    · constructor
      · intro h
        simp [check, hcolumn, hvalues, bind, Except.bind] at h
      · rintro ⟨-, -, hcompared, hgiven, -⟩
        exact absurd (hcompared.symm.trans hvalues) hgiven
    cases hoperator : operator.asText?.bind (Named.ofName? (α := FilterOperator)) with
    | none => simp [check, hcolumn, hvalues, hoperator, bind, Except.bind]
    | some found =>
      cases htype : type.asText?.bind (Named.ofName? (α := FilterType)) with
      | none => simp [check, hcolumn, hvalues, hoperator, htype, bind, Except.bind]
      | some foundType =>
        simp [check, hcolumn, hvalues, hoperator, htype, bind, Except.bind, pure, Except.pure]
        grind

end FilterSpec

namespace WhereFilter

/-- The condition and the binding that a filter adds for the parameter of a number. -/
inductive Gives (filter : WhereFilter) (number : Nat) : FilterClause → Binding → Prop where
  | one {value bound : Json} {cast : Option String} (hvalues : filter.values = [value])
      (hcast : filter.type.cast? = .ok cast)
      (hbound : filter.type.convert filter.column value = .ok bound) :
      Gives filter number
        (.compare filter.column cast filter.operator.single false number)
        ⟨FilterClause.parameterName number, filter.type.bound, .one bound⟩
  | several {bound : List Json} {cast : Option String} {symbol : String}
      (hvalues : 1 < filter.values.length) (hsymbol : filter.operator.several? = some symbol)
      (hcast : filter.type.cast? = .ok cast)
      (hbound : filter.values.mapM (filter.type.convert filter.column) = .ok bound) :
      Gives filter number (.compare filter.column cast symbol true number)
        ⟨FilterClause.parameterName number, filter.type.bound, .many bound⟩

end WhereFilter

namespace FilterQuery

/-- The selection with more conditions and bindings. -/
def extended (query : FilterQuery) (clauses : List FilterClause) (bindings : List Binding) :
    FilterQuery :=
  ⟨query.table, query.clauses ++ clauses, query.bindings ++ bindings⟩

/-- A filter adds its condition and its binding under the next number. -/
theorem restrict_eq_ok {query next : FilterQuery} {filter : WhereFilter} :
    query.restrict filter = .ok next ↔
      ∃ clause binding, filter.Gives (query.bindings.length + 1) clause binding ∧
        next = query.extended [clause] [binding] := by
  constructor
  · intro h
    unfold restrict at h
    split at h
    · cases h
    · next value hvalues =>
      obtain ⟨cast, hcast, h⟩ := bind_eq_ok.mp h
      obtain ⟨bound, hbound, h⟩ := bind_eq_ok.mp h
      exact ⟨_, _, .one hvalues hcast hbound, (Except.ok.inj h).symm⟩
    · next hnone hone =>
      split at h
      · cases h
      · next symbol hsymbol =>
        obtain ⟨cast, hcast, h⟩ := bind_eq_ok.mp h
        obtain ⟨bound, hbound, h⟩ := bind_eq_ok.mp h
        have hvalues : 1 < filter.values.length := by
          match hlist : filter.values with
          | [] => exact absurd hlist hnone
          | [value] => exact absurd hlist (hone value)
          | _ :: _ :: _ => simp
        exact ⟨_, _, .several hvalues hsymbol hcast hbound, (Except.ok.inj h).symm⟩
  · rintro ⟨clause, binding, hgives, rfl⟩
    cases hgives with
    | one hvalues hcast hbound =>
      rw [restrict, hvalues]
      exact bind_eq_ok.mpr ⟨_, hcast, bind_eq_ok.mpr ⟨_, hbound, rfl⟩⟩
    | several hvalues hsymbol hcast hbound =>
      unfold restrict
      split
      · next hnone => simp [hnone] at hvalues
      · next value hone => simp [hone] at hvalues
      · rw [hsymbol]
        exact bind_eq_ok.mpr ⟨_, hcast, bind_eq_ok.mpr ⟨_, hbound, rfl⟩⟩

/-- Restricts a selection by one step. -/
def take (query : FilterQuery) : FilterStep → Except Failure FilterQuery
  | .recent seconds => .ok (query.within seconds)
  | .filter spec => query.add spec

/-- The selection from a table that is restricted by steps. -/
def build (table : TableName) (steps : List FilterStep) : Except Failure FilterQuery :=
  steps.foldlM take (start table)

end FilterQuery

/-- The conditions and bindings that a step adds if the next parameter has a number. -/
inductive FilterStep.Gives (number : Nat) :
    FilterStep → List FilterClause → List Binding → Prop where
  | recent (seconds : Int) :
      Gives number (.recent seconds) (if 0 < seconds then [.recent seconds] else []) []
  | filter {spec : FilterSpec} {filter : WhereFilter} {clause : FilterClause} {binding : Binding}
      (hcheck : spec.check = .ok filter) (hgives : filter.Gives number clause binding) :
      Gives number (.filter spec) [clause] [binding]

/-- What steps add one behind the other, behind a number of bindings. -/
inductive FilterStep.Gathers :
    Nat → List FilterStep → List FilterClause → List Binding → Prop where
  | nil (count : Nat) : Gathers count [] [] []
  | cons {count : Nat} {step : FilterStep} {steps : List FilterStep}
      {clauses moreClauses : List FilterClause} {bindings moreBindings : List Binding}
      (hstep : step.Gives (count + 1) clauses bindings)
      (hsteps : Gathers (count + bindings.length) steps moreClauses moreBindings) :
      Gathers count (step :: steps) (clauses ++ moreClauses) (bindings ++ moreBindings)

namespace FilterQuery

variable {query next : FilterQuery} {step : FilterStep} {steps : List FilterStep}

/-- One step adds what it gives. -/
theorem take_eq_ok :
    query.take step = .ok next ↔
      ∃ clauses bindings, step.Gives (query.bindings.length + 1) clauses bindings ∧
        next = query.extended clauses bindings := by
  cases step with
  | recent seconds =>
    have hwithin : query.within seconds =
        query.extended (if 0 < seconds then [.recent seconds] else []) [] := by
      unfold within extended
      split <;> simp
    rw [take, hwithin]
    constructor
    · intro h
      exact ⟨_, _, .recent seconds, (Except.ok.inj h).symm⟩
    · rintro ⟨clauses, bindings, hgives, rfl⟩
      cases hgives
      rfl
  | filter spec =>
    rw [take, add, bind_eq_ok]
    constructor
    · rintro ⟨filter, hcheck, h⟩
      obtain ⟨clause, binding, hgives, rfl⟩ := restrict_eq_ok.mp h
      exact ⟨_, _, .filter hcheck hgives, rfl⟩
    · rintro ⟨clauses, bindings, hgives, rfl⟩
      cases hgives with
      | filter hcheck hgives => exact ⟨_, hcheck, restrict_eq_ok.mpr ⟨_, _, hgives, rfl⟩⟩

/-- Several steps add what they gather. -/
theorem foldlM_take_eq_ok :
    steps.foldlM take query = .ok next ↔
      ∃ clauses bindings, FilterStep.Gathers query.bindings.length steps clauses bindings ∧
        next = query.extended clauses bindings := by
  induction steps generalizing query with
  | nil =>
    constructor
    · intro h
      refine ⟨[], [], .nil _, ?_⟩
      rw [← Except.ok.inj h]
      simp [extended]
    · rintro ⟨clauses, bindings, hgathers, rfl⟩
      cases hgathers
      simp [extended, pure, Except.pure]
  | cons step steps ih =>
    have hbehind (clauses : List FilterClause) (bindings : List Binding) :
        (query.extended clauses bindings).bindings.length =
          query.bindings.length + bindings.length := by
      simp [extended]
    rw [List.foldlM_cons, bind_eq_ok]
    constructor
    · rintro ⟨middle, hstep, h⟩
      obtain ⟨clauses, bindings, hgives, rfl⟩ := take_eq_ok.mp hstep
      obtain ⟨moreClauses, moreBindings, hgathers, rfl⟩ := ih.mp h
      rw [hbehind] at hgathers
      exact ⟨_, _, .cons hgives hgathers, by simp [extended]⟩
    · rintro ⟨_, _, hgathers, rfl⟩
      cases hgathers with
      | @cons _ _ _ clauses moreClauses bindings moreBindings hgives hgathers =>
        rw [← hbehind clauses bindings] at hgathers
        exact ⟨_, take_eq_ok.mpr ⟨_, _, hgives, rfl⟩,
          ih.mpr ⟨_, _, hgathers, by simp [extended]⟩⟩

/-- A selection that is built by steps has what they gather. -/
theorem build_eq_ok {table : TableName} :
    build table steps = .ok query ↔
      FilterStep.Gathers 0 steps query.clauses query.bindings ∧ query.table = table := by
  rw [build, foldlM_take_eq_ok]
  constructor
  · rintro ⟨clauses, bindings, hgathers, rfl⟩
    exact ⟨by simpa [extended, start] using hgathers, rfl⟩
  · rintro ⟨hgathers, rfl⟩
    exact ⟨_, _, hgathers, by simp [extended, start]⟩

/-- The selection of columns under filters is built by these steps. -/
theorem select_eq_ok {table : TableName} {columns : List String} {filters : List FilterSpec}
    {seconds limit : Int} {sql : SqlText} {bindings : List Binding} :
    select table columns filters seconds limit = .ok (sql, bindings) ↔
      ∃ query, build table (.recent seconds :: filters.map .filter) = .ok query ∧
        sql = query.sql columns limit ∧ bindings = query.bindings := by
  have hbuild : build table (.recent seconds :: filters.map .filter) =
      filters.foldlM add ((start table).within seconds) := by
    rw [build, List.foldlM_cons]
    change (filters.map FilterStep.filter).foldlM take ((start table).within seconds) = _
    rw [List.foldlM_map]
    rfl
  rw [hbuild, select, bind_eq_ok]
  constructor
  · rintro ⟨query, hquery, h⟩
    obtain ⟨rfl, rfl⟩ := Prod.mk.inj (Except.ok.inj h)
    exact ⟨query, hquery, rfl, rfl⟩
  · rintro ⟨query, hquery, rfl, rfl⟩
    exact ⟨query, hquery, rfl⟩

end FilterQuery

namespace FilterStep

variable {count : Nat} {step : FilterStep} {steps others : List FilterStep}
  {clauses moreClauses : List FilterClause} {bindings moreBindings : List Binding}

/-- Two steps of one kind, whose filters are related. -/
inductive Like (related : FilterSpec → FilterSpec → Prop) : FilterStep → FilterStep → Prop where
  | recent (seconds : Int) : Like related (.recent seconds) (.recent seconds)
  | filter {spec other : FilterSpec} (h : related spec other) :
      Like related (.filter spec) (.filter other)

/-- Where filters that are related add conditions that are related, so do steps. -/
theorem Gathers.forall₂ {related : FilterSpec → FilterSpec → Prop}
    {alike : FilterClause → FilterClause → Prop}
    (hrecent : ∀ seconds, alike (.recent seconds) (.recent seconds))
    (hfilter : ∀ ⦃spec other filter otherFilter number clause otherClause binding otherBinding⦄,
      related spec other → spec.check = .ok filter → other.check = .ok otherFilter →
        filter.Gives number clause binding → otherFilter.Gives number otherClause otherBinding →
          alike clause otherClause)
    (hlike : List.Forall₂ (Like related) steps others)
    (h : Gathers count steps clauses bindings)
    (hother : Gathers count others moreClauses moreBindings) :
    List.Forall₂ alike clauses moreClauses := by
  induction hlike generalizing count clauses moreClauses bindings moreBindings with
  | nil =>
    cases h
    cases hother
    exact .nil
  | cons hstep hsteps ih =>
    cases h with
    | cons hgives hgathers =>
      cases hother with
      | cons hgives' hgathers' =>
        cases hstep with
        | recent seconds =>
          cases hgives
          cases hgives'
          refine List.rel_append ?_ (ih hgathers hgathers')
          split
          · exact .cons (hrecent seconds) .nil
          · exact .nil
        | filter hrelated =>
          cases hgives with
          | filter hcheck hgives =>
            cases hgives' with
            | filter hcheck' hgives' =>
              exact .cons (hfilter hrelated hcheck hcheck' hgives hgives') (ih hgathers hgathers')

end FilterStep

end WarehouseImport
