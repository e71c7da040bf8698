import WarehouseImport.Proofs.Run.Warehouse

/-!
# The order of exchanges

Two properties of the exchanges that a trace allows. A strict trace has nothing behind an exchange
that failed, and a good end of it has no failed exchange at all. Every exchange of a trace may be of
a kind. Both are read off the parts that a trace is composed of.

A description is never a failed exchange, since a missing table is an answer like any other.
-/

namespace WarehouseImport

/-- The exchange did not end well, and is not a description. -/
def Exchange.Failed (exchange : Exchange) : Prop :=
  ¬ exchange.Done ∧ ∀ table, exchange.call ≠ .reflect table

/-- Nothing comes behind a failed exchange. -/
def StopsAtFailure (exchanges : List Exchange) : Prop :=
  ∀ earlier failed later, exchanges = earlier ++ failed :: later → failed.Failed → later = []

/-- A done exchange has not failed. -/
theorem Exchange.Done.not_failed {exchange : Exchange} (h : exchange.Done) : ¬ exchange.Failed :=
  fun hfailed => hfailed.1 h

/-- A description has not failed. -/
theorem Exchange.not_failed_of_reflect {exchange : Exchange} {table : TableName}
    (h : exchange.call = .reflect table) : ¬ exchange.Failed :=
  fun hfailed => hfailed.2 table h

/-- Nothing comes behind the last of at most one exchange. -/
theorem stopsAtFailure_of_length_le_one {exchanges : List Exchange} (h : exchanges.length ≤ 1) :
    StopsAtFailure exchanges := by
  rintro earlier failed later rfl -
  rw [List.length_append, List.length_cons] at h
  exact List.eq_nil_of_length_eq_zero (by omega)

/-- What stops at a failure does so behind exchanges that have not failed. -/
theorem StopsAtFailure.append {first last : List Exchange}
    (hfirst : ∀ exchange ∈ first, ¬ exchange.Failed) (hlast : StopsAtFailure last) :
    StopsAtFailure (first ++ last) := by
  intro earlier failed later heq hfailed
  rcases List.append_eq_append_iff.mp heq with ⟨middle, rfl, hsplit⟩ | ⟨middle, rfl, hsplit⟩
  · exact hlast middle failed later hsplit hfailed
  · cases middle with
    | nil => exact hlast [] failed later hsplit.symm hfailed
    | cons exchange rest =>
      obtain ⟨rfl, -⟩ := List.cons.inj hsplit
      exact absurd hfailed (hfirst failed (by simp))

/-- What stops at a failure does so behind one more exchange that has not failed. -/
theorem StopsAtFailure.cons {exchange : Exchange} {rest : List Exchange}
    (h : ¬ exchange.Failed) (hrest : StopsAtFailure rest) : StopsAtFailure (exchange :: rest) := by
  rw [← List.singleton_append]
  refine StopsAtFailure.append (fun other hother => ?_) hrest
  rw [List.mem_singleton.mp hother]
  exact h

namespace Trace

variable {first last body left right : Trace} {kind : Exchange → Prop}

/-- Nothing comes behind a failed exchange, and none has failed if all ends well. -/
def Strict (trace : Trace) : Prop :=
  ∀ ⦃exchanges finished⦄, trace.Allows exchanges finished →
    StopsAtFailure exchanges ∧ (finished = true → ∀ exchange ∈ exchanges, ¬ exchange.Failed)

/-- Without exchanges nothing fails. -/
theorem strict_silent : Strict silent := by
  rintro exchanges finished rfl
  exact ⟨stopsAtFailure_of_length_le_one (by simp), by simp⟩

/-- One exchange is the last one, and is done if all ends well. -/
theorem strict_once : Strict (once kind) := by
  rintro exchanges finished (⟨rfl, rfl⟩ | ⟨exchange, rfl, -, hdone⟩)
  · exact ⟨stopsAtFailure_of_length_le_one (by simp), by simp⟩
  · refine ⟨stopsAtFailure_of_length_le_one (by simp), fun hfinished other hother => ?_⟩
    rw [List.mem_singleton.mp hother]
    exact (hdone hfinished).not_failed

/-- A description has not failed, whatever the answer. -/
theorem strict_describes (table : TableName) : Strict (Warehouse.describes table) := by
  rintro exchanges finished ⟨_, ⟨rfl, -⟩ | ⟨exchange, rfl, hcall, -⟩⟩
  · exact ⟨stopsAtFailure_of_length_le_one (by simp), by simp⟩
  · refine ⟨stopsAtFailure_of_length_le_one (by simp), fun _ other hother => ?_⟩
    rw [List.mem_singleton.mp hother]
    exact Exchange.not_failed_of_reflect hcall

/-- What is skipped does not fail. -/
theorem Strict.skippedIf (h : Strict body) (skipped : Bool) : Strict (body.skippedIf skipped) := by
  rintro exchanges finished (hallows | ⟨-, rfl⟩)
  · exact h hallows
  · exact ⟨stopsAtFailure_of_length_le_one (by simp), by simp⟩

/-- One of two strict traces is strict. -/
theorem Strict.either (hleft : Strict left) (hright : Strict right) :
    Strict (either left right) := by
  rintro exchanges finished (hallows | hallows)
  · exact hleft hallows
  · exact hright hallows

/-- Strict traces one behind the other are strict. -/
theorem Strict.andThen (hfirst : Strict first) (hlast : Strict last) :
    Strict (first.andThen last) := by
  rintro exchanges finished (⟨rfl, hallows⟩ | ⟨earlier, later, rfl, hallows, hallows'⟩)
  · exact ⟨(hfirst hallows).1, by simp⟩
  · have hearlier := (hfirst hallows).2 rfl
    refine ⟨StopsAtFailure.append hearlier (hlast hallows').1, fun hfinished exchange hmem => ?_⟩
    rcases List.mem_append.mp hmem with hmem | hmem
    · exact hearlier exchange hmem
    · exact (hlast hallows').2 hfinished exchange hmem

/-- Every exchange that the trace allows is of a kind. -/
def Every (trace : Trace) (kind : Exchange → Prop) : Prop :=
  ∀ ⦃exchanges finished⦄, trace.Allows exchanges finished → ∀ exchange ∈ exchanges, kind exchange

/-- Without exchanges there is none of another kind. -/
theorem every_silent : Every silent kind := by
  rintro exchanges finished rfl exchange hmem
  cases hmem

/-- One exchange of a kind is of every wider kind. -/
theorem every_once {narrow : Exchange → Prop} (h : ∀ exchange, narrow exchange → kind exchange) :
    Every (once narrow) kind := by
  rintro exchanges finished (⟨rfl, -⟩ | ⟨exchange, rfl, hnarrow, -⟩) other hmem
  · cases hmem
  · rw [List.mem_singleton.mp hmem]
    exact h exchange hnarrow

/-- What is skipped is of no other kind. -/
theorem Every.skippedIf (h : Every body kind) (skipped : Bool) :
    Every (body.skippedIf skipped) kind := by
  rintro exchanges finished (hallows | ⟨-, rfl⟩) exchange hmem
  · exact h hallows exchange hmem
  · cases hmem

/-- A statement is of every kind that all its exchanges are of. -/
theorem every_sends {warehouse : Warehouse} {statement : Statement}
    (h : ∀ exchange : Exchange, exchange.statement? = some statement → kind exchange) :
    Every (warehouse.sends statement) kind :=
  (every_once h).skippedIf _

/-- What an attempt allows is allowed without one. -/
theorem Every.attempt (h : Every body kind) : Every body.attempt kind := by
  rintro exchanges finished ⟨ended, hallows⟩ exchange hmem
  exact h hallows exchange hmem

/-- A description is of every kind that all descriptions of its table are of. -/
theorem every_describes {table : TableName}
    (h : ∀ exchange : Exchange, exchange.call = .reflect table → kind exchange) :
    Every (Warehouse.describes table) kind :=
  (every_once h).attempt

/-- Each of two traces has exchanges of the kind. -/
theorem Every.either (hleft : Every left kind) (hright : Every right kind) :
    Every (either left right) kind := by
  rintro exchanges finished (hallows | hallows)
  · exact hleft hallows
  · exact hright hallows

/-- Traces one behind the other have exchanges of the kind. -/
theorem Every.andThen (hfirst : Every first kind) (hlast : Every last kind) :
    Every (first.andThen last) kind := by
  rintro exchanges finished (⟨rfl, hallows⟩ | ⟨earlier, later, rfl, hallows, hallows'⟩)
  · exact hfirst hallows
  intro exchange hmem
  · rcases List.mem_append.mp hmem with hmem | hmem
    · exact hfirst hallows exchange hmem
    · exact hlast hallows' exchange hmem

/-- A trace and its cleanup have exchanges of the kind. -/
theorem Every.closedBy (hbody : Every body kind) (hlast : Every last kind) :
    Every (body.closedBy last) kind := by
  rintro exchanges finished ⟨earlier, later, _, _, rfl, hallows, hallows', -⟩ exchange hmem
  rcases List.mem_append.mp hmem with hmem | hmem
  · exact hbody hallows exchange hmem
  · exact hlast hallows' exchange hmem

/-- What is sent behind a good end only is of a kind if its trace is. -/
theorem Every.of_closing {trace : Trace} {closing : List Exchange} {finished ended : Bool}
    (h : Every trace kind)
    (hclosing : if finished then trace.Allows closing ended else closing = []) :
    ∀ exchange ∈ closing, kind exchange := by
  split at hclosing
  · exact h hclosing
  · rw [hclosing]
    simp

end Trace

end WarehouseImport
