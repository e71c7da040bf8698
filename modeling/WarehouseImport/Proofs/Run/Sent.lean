import WarehouseImport.Proofs.Run.Order

/-!
# Statements of a kind among exchanges

Of all that a run sends, often only statements of a kind matter: those that move rows, or those that
also create tables. A plan lists the statements of the kind that are to be sent. A run that fails
sends the first of them only, and one that ends well all of them; plans are composed as traces are.

Loads send no statement. They count as well, so that no plan has one.
-/

namespace WarehouseImport

namespace Exchange

/-- Whether the exchange sends a statement that counts, or loads rows. -/
def counts (counted : Statement → Bool) (exchange : Exchange) : Bool :=
  match exchange.call with
  | .query statement _ _ => counted statement
  | .load .. => true
  | _ => false

/-- The statements of the exchanges that count, in their order. -/
def sent (counted : Statement → Bool) (exchanges : List Exchange) : List (Option Statement) :=
  (exchanges.filter (counts counted)).map statement?

/-- The first statements of a plan are sent, and all of them where all ends well. -/
def Keeps (counted : Statement → Bool) (exchanges : List Exchange) (plan : List Statement)
    (finished : Bool) : Prop :=
  sent counted exchanges <+: plan.map some ∧
    (finished = true → sent counted exchanges = plan.map some)

variable {counted : Statement → Bool} {exchange : Exchange} {exchanges : List Exchange}

/-- What is sent by exchanges one behind the other. -/
theorem sent_append (first last : List Exchange) :
    sent counted (first ++ last) = sent counted first ++ sent counted last := by
  simp [sent]

/-- Where no exchange counts, nothing is sent. -/
theorem sent_eq_nil (h : ∀ exchange ∈ exchanges, exchange.counts counted = false) :
    sent counted exchanges = [] := by
  have hnone : exchanges.filter (counts counted) = [] :=
    List.filter_eq_nil_iff.mpr fun exchange hmem => by simp [h exchange hmem]
  simp [sent, hnone]

/-- An exchange that sends a statement counts if the statement does. -/
theorem counts_of_statement {statement : Statement} (h : exchange.statement? = some statement) :
    exchange.counts counted = counted statement := by
  obtain ⟨call, answer⟩ := exchange
  cases call with
  | query sent bindings timeout =>
    obtain rfl : sent = statement := Option.some.inj h
    rfl
  | _ => cases h

/-- One exchange that sends a statement that counts sends just that. -/
theorem sent_cons_of_statement {statement : Statement} (hcounted : counted statement = true)
    (h : exchange.statement? = some statement) :
    sent counted (exchange :: exchanges) = some statement :: sent counted exchanges := by
  have hcounts : exchange.counts counted = true := by rw [counts_of_statement h, hcounted]
  simp [sent, hcounts, h]

/-- A description does not count. -/
theorem counts_of_reflect {table : TableName} (h : exchange.call = .reflect table) :
    exchange.counts counted = false := by
  obtain ⟨call, answer⟩ := exchange
  cases h
  rfl

/-- Where fewer statements count, fewer of those that are sent do. -/
theorem sent_narrow {narrow : Statement → Bool}
    (hnarrow : ∀ statement, narrow statement = true → counted statement = true)
    (exchanges : List Exchange) :
    sent narrow exchanges =
      (sent counted exchanges).filter fun statement? => (statement?.map narrow).getD true := by
  have hcounts (exchange : Exchange) : exchange.counts narrow =
      (exchange.counts counted && (exchange.statement?.map narrow).getD true) := by
    obtain ⟨call, answer⟩ := exchange
    cases call with
    | query statement bindings timeout =>
      have hmore := hnarrow statement
      cases hstatement : narrow statement <;> simp_all [counts, statement?]
    | _ => simp [counts, statement?]
  have hfilter : exchanges.filter (counts narrow) =
      (exchanges.filter (counts counted)).filter fun exchange =>
        (exchange.statement?.map narrow).getD true := by
    rw [List.filter_filter]
    apply List.filter_congr
    intro exchange _
    rw [hcounts exchange, Bool.and_comm]
  rw [sent, sent, hfilter, List.filter_map]
  rfl

/-- What is read off the statements that count is read off all exchanges, if the others give
nothing. -/
theorem filterMap_sent {α : Type} {read? : Statement → Option α}
    (hread : ∀ statement, counted statement = false → read? statement = none)
    (exchanges : List Exchange) :
    (sent counted exchanges).filterMap (·.bind read?) =
      exchanges.filterMap fun exchange => exchange.statement?.bind read? := by
  rw [sent, List.filterMap_map, List.filterMap_filter]
  congr 1
  funext exchange
  obtain ⟨call, answer⟩ := exchange
  cases call with
  | query statement bindings timeout =>
    cases hstatement : counted statement with
    | true => simp [counts, hstatement]
    | false => simp [counts, hstatement, statement?, hread statement hstatement]
  | _ => simp [counts, statement?]

/-- A plan in which fewer statements count is kept as well. -/
theorem Keeps.narrow {narrow : Statement → Bool} {plan : List Statement} {finished : Bool}
    (hnarrow : ∀ statement, narrow statement = true → counted statement = true)
    (h : Keeps counted exchanges plan finished) :
    Keeps narrow exchanges (plan.filter narrow) finished := by
  have hplan : (plan.filter narrow).map some =
      (plan.map some).filter fun statement? => (statement?.map narrow).getD true := by
    simp [List.filter_map, Function.comp_def]
  rw [Keeps, sent_narrow hnarrow exchanges, hplan]
  exact ⟨h.1.filter _, fun hfinished => by rw [h.2 hfinished]⟩

/-- Where a statement that counts is sent, a plan has it behind those that were sent before. -/
theorem Keeps.split {plan : List Statement} {finished : Bool} {statement : Statement} {place : Nat}
    (h : Keeps counted exchanges plan finished) (hplace : exchanges[place]? = some exchange)
    (hcounted : counted statement = true) (hsent : exchange.statement? = some statement) :
    ∃ earlier later, plan = earlier ++ statement :: later ∧
      earlier ⊆ (exchanges.take place).filterMap statement? := by
  have hsplit : exchanges = exchanges.take place ++ exchange :: exchanges.drop (place + 1) := by
    obtain ⟨hlength, rfl⟩ := List.getElem?_eq_some_iff.mp hplace
    rw [← List.drop_eq_getElem_cons hlength, List.take_append_drop]
  obtain ⟨rest, hrest⟩ := h.1
  rw [hsplit, sent_append, sent_cons_of_statement hcounted hsent, List.append_assoc,
    List.cons_append] at hrest
  obtain ⟨earlier, found, rfl, hearlier, hfound⟩ := List.map_eq_append_iff.mp hrest.symm
  obtain ⟨first, later, rfl, hfirst, -⟩ := List.map_eq_cons_iff.mp hfound
  obtain rfl := Option.some.inj hfirst
  refine ⟨earlier, later, rfl, fun other hother => ?_⟩
  have hmem : some other ∈ sent counted (exchanges.take place) := by
    rw [← hearlier]
    exact List.mem_map_of_mem hother
  obtain ⟨before, hbefore, hsame⟩ := List.mem_map.mp hmem
  exact List.mem_filterMap.mpr ⟨before, (List.mem_filter.mp hbefore).1, hsame⟩

/-- Exchanges around that do not count leave a plan. -/
theorem Keeps.around {plan : List Statement} {before behind : List Exchange}
    {finished ended : Bool} (h : Keeps counted exchanges plan finished)
    (hbefore : ∀ exchange ∈ before, exchange.counts counted = false)
    (hbehind : ∀ exchange ∈ behind, exchange.counts counted = false)
    (hended : ended = true → finished = true) :
    Keeps counted (before ++ (exchanges ++ behind)) plan ended := by
  obtain ⟨hplan, hfinished⟩ := h
  have hsent : sent counted (before ++ (exchanges ++ behind)) = sent counted exchanges := by
    simp [sent_append, sent_eq_nil hbefore, sent_eq_nil hbehind]
  rw [Keeps, hsent]
  exact ⟨hplan, fun h => hfinished (hended h)⟩

/-- A plan behind another one is kept by exchanges behind those that complete the first. -/
theorem Keeps.append {plan rest : List Statement} {later : List Exchange} {finished : Bool}
    (hfirst : Keeps counted exchanges plan true) (hlast : Keeps counted later rest finished) :
    Keeps counted (exchanges ++ later) (plan ++ rest) finished := by
  have hearlier := hfirst.2 rfl
  obtain ⟨hlater, hfinished⟩ := hlast
  rw [Keeps, sent_append, hearlier, List.map_append]
  refine ⟨(List.prefix_append_right_inj _).mpr hlater, fun h => ?_⟩
  rw [hfinished h]

/-- What stays within a plan stays within a longer one. -/
theorem Keeps.extend {plan : List Statement} (rest : List Statement)
    (h : Keeps counted exchanges plan false) : Keeps counted exchanges (plan ++ rest) false := by
  rw [Keeps, List.map_append]
  exact ⟨h.1.trans (List.prefix_append _ _), by simp⟩

end Exchange

open Exchange

namespace Trace

variable {counted : Statement → Bool} {first last body : Trace} {plan rest : List Statement}

/-- No exchange of the trace counts. -/
def Rests (counted : Statement → Bool) (trace : Trace) : Prop :=
  trace.Every fun exchange => exchange.counts counted = false

/-- All exchanges that the trace allows keep a plan. -/
def Sends (counted : Statement → Bool) (trace : Trace) (plan : List Statement) : Prop :=
  ∀ ⦃exchanges finished⦄, trace.Allows exchanges finished →
    Keeps counted exchanges plan finished

/-- Where nothing counts the plan is empty. -/
theorem Rests.sends (h : Rests counted body) : Sends counted body [] := by
  intro exchanges finished hallows
  have hnone := sent_eq_nil (h hallows)
  exact ⟨by rw [hnone]; exact List.nil_prefix, fun _ => hnone⟩

/-- One statement that counts is a plan. -/
theorem sends_once {kind : Exchange → Prop} {statement : Statement}
    (hcounted : counted statement = true)
    (hkind : ∀ exchange, kind exchange → exchange.statement? = some statement) :
    Sends counted ((once kind).skippedIf false) [statement] := by
  intro exchanges finished hallows
  rcases allows_of_not_skipped hallows with ⟨rfl, rfl⟩ | ⟨exchange, rfl, h, -⟩
  · exact ⟨List.nil_prefix, by simp⟩
  · have hsent : sent counted [exchange] = [some statement] :=
      sent_cons_of_statement hcounted (hkind exchange h)
    exact ⟨by rw [hsent]; exact List.prefix_refl _, fun _ => hsent⟩

/-- One trace behind another has one plan behind the other. -/
theorem Sends.andThen (hfirst : Sends counted first plan) (hlast : Sends counted last rest) :
    Sends counted (first.andThen last) (plan ++ rest) := by
  intro exchanges finished hallows
  rcases hallows with ⟨rfl, hallows⟩ | ⟨earlier, later, rfl, hallows, hallows'⟩
  · exact (hfirst hallows).extend rest
  · exact (hfirst hallows).append (hlast hallows')

/-- A cleanup that does not count leaves the plan. -/
theorem Sends.closedBy (hbody : Sends counted body plan) (hlast : Rests counted last) :
    Sends counted (body.closedBy last) plan := by
  intro exchanges finished hallows
  obtain ⟨earlier, later, begun, closed, rfl, hallows, hallows', hbegun⟩ := hallows
  rw [← List.nil_append (earlier ++ later)]
  exact (hbody hallows).around (by simp) (hlast hallows') hbegun

end Trace

open Trace

variable {counted : Statement → Bool} {warehouse : Warehouse}

/-- A description does not count. -/
theorem rests_describes (table : TableName) : Rests counted (Warehouse.describes table) :=
  every_describes fun _ => counts_of_reflect

/-- A statement that does not count stays so, sent or not. -/
theorem rests_sends {statement : Statement} (h : counted statement = false) :
    Rests counted (warehouse.sends statement) :=
  every_sends fun _ hsent => (counts_of_statement hsent).trans h

/-- A statement that counts is a plan. -/
theorem sends_sends {statement : Statement} (hsends : warehouse.dryRun = false)
    (hcounted : counted statement = true) : Sends counted (warehouse.sends statement) [statement] := by
  rw [Warehouse.sends, hsends]
  exact sends_once hcounted fun _ hsent => hsent

/-- Counting rows does not count where its query does not. -/
theorem rests_counts {table : TableName} (h : counted (.countRows table "") = false) :
    Rests counted (Warehouse.counts table) :=
  (rests_describes table).andThen
    (every_silent.either (every_once fun _ hsent => (counts_of_statement hsent).trans h))

end WarehouseImport
