import WarehouseImport.Proofs.Routing.Plans

/-!
# Routing of columns

What a full import brings to the columns of its destination, over every run of it. A direct import
lists the ends of its routes in order and projects the columns where they begin, whether the source
is read from the table or through a query. A staged import does the same by way of its staging
table, but for the time column.

Routes begin at different columns of the source and end at different names. A staging table that is
made as a copy is left out here.
-/

namespace WarehouseImport

open WarehouseImport.Action Exchange Trace

namespace FromTable

/-- A plan brings the columns of the source along the routes of the command: straight to the
destination, or through a staging table that is not made as a copy. -/
structure Routed (command : TableCommand) (full : TableDefinition) (options : TransferOptions)
    (name : String) (plan : List Statement) : Prop where
  /-- A direct import is one insertion, which lists the ends of the routes in order and assigns to
  each the column where its route begins. -/
  direct : isDirect command options = true → ∃ select,
    plan = [.insertMapped command.destination.label.tableName select (options.typing == .text)] ∧
      select.Carries full.name (command.routes full) ∧
      select.columnNames = (command.routes full).map (·.destination) ∧
      Leads full.name plan command.destination.label.tableName ∧
      Assignment.composeAll (Assignment.same ((command.routes full).map (·.source))) plan =
        some (ColumnMapping.assignments (command.routes full) fun route =>
          route.carried (options.typing == .text))
  /-- A staged import that does not begin with a copy inserts into the staging table and from there
  into the destination, and assigns to the ends of the routes the columns where they begin, but for
  the time column, which is assigned the time if that is wanted. Nothing else is assigned. -/
  staged : isDirect command options = false →
    (∃ target source writing, plan = .copyTable target source :: writing) ∨
      ∃ select keeping insert,
        plan = .insertMapped ⟨command.destination.dataset, name⟩ select (options.typing == .text) ::
          (keeping ++ [.replaceContents insert]) ∧
        select.Carries full.name (command.routes full) ∧
        Leads full.name plan command.destination.label.tableName ∧
        Assignment.composeAll (Assignment.same ((command.routes full).map (·.source))) plan =
          some (options.routed (command.routes full))

variable {command : TableCommand} {full : TableDefinition} {options : TransferOptions}
  {name : String} {plan : List Statement}

/-- The plans of a full import bring the columns along the routes. -/
theorem Plan.routed (hroutes : WellRouted full (command.routes full))
    (h : Plan command full options name plan) : Routed command full options name plan := by
  have hcompose {select : MappedSelect}
      (hcarries : select.Carries full.name (command.routes full)) :=
    Assignment.compose_select (options.typing == .text) hcarries.mappings hroutes.sources
  cases h with
  | @direct select hdirect hcarries =>
    refine ⟨fun _ => ?_, fun hstaged => ?_⟩
    · refine ⟨select, rfl, hcarries, ?_, .move hcarries.reads rfl (.done _), ?_⟩
      · rw [MappedSelect.columnNames, hcarries.mappings]
      · simp only [Assignment.composeAll, Statement.assignments?, Option.bind_eq_bind,
          Option.bind_some, hcompose hcarries]
    · rw [hdirect] at hstaged
      cases hstaged
  | @staged context staging destination select hstaged hcontext hnamed hstages hcarries =>
    refine ⟨fun hdirect => ?_, fun _ => .inr ?_⟩
    · rw [hdirect] at hstaged
      cases hstaged
    · obtain ⟨keeping, source, hplan⟩ := Writing.exists_of_plan staging destination options
      have hleads : Leads staging.name (Writing.plan staging destination options)
          destination.name := Writing.leads_plan hstages.parts.1
      rw [hnamed] at hleads
      refine ⟨select, keeping, _, by rw [hplan, hstages.name_eq hnamed], hcarries,
        .move hcarries.reads rfl hleads, ?_⟩
      simp only [Assignment.composeAll, Statement.assignments?, Option.bind_eq_bind,
        Option.bind_some, hcompose hcarries]
      rw [TransferOptions.routed_eq]
      exact Writing.composeAll_plan (hstages.names_eq hcontext)
        (Assignment.fill_assignments _ hroutes.destinations).kept
  | @copied context staging destination hstaged hcontext hnamed hstages hcopy =>
    refine ⟨fun hdirect => ?_, fun _ => .inl ⟨_, _, _, rfl⟩⟩
    rw [hdirect] at hstaged
    cases hstaged

end FromTable

namespace Handler

variable {handler : Handler} {config : Config} {credentials : Credentials}
  {command : TableCommand} {full : TableDefinition} {features : List String}
  {options : RuntimeOptions} {session after : Session} {first : Exchange}
  {exchanges : List Exchange} {outcome : Except Failure ImportResponse}

end Handler

end WarehouseImport
