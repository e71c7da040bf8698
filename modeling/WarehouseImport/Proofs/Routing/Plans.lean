import WarehouseImport.Proofs.Routing.Outlines

/-!
# Plans of full imports

A full import moves its rows by one of three plans: straight into the destination, through a staging
table that is created and filled, or through one that is made as a copy of the source. Every run
keeps one of them or moves nothing at all.

The routes of the command have to be in order, so that the columns of the source can be mapped to
their ends by position.
-/

namespace WarehouseImport

open WarehouseImport.Action Exchange Trace

namespace FromTable

/-- The plans by which a full import moves its rows. -/
inductive Plan (command : TableCommand) (full : TableDefinition) (options : TransferOptions)
    (name : String) : List Statement → Prop where
  | direct {select : MappedSelect} (hdirect : isDirect command options = true)
      (hcarries : select.Carries full.name (command.routes full)) :
      Plan command full options name
        [.insertMapped command.destination.label.tableName select (options.typing == .text)]
  | staged {context : SourceContext} {staging destination : TableDefinition}
      {select : MappedSelect} (hstaged : isDirect command options = false)
      (hcontext : SourceContext.ofDefinition command.source.request full = .ok context)
      (hnamed : destination.name = command.destination.label.tableName)
      (hstages : Stages command context destination name staging)
      (hcarries : select.Carries full.name (command.routes full)) :
      Plan command full options name
        (.insertMapped staging.name select (options.typing == .text) ::
          Writing.plan staging destination options)
  | copied {context : SourceContext} {staging destination : TableDefinition}
      (hstaged : isDirect command options = false)
      (hcontext : SourceContext.ofDefinition command.source.request full = .ok context)
      (hnamed : destination.name = command.destination.label.tableName)
      (hstages : Stages command context destination name staging)
      (hcopy : canCopy context staging = true) :
      Plan command full options name
        (.copyTable staging.name full.name :: Writing.plan staging destination options)

/-- No rows are moved, or they are moved by a plan. -/
def Planned (command : TableCommand) (full : TableDefinition) (options : TransferOptions)
    (name : String) (exchanges : List Exchange) (finished : Bool) : Prop :=
  (finished = false ∧ Exchange.moved exchanges = []) ∨
    ∃ plan, Plan command full options name plan ∧ Keep exchanges plan finished

variable {command : TableCommand} {full destination : TableDefinition}
  {options : TransferOptions} {context : SourceContext} {expected : ColumnCollection}
  {name : String} {exchanges : List Exchange} {finished : Bool}

/-- All statements by which staged rows are written move rows. -/
theorem filter_writing (staging destination : TableDefinition) (options : TransferOptions) :
    (Writing.plan staging destination options).filter Statement.movesRows =
      Writing.plan staging destination options := by
  unfold Writing.plan
  split <;> rfl

/-- The statements on a way that move rows are a plan. -/
theorem Way.plan {way : List Statement} (hroutes : WellRouted full (command.routes full))
    (hcontext : SourceContext.ofDefinition command.source.request full = .ok context)
    (hexpected : ColumnMapping.expected context.effective command.source.mappings = .ok expected)
    (hnamed : destination.name = command.destination.label.tableName)
    (h : Way command full context expected destination options name way) :
    Plan command full options name (way.filter Statement.movesRows) := by
  cases h with
  | @direct select routes hdirect hsources hnames hcarries =>
    have hsame : routes = command.routes full := by
      apply ColumnMapping.eq_of_map
      · rw [hsources, SourceContext.selected_eq hcontext]
      · rw [hnames, SourceContext.names_of_expected hcontext hroutes.named hexpected]
    rw [hsame] at hcarries
    rw [hnamed]
    exact .direct hdirect hcarries
  | @staged staging select hstaged hstages hcarries =>
    have hplan : Plan command full options name
        (.insertMapped staging.name select (options.typing == .text) ::
          Writing.plan staging destination options) :=
      .staged hstaged hcontext hnamed hstages hcarries
    rw [← filter_writing] at hplan
    exact hplan
  | @copied staging hstaged hstages hcopy =>
    have hplan : Plan command full options name
        (.copyTable staging.name full.name :: Writing.plan staging destination options) :=
      .copied hstaged hcontext hnamed hstages hcopy
    rw [← filter_writing] at hplan
    exact hplan

end FromTable

namespace Handler

variable {handler : Handler} {config : Config} {credentials : Credentials}
  {command : TableCommand} {full : TableDefinition} {features : List String}
  {options : RuntimeOptions} {session after : Session} {first : Exchange}
  {exchanges : List Exchange} {outcome : Except Failure ImportResponse}

/-- A run that describes its source keeps a plan for it, if it is a full import. -/
theorem planned_of_runs
    (hrun : Runs (handler.run config credentials (.table command) features options) session
      exchanges outcome after)
    (himport : command.options.importType = .full) (hfirst : exchanges[1]? = some first)
    (hfull : first.Describes command.source.label.tableName (some full))
    (hroutes : WellRouted full (command.routes full)) :
    FromTable.Planned command full (TransferOptions.ofImport command.options features)
      (session.drawName config.stagingNames).1 exchanges outcome.isOk := by
  rcases settled_of_runs hrun himport with hnone | ⟨⟨settlement⟩⟩
  · exact .inl hnone
  obtain hsame : first = settlement.first := Option.some.inj (hfirst.symm.trans settlement.hfirst)
  rw [hsame] at hfull
  obtain rfl := settlement.hfull.definition_eq hfull
  exact .inr ⟨_, settlement.hway.plan hroutes settlement.hcontext settlement.hdescribes.expected
    settlement.name_eq, settlement.keep⟩

end Handler

end WarehouseImport
