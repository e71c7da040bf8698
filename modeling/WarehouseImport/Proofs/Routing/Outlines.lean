import WarehouseImport.Proofs.Routing.Moves
import WarehouseImport.Proofs.Run.Every

/-!
# Outlines of full imports

An outline lists every statement by which a full import creates a table or moves rows. It creates a
destination that is missing, and then brings the rows there in one of three ways: straight, through
a staging table that is created and filled, or through one that is made as a copy of the source.

Every run keeps the outline that its descriptions settle, or moves no rows at all. Nothing is assumed
about the routes of the command: the columns of the source are always mapped by position.
-/

namespace WarehouseImport

open WarehouseImport.Action Exchange Trace

/-- Whether the statement creates a table or moves rows. -/
def Statement.builds : Statement → Bool
  | createTable .. => true
  | statement => statement.movesRows

/-- A statement that moves rows builds. -/
theorem Statement.builds_of_movesRows (statement : Statement) (h : statement.movesRows = true) :
    statement.builds = true := by
  cases statement with
  | createTable table columns keys => cases h
  | _ => exact h

/-- What builds nothing moves no rows. -/
theorem moved_of_builds {exchanges : List Exchange}
    (h : ∀ exchange ∈ exchanges, exchange.counts Statement.builds = false) :
    moved exchanges = [] := by
  have hnarrow := sent_narrow Statement.builds_of_movesRows exchanges
  rw [sent_eq_nil h] at hnarrow
  exact hnarrow

/-- Of the statements that build, those that move rows are kept as well. -/
theorem Exchange.Keeps.moving {exchanges : List Exchange} {plan : List Statement}
    {finished : Bool} (h : Keeps Statement.builds exchanges plan finished) :
    Keep exchanges (plan.filter Statement.movesRows) finished :=
  h.narrow Statement.builds_of_movesRows

/-- A description finds one definition. -/
theorem Exchange.Describes.definition_eq {exchange : Exchange} {table : TableName}
    {definition other : TableDefinition} (h : exchange.Describes table (some definition))
    (hother : exchange.Describes table (some other)) : definition = other := by
  obtain ⟨answer, rfl, described, rfl, hdefinition⟩ := h
  obtain ⟨answer, heq, described', rfl, hdefinition'⟩ := hother
  cases heq
  exact Except.ok.inj (hdefinition.symm.trans hdefinition')

/-- A table that is found missing has no description. -/
theorem Exchange.Describes.eq_none {exchange : Exchange} {table : TableName}
    {found : Option TableDefinition} (h : exchange.Describes table found)
    (hmissing : exchange.Describes table none) : found = none := by
  obtain ⟨answer, rfl, error, rfl, -⟩ := hmissing
  cases found with
  | none => rfl
  | some definition =>
    obtain ⟨answer, heq, described, rfl, -⟩ := h
    cases heq

variable {warehouse : Warehouse}

/-- The insertion of a source whose columns can be mapped is a plan. -/
theorem Filling.sends_inserts (hsends : warehouse.dryRun = false) {source : Source}
    (target : TableName) {columns : List String} (options : TransferOptions)
    {select : MappedSelect} (hselect : source.mappedTo columns = .ok select) :
    Sends Statement.builds (inserts warehouse source target columns options)
      [.insertMapped target select (options.typing == .text)] := by
  rw [inserts, hsends]
  apply sends_once rfl
  intro exchange hkind
  obtain ⟨given, hgiven, hsent⟩ := hkind
  rw [hsent, Except.ok.inj (hselect.symm.trans hgiven)]

/-- The copy of a source that is a table is a plan. -/
theorem Filling.sends_copies (hsends : warehouse.dryRun = false) {table : TableName}
    {columns keys : List String} (staging : TableName) :
    Sends Statement.builds (copies warehouse (.table table columns keys) staging)
      [.copyTable staging table] := by
  have hcopies : Sends Statement.builds ((Trace.once fun exchange => ∃ name names keyNames,
      Source.table table columns keys = .table name names keyNames ∧
        exchange.statement? = some (.copyTable staging name)).skippedIf false)
      [.copyTable staging table] := by
    apply sends_once rfl
    intro exchange hkind
    obtain ⟨name, names, keyNames, hsame, hsent⟩ := hkind
    cases hsame
    exact hsent
  rw [copies, hsends]
  exact hcopies.andThen (rests_counts rfl).sends

/-- Replacing the contents of the destination keeps its plan. -/
theorem Writing.sends_writes (hsends : warehouse.dryRun = false)
    (staging destination : TableDefinition) (options : TransferOptions) :
    Sends Statement.builds (writes warehouse .replace staging destination options)
      (plan staging destination options) := by
  have hwrites (insert : StagedInsert) :
      Sends Statement.builds (writesFrom warehouse .replace insert) [.replaceContents insert] := by
    rw [writesFrom, hsends]
    apply sends_once rfl
    intro exchange hkind
    obtain ⟨written, hwritten, hsent⟩ := hkind
    rw [hsent, ← Except.ok.inj hwritten]
  unfold writes plan
  split
  · exact hwrites _
  · have hdrops : Rests Statement.builds (warehouse.sends
        (.drop .table (keyedCopy staging destination).target false)).attempt :=
      Every.attempt (rests_sends rfl)
    exact (sends_sends hsends rfl).andThen ((hwrites _).closedBy hdrops)

/-- A source that is read without a query is its table, whose columns are all selected in their
order. -/
theorem SourceContext.parts_of_isDirect {request : SourceRequest} {full : TableDefinition}
    {context : SourceContext} (h : ofDefinition request full = .ok context)
    (hdirect : context.source.isDirect = true) :
    context.source = .table full.name context.selected context.effective.primaryKeys ∧
      context.selected.map Text.lower = full.columnNames.map Text.lower := by
  obtain ⟨-, -, heffective, hsource⟩ := parts_of_ofDefinition h
  split at hsource
  · obtain ⟨query, limit, bindings, -, hquery⟩ := exists_of_generate hsource
    rw [hquery] at hdirect
    cases hdirect
  · next hneeds =>
    rw [TableDefinition.name_of_restrict heffective] at hsource
    refine ⟨hsource, ?_⟩
    simp only [needsQuery, Bool.or_eq_true, not_or, Bool.not_eq_true', Bool.not_eq_false] at hneeds
    exact beq_iff_eq.mp hneeds.1.1.1

/-- The statement that creates a destination, if it is missing. -/
def Destination.creation (existing : Option TableDefinition) (base : TableDefinition) :
    List Statement :=
  match existing with
  | some _ => []
  | none => [.createTable base.name base.columns.columns base.primaryKeys]

/-- It moves no rows. -/
theorem Destination.filter_creation (existing : Option TableDefinition) (base : TableDefinition) :
    (creation existing base).filter Statement.movesRows = [] := by
  cases existing <;> rfl

namespace FromTable

variable {command : TableCommand} {full destination : TableDefinition}
  {options : TransferOptions} {context : SourceContext} {expected : ColumnCollection}
  {existing : Option TableDefinition} {name : String} {exchanges : List Exchange} {finished : Bool}

/-- The ways in which rows are brought to a destination, with what is created on them. -/
inductive Way (command : TableCommand) (full : TableDefinition) (context : SourceContext)
    (expected : ColumnCollection) (destination : TableDefinition) (options : TransferOptions)
    (name : String) : List Statement → Prop where
  | direct {select : MappedSelect} {routes : List ColumnMapping}
      (hdirect : isDirect command options = true)
      (hsources : routes.map (·.source) = context.selected)
      (hnames : routes.map (·.destination) = expected.names)
      (hcarries : select.Carries full.name routes) :
      Way command full context expected destination options name
        [.insertMapped destination.name select (options.typing == .text)]
  | staged {staging : TableDefinition} {select : MappedSelect}
      (hstaged : isDirect command options = false)
      (hstages : Stages command context destination name staging)
      (hcarries : select.Carries full.name (command.routes full)) :
      Way command full context expected destination options name
        (.createTable staging.name staging.columns.columns staging.primaryKeys ::
          .insertMapped staging.name select (options.typing == .text) ::
            Writing.plan staging destination options)
  | copied {staging : TableDefinition} (hstaged : isDirect command options = false)
      (hstages : Stages command context destination name staging)
      (hcopy : canCopy context staging = true) :
      Way command full context expected destination options name
        (.copyTable staging.name full.name :: Writing.plan staging destination options)

/-- The statements of a full import that create tables or move rows. -/
def Outline (command : TableCommand) (full : TableDefinition) (context : SourceContext)
    (expected : ColumnCollection) (existing : Option TableDefinition) (options : TransferOptions)
    (name : String) (statements : List Statement) : Prop :=
  ∃ base destination way,
    Destination.settled command.destination.label command.options expected options.stamped
      existing = .ok base ∧
    keyed command.options base = .ok destination ∧
    Way command full context expected destination options name way ∧
    statements = Destination.creation existing base ++ way

/-- Moving the rows of a source keeps a way. -/
theorem Moves.kept (hsends : warehouse.dryRun = false)
    (hcontext : SourceContext.ofDefinition command.source.request full = .ok context)
    (hexpected : ColumnMapping.expected context.effective command.source.mappings = .ok expected)
    (h : Moves warehouse command context destination expected options name exchanges finished) :
    (exchanges = [] ∧ finished = false) ∨
      ∃ way, Way command full context expected destination options name way ∧
        Keeps Statement.builds exchanges way finished := by
  unfold Moves at h
  split at h
  · next hdirect =>
    obtain ⟨routes, hsources, hnames⟩ := SourceContext.exists_routes_to_expected hcontext hexpected
    obtain ⟨select, hselect, hcarries⟩ :=
      SourceContext.mappedTo_of_selected hcontext hsources.symm
    rw [hnames] at hselect
    exact .inr ⟨_, .direct hdirect hsources hnames hcarries,
      Filling.sends_inserts hsends _ options hselect h⟩
  · next hstaged =>
    rw [Bool.not_eq_true] at hstaged
    rcases h with hnone | ⟨staging, hstages, hallows⟩
    · exact .inl hnone
    right
    have hdrops : Rests Statement.builds (warehouse.sends
        (.drop .table staging.name false)).attempt :=
      Every.attempt (rests_sends rfl)
    have hwrites := Writing.sends_writes hsends staging destination options
    by_cases hcopy : canCopy context staging
    · have hdirect : context.source.isDirect = true := by
        rw [canCopy, Bool.and_eq_true] at hcopy
        exact hcopy.1
      rw [stagesAndDrops, stages, if_pos hcopy,
        (SourceContext.parts_of_isDirect hcontext hdirect).1] at hallows
      exact ⟨_, .copied hstaged hstages hcopy,
        ((Filling.sends_copies hsends staging.name).andThen hwrites).closedBy hdrops hallows⟩
    · obtain ⟨select, hselect, hcarries⟩ := SourceContext.mappedTo_routes hcontext
      rw [← hstages.names_eq hcontext] at hselect
      rw [stagesAndDrops, stages, if_neg hcopy] at hallows
      have hinserts := Filling.sends_inserts hsends staging.name options hselect
      exact ⟨_, .staged hstaged hstages hcarries,
        ((sends_sends hsends rfl).andThen (hinserts.andThen hwrites)).closedBy hdrops hallows⟩

/-- What the descriptions of an import settle is kept by its exchanges, or they move no rows. -/
def Outlined (command : TableCommand) (full : TableDefinition) (context : SourceContext)
    (expected : ColumnCollection) (existing : Option TableDefinition) (options : TransferOptions)
    (name : String) (exchanges : List Exchange) (finished : Bool) : Prop :=
  (finished = false ∧ moved exchanges = []) ∨
    ∃ outline, Outline command full context expected existing options name outline ∧
      Keeps Statement.builds exchanges outline finished

/-- A full import keeps an outline once source and destination are described. -/
theorem Fills.outlined (hsends : warehouse.dryRun = false)
    (hcontext : SourceContext.ofDefinition command.source.request full = .ok context)
    (hexpected : ColumnMapping.expected context.effective command.source.mappings = .ok expected)
    (h : Fills warehouse command context expected existing options name exchanges finished) :
    Outlined command full context expected existing options name exchanges finished := by
  have hcreates : Rests Statement.movesRows (Destination.creates warehouse
      command.destination.label command.options expected options.stamped existing) := by
    cases existing with
    | some definition => exact every_silent
    | none =>
      apply Every.skippedIf
      apply every_once
      intro exchange hcreated
      obtain ⟨definition, -, hsent⟩ := hcreated
      exact counts_of_statement hsent
  rcases h with ⟨rfl, hallows⟩ |
    ⟨creating, moving, base, destination, rfl, hallows, hsettled, hkeyed, hmoves⟩
  · exact .inl ⟨rfl, moved_eq_nil (hcreates hallows)⟩
  rcases hmoves.kept hsends hcontext hexpected with ⟨rfl, rfl⟩ | ⟨way, hway, hkeeps⟩
  · rw [List.append_nil]
    exact .inl ⟨rfl, moved_eq_nil (hcreates hallows)⟩
  have hcreated : Keeps Statement.builds creating (Destination.creation existing base) true := by
    cases existing with
    | some definition =>
      have hrests : Rests Statement.builds .silent := every_silent
      exact hrests.sends hallows
    | none =>
      have hsend : Sends Statement.builds (Destination.creates warehouse
          command.destination.label command.options expected options.stamped none)
          [.createTable base.name base.columns.columns base.primaryKeys] := by
        rw [Destination.creates, hsends]
        apply sends_once rfl
        intro exchange hkind
        obtain ⟨definition, hdefine, hsent⟩ := hkind
        rw [hsent, Except.ok.inj (hdefine.symm.trans hsettled)]
      exact hsend hallows
  exact .inr ⟨_, ⟨base, destination, way, hsettled, hkeyed, hway, rfl⟩, hcreated.append hkeeps⟩

/-- Exchanges around that build nothing change nothing. -/
theorem Outlined.around {before behind : List Exchange} {ended : Bool}
    (h : Outlined command full context expected existing options name exchanges finished)
    (hbefore : ∀ exchange ∈ before, exchange.counts Statement.builds = false)
    (hbehind : ∀ exchange ∈ behind, exchange.counts Statement.builds = false)
    (hended : ended = true → finished = true) :
    Outlined command full context expected existing options name
      (before ++ (exchanges ++ behind)) ended := by
  rcases h with ⟨rfl, hnone⟩ | ⟨outline, houtline, hkeeps⟩
  · left
    rw [moved_append, moved_append, moved_of_builds hbefore, hnone, moved_of_builds hbehind]
    exact ⟨by simpa using hended, rfl⟩
  · exact .inr ⟨outline, houtline, hkeeps.around hbefore hbehind hended⟩

/-- The course of a full import keeps the outline that its descriptions settle, or ends before they
do and moves no rows. -/
theorem Course.outlined (hsends : warehouse.dryRun = false)
    (himport : command.options.importType = .full)
    (h : Course warehouse command options name exchanges finished) :
    (finished = false ∧ ∀ exchange ∈ exchanges, exchange.counts Statement.builds = false) ∨
      ∃ first second rest full context expected existing,
        exchanges = first :: second :: rest ∧
        first.Describes command.source.label.tableName (some full) ∧
        SourceContext.ofDefinition command.source.request full = .ok context ∧
        Describes command first second context expected existing ∧
        Outlined command full context expected existing options name exchanges finished := by
  rcases h.of_full himport with ⟨rfl, hallows⟩ | ⟨first, second, performed, closing, context,
    expected, existing, moved, rfl, hdescribes, hperformed, hclosing, hended⟩
  · have hrests : Rests Statement.builds ((Warehouse.describes
        command.source.label.tableName).andThen ((Warehouse.describes
          command.destination.label.tableName).andThen .silent)) :=
      (rests_describes _).andThen ((rests_describes _).andThen every_silent)
    exact .inl ⟨rfl, hrests hallows⟩
  right
  obtain ⟨full, hfull, hcontext⟩ := hdescribes.source
  have hbefore : ∀ exchange ∈ [first, second], exchange.counts Statement.builds = false :=
    List.forall_mem_cons.mpr ⟨counts_of_reflect hfull.call_eq,
      List.forall_mem_singleton.mpr (counts_of_reflect hdescribes.destination.call_eq)⟩
  have hclosed : Rests Statement.builds
      (Warehouse.describes command.destination.label.tableName) := rests_describes _
  exact ⟨first, second, _, full, context, expected, existing, rfl, hfull, hcontext, hdescribes,
    (hperformed.outlined hsends hcontext hdescribes.expected).around hbefore
      (hclosed.of_closing hclosing) hended⟩

end FromTable

namespace Handler

variable {handler : Handler} {config : Config} {credentials : Credentials}
  {command : TableCommand} {features : List String} {options : RuntimeOptions}
  {session after : Session} {exchanges : List Exchange} {outcome : Except Failure ImportResponse}

/-- Every run of a full import ends before its source and destination are described and builds
nothing, or keeps the outline that these descriptions settle. -/
theorem outlined_of_runs
    (hrun : Runs (handler.run config credentials (.table command) features options) session
      exchanges outcome after)
    (himport : command.options.importType = .full) :
    (outcome.isOk = false ∧ ∀ exchange ∈ exchanges, exchange.counts Statement.builds = false) ∨
      ∃ first second full context expected existing,
        exchanges[1]? = some first ∧ exchanges[2]? = some second ∧
        first.Describes command.source.label.tableName (some full) ∧
        SourceContext.ofDefinition command.source.request full = .ok context ∧
        FromTable.Describes command first second context expected existing ∧
        FromTable.Outlined command full context expected existing
          (TransferOptions.ofImport command.options features)
          (session.drawName config.stagingNames).1 exchanges outcome.isOk := by
  rcases runs_run hrun with
    ⟨rfl, hfailed⟩ | ⟨request, project, ⟨rfl, hfailed⟩ | ⟨performed, finished, rfl, hended, hcourse⟩⟩
  · exact .inl ⟨hfailed, by simp⟩
  · exact .inl ⟨hfailed, List.forall_mem_singleton.mpr rfl⟩
  have hconnection : ∀ exchange ∈ [(⟨.connect request, project⟩ : Exchange)],
      exchange.counts Statement.builds = false := List.forall_mem_singleton.mpr rfl
  rcases FromTable.Course.outlined rfl himport hcourse with ⟨rfl, hnone⟩ |
    ⟨first, second, rest, full, context, expected, existing, rfl, hfull, hcontext, hdescribes,
      houtlined⟩
  · exact .inl ⟨by simpa using hended, List.forall_mem_cons.mpr ⟨rfl, hnone⟩⟩
  · have hnone : ∀ exchange ∈ ([] : List Exchange), exchange.counts Statement.builds = false := by
      simp
    have haround := houtlined.around hconnection hnone hended
    rw [List.append_nil] at haround
    exact .inr ⟨first, second, full, context, expected, existing, rfl, rfl, hfull, hcontext,
      hdescribes, haround⟩

end Handler

/-- A full import that got to move its rows: what the descriptions of its source and its destination
settle, and the way that its exchanges keep. -/
structure FromTable.Settlement (command : TableCommand) (options : TransferOptions) (name : String)
    (exchanges : List Exchange) (finished : Bool) where
  first : Exchange
  second : Exchange
  full : TableDefinition
  context : SourceContext
  expected : ColumnCollection
  existing : Option TableDefinition
  base : TableDefinition
  destination : TableDefinition
  way : List Statement
  hfirst : exchanges[1]? = some first
  hsecond : exchanges[2]? = some second
  hfull : first.Describes command.source.label.tableName (some full)
  hcontext : SourceContext.ofDefinition command.source.request full = .ok context
  hdescribes : Describes command first second context expected existing
  hsettled : Destination.settled command.destination.label command.options expected options.stamped
    existing = .ok base
  hkeyed : keyed command.options base = .ok destination
  hway : Way command full context expected destination options name way
  hkeeps : Keeps Statement.builds exchanges (Destination.creation existing base ++ way) finished

namespace FromTable.Settlement

variable {command : TableCommand} {options : TransferOptions} {name : String}
  {exchanges : List Exchange} {finished : Bool}

/-- The destination has the name of the command. -/
theorem name_eq (settlement : Settlement command options name exchanges finished) :
    settlement.destination.name = command.destination.label.tableName :=
  settlement.hdescribes.name_eq settlement.hsettled settlement.hkeyed

/-- The rows are moved by the statements of the way that move rows. -/
theorem keep (settlement : Settlement command options name exchanges finished) :
    Keep exchanges (settlement.way.filter Statement.movesRows) finished := by
  have hmoves := settlement.hkeeps.moving
  rw [List.filter_append, Destination.filter_creation, List.nil_append] at hmoves
  exact hmoves

end FromTable.Settlement

/-- Every run of a full import fails and moves no rows, or its descriptions settle the way that it
keeps. -/
theorem Handler.settled_of_runs {handler : Handler} {config : Config} {credentials : Credentials}
    {command : TableCommand} {features : List String} {options : RuntimeOptions}
    {session after : Session} {exchanges : List Exchange} {outcome : Except Failure ImportResponse}
    (hrun : Runs (handler.run config credentials (.table command) features options) session
      exchanges outcome after)
    (himport : command.options.importType = .full) :
    (outcome.isOk = false ∧ moved exchanges = []) ∨
      Nonempty (FromTable.Settlement command (TransferOptions.ofImport command.options features)
        (session.drawName config.stagingNames).1 exchanges outcome.isOk) := by
  rcases outlined_of_runs hrun himport with ⟨hfailed, hnone⟩ | ⟨first, second, full, context,
    expected, existing, hfirst, hsecond, hfull, hcontext, hdescribes, houtlined⟩
  · exact .inl ⟨hfailed, moved_of_builds hnone⟩
  rcases houtlined with hnone | ⟨outline, ⟨base, destination, way, hsettled, hkeyed, hway, rfl⟩,
    hkeeps⟩
  · exact .inl hnone
  · exact .inr ⟨⟨first, second, full, context, expected, existing, base, destination, way, hfirst,
      hsecond, hfull, hcontext, hdescribes, hsettled, hkeyed, hway, hkeeps⟩⟩

end WarehouseImport
