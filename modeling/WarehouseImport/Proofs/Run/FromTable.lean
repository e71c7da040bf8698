import WarehouseImport.Proofs.Run.Staging
import WarehouseImport.Proofs.Run.Steady

/-!
# Runs of imports from a table

An import describes its source and its destination, enforces the create mode, and then does what
its import type asks for. The runs of each part are read off here: what it sends, and how what it
sends hangs together with the definitions that were described.
-/

namespace WarehouseImport

open WarehouseImport.Action

variable {warehouse : Warehouse} {session after : Session} {exchanges : List Exchange}

/-- A look at a table is one description, whose answer settles the definition. -/
theorem Warehouse.runs_lookUp {label : TableLabel}
    {outcome : Except Failure (Option TableDefinition)}
    (h : Runs (lookUp label) session exchanges outcome after) :
    (describes label.tableName).Allows exchanges outcome.isOk ∧ after.drawn = session.drawn ∧
      ∀ found, outcome = .ok found →
        ∃ exchange, exchanges = [exchange] ∧ exchange.Describes label.tableName found := by
  rcases runs_ofExcept_bind.mp h with ⟨failure, -, rfl, rfl, rfl⟩ | ⟨name, hcheck, h'⟩
  · exact ⟨(describes _).unbegun, rfl, by simp⟩
  obtain rfl := TableLabel.eq_of_check hcheck
  obtain ⟨hallows, hdrawn⟩ := follows_definition _ h'
  obtain ⟨exchange, rfl, -, -, hfound⟩ := runs_definition h'
  exact ⟨hallows, hdrawn, fun found hok => ⟨exchange, rfl, hfound found hok⟩⟩

/-- The source of a request is settled by one description of its table. -/
theorem SourceContext.runs_resolve {request : SourceRequest}
    {outcome : Except Failure SourceContext}
    (h : Runs (resolve request) session exchanges outcome after) :
    (Warehouse.describes request.label.tableName).Allows exchanges outcome.isOk ∧
      after.drawn = session.drawn ∧
      ∀ context, outcome = .ok context → ∃ exchange full, exchanges = [exchange] ∧
        exchange.Describes request.label.tableName (some full) ∧
        ofDefinition request full = .ok context := by
  rcases runs_bind.mp h with ⟨failure, rfl, hf⟩ | ⟨first, found, m, last, rfl, hv, hl⟩
  · obtain ⟨hallows, hdrawn, -⟩ := Warehouse.runs_lookUp hf
    exact ⟨hallows, hdrawn, by simp⟩
  obtain ⟨hallows, hdrawn, hfound⟩ := Warehouse.runs_lookUp hv
  obtain ⟨exchange, rfl, hdescribes⟩ := hfound found rfl
  obtain ⟨rfl, rfl, rfl⟩ := runs_ofExcept.mp hl
  refine ⟨hallows.of_true _, hdrawn, fun context hcontext => ?_⟩
  cases found with
  | none => cases hcontext
  | some full => exact ⟨exchange, full, rfl, hdescribes, hcontext⟩

/-- Finding the source of a request takes one description. -/
theorem SourceContext.follows_resolve (request : SourceRequest) :
    Follows (resolve request) (Warehouse.describes request.label.tableName) := by
  intro session exchanges outcome after h
  obtain ⟨hallows, hdrawn, -⟩ := runs_resolve h
  exact ⟨hallows, hdrawn⟩

namespace Destination

/-- The drop of a destination that a create mode replaces. -/
def replaces (warehouse : Warehouse) (label : TableLabel) (options : ImportOptions) : Trace :=
  if options.createMode = some .replace && options.importType.createsDestination then
    .either .silent (warehouse.dropsDescribed label.tableName)
  else .silent

/-- A create mode sends nothing but the drop of what it replaces. -/
theorem follows_applyCreateMode (warehouse : Warehouse) (label : TableLabel)
    (options : ImportOptions) (existing : Option TableDefinition) :
    Follows (applyCreateMode warehouse label options existing)
      (replaces warehouse label options) := by
  have hsilent {α : Type} {action : Action α} (haction : Quiet action) :
      Follows action (replaces warehouse label options) := by
    refine haction.follows.mono fun h => ?_
    unfold replaces
    split
    · exact .inl h
    · exact h
  unfold applyCreateMode
  split
  · exact hsilent (quiet_pure _)
  · exact hsilent (quiet_pure _)
  · next mode hmode =>
    split
    · next hreplace =>
      refine follows_ofExcept_bind fun target htarget => ?_
      obtain rfl := TableLabel.eq_of_check htarget
      refine Follows.bind_quiet ?_ fun _ => quiet_pure _
      refine (Warehouse.follows_dropObject _ _).mono fun h => ?_
      have hcondition : (options.createMode = some .replace &&
          options.importType.createsDestination) = true := by
        simpa [hmode] using hreplace
      rw [replaces, if_pos hcondition]
      exact .inr h
    · exact hsilent (quiet_throw _)

/-- A create mode leaves what is there, unless the import creates its destination. -/
theorem returns_applyCreateMode (warehouse : Warehouse) (label : TableLabel)
    (options : ImportOptions) (existing : Option TableDefinition) :
    Returns (applyCreateMode warehouse label options existing)
      fun kept => kept = existing ∨ options.importType.createsDestination = true := by
  unfold applyCreateMode
  split
  · exact returns_pure (.inl rfl)
  · exact returns_pure (.inl rfl)
  · split
    · next hreplace =>
      refine returns_bind fun _ => returns_bind fun _ => returns_pure (.inr ?_)
      simp only [Bool.and_eq_true] at hreplace
      exact hreplace.2
    · exact returns_throw

/-- The creation of a destination that is not there. -/
def creates (warehouse : Warehouse) (label : TableLabel) (options : ImportOptions)
    (expected : ColumnCollection) (stamped : Bool) (existing : Option TableDefinition) : Trace :=
  match existing with
  | some _ => .silent
  | none => (Trace.once fun exchange => ∃ definition,
      define label expected options.dedupColumns stamped = .ok definition ∧
        exchange.statement? = some (.createTable definition.name definition.columns.columns
          definition.primaryKeys)).skippedIf warehouse.dryRun

/-- The definition of a destination is the one that is there, or else the one that is created. -/
def settled (label : TableLabel) (options : ImportOptions) (expected : ColumnCollection)
    (stamped : Bool) (existing : Option TableDefinition) : Except Failure TableDefinition :=
  match existing with
  | some definition => .ok definition
  | none => define label expected options.dedupColumns stamped

/-- A destination that rows go into is created if it is not there. -/
theorem follows_resolve {options : ImportOptions}
    (hrows : options.importType.createsDestination = false) (warehouse : Warehouse)
    (label : TableLabel) (expected : ColumnCollection) (stamped : Bool)
    (existing : Option TableDefinition) :
    Follows (resolve warehouse label options expected stamped existing)
      (creates warehouse label options expected stamped existing) := by
  cases existing with
  | some definition => exact (quiet_pure _).follows
  | none =>
    refine follows_ofExcept_bind fun definition hdefine => ?_
    rw [hrows]
    refine Follows.bind_quiet ?_ fun _ => quiet_pure _
    exact (Warehouse.follows_createTable _ _).widen fun _ hkind => ⟨definition, hdefine, hkind⟩

/-- The definition that comes of it is the settled one. -/
theorem returns_resolve (warehouse : Warehouse) (label : TableLabel) (options : ImportOptions)
    (expected : ColumnCollection) (stamped : Bool) (existing : Option TableDefinition) :
    Returns (resolve warehouse label options expected stamped existing) fun destination =>
      settled label options expected stamped existing = .ok destination := by
  cases existing with
  | some definition => exact returns_pure rfl
  | none =>
    refine returns_ofExcept_bind fun definition hdefine => ?_
    split
    · exact returns_bind fun _ => returns_pure hdefine
    · exact returns_pure hdefine

end Destination

namespace FromTable

/-- The statement that makes a view. -/
def views (warehouse : Warehouse) (command : TableCommand) : Trace :=
  warehouse.sends
    (.createView command.destination.label.tableName command.source.label.tableName)

/-- The statement that clones, and the copy by a query where cloning is refused. -/
def clones (warehouse : Warehouse) (command : TableCommand) : Trace :=
  (warehouse.sends (.cloneTable command.destination.label.tableName
      command.source.label.tableName)).attempt.andThen
    (.either .silent
      ((warehouse.sends (.createTableAs command.destination.label.tableName
          command.source.label.tableName)).andThen
        ((Warehouse.describes command.destination.label.tableName).andThen
          (Warehouse.counts command.destination.label.tableName))))

/-- An object that must be new is made by its statement. -/
theorem Follows.creating {action : Action Int} {trace : Trace} (h : Follows action trace) :
    Follows (creating action) trace :=
  (Follows.map h).rethrow _

/-- A view is made by one statement. -/
theorem follows_createView (warehouse : Warehouse) (source destination : TableName) :
    Follows (createView warehouse source destination)
      (warehouse.sends (.createView destination source)) :=
  (Follows.creating (Warehouse.follows_run _ _)).bind_quiet fun _ => quiet_pure _

/-- A clone takes the statement that clones, whatever comes of it. -/
theorem follows_tryClone (warehouse : Warehouse) (source destination : TableName) :
    Follows (tryClone warehouse source destination)
      (warehouse.sends (.cloneTable destination source)).attempt := by
  refine Follows.tryCatch ?_ fun failure => ?_
  · exact (Warehouse.follows_run _ _).bind_quiet fun _ => quiet_pure _
  · split
    · exact (quiet_notice _ _).bind fun _ => quiet_pure _
    · exact quiet_throw _

/-- A copy by a query takes its statement, and a description and a count of what was copied. -/
theorem follows_copyByQuery (warehouse : Warehouse) (source destination : TableName) :
    Follows (copyByQuery warehouse source destination)
      ((warehouse.sends (.createTableAs destination source)).andThen
        ((Warehouse.describes destination).andThen (Warehouse.counts destination))) := by
  refine (Follows.creating (Warehouse.follows_run _ _)).bind fun _ => ?_
  refine (Warehouse.follows_definition _).bind fun _ => ?_
  exact (Warehouse.follows_rowCount _ _).bind_quiet fun _ => quiet_pure _

/-- A clone is made by its statement or else by a query. -/
theorem follows_clone (warehouse : Warehouse) (source destination : TableName) :
    Follows (clone warehouse source destination)
      ((warehouse.sends (.cloneTable destination source)).attempt.andThen
        (.either .silent
          ((warehouse.sends (.createTableAs destination source)).andThen
            ((Warehouse.describes destination).andThen (Warehouse.counts destination))))) := by
  refine (follows_tryClone _ _ _).bind fun cloned => ?_
  cases cloned with
  | true => exact (quiet_pure _).follows.mono .inl
  | false => exact (follows_copyByQuery _ _ _).mono .inr

/-- The filling of the staging table and the writing of the destination. -/
def stages (warehouse : Warehouse) (context : SourceContext)
    (staging destination : TableDefinition) (options : TransferOptions) : Trace :=
  if canCopy context staging then
    (Filling.copies warehouse context.source staging.name).andThen
      (Writing.writes warehouse .replace staging destination options)
  else
    (warehouse.sends (.createTable staging.name staging.columns.columns
      staging.primaryKeys)).andThen
      ((Filling.inserts warehouse context.source staging.name staging.columnNames options).andThen
        (Writing.writes warehouse .replace staging destination options))

/-- The staging table is filled before the destination is written. -/
theorem follows_stageAndWrite (warehouse : Warehouse) (context : SourceContext)
    (staging destination : TableDefinition) (options : TransferOptions) :
    Follows (stageAndWrite warehouse context staging destination options)
      (stages warehouse context staging destination options) := by
  unfold stageAndWrite stages
  split
  · exact (Filling.follows_copy _ _ _).bind fun _ => Writing.follows_finish _ _ _ _ _
  · refine (Warehouse.follows_createTable _ _).bind fun _ => ?_
    exact (Filling.follows_insert _ _ _ _ _).bind fun _ => Writing.follows_finish _ _ _ _ _

/-- The filling, the writing, and the drop of the staging table behind them. -/
def stagesAndDrops (warehouse : Warehouse) (context : SourceContext)
    (staging destination : TableDefinition) (options : TransferOptions) : Trace :=
  (stages warehouse context staging destination options).closedBy
    (warehouse.sends (.drop .table staging.name false)).attempt

/-- The staging table that a session's next name gives an import into a destination. -/
def Stages (command : TableCommand) (context : SourceContext) (destination : TableDefinition)
    (name : String) (staging : TableDefinition) : Prop :=
  ∃ layout, Staging.Layout.ofMappings destination (stagingMappings command context) = .ok layout ∧
    layout.define destination name = .ok staging

/-- Rows that go through a staging table fill it, reach the destination, and leave it dropped. -/
theorem runs_importStaged {beginning : String} {command : TableCommand}
    {context : SourceContext} {destination : TableDefinition} {options : TransferOptions}
    {outcome : Except Failure ImportResult}
    (h : Runs (importStaged warehouse beginning command context destination options) session
      exchanges outcome after) :
    (exchanges = [] ∧ outcome.isOk = false) ∨
      ∃ staging, Stages command context destination (session.drawName beginning).1 staging ∧
        (stagesAndDrops warehouse context staging destination options).Allows exchanges
          outcome.isOk := by
  rcases runs_ofExcept_bind.mp h with ⟨failure, -, rfl, rfl, -⟩ | ⟨layout, hlayout, h'⟩
  · exact .inl ⟨rfl, rfl⟩
  rcases runs_bind.mp h' with ⟨failure, rfl, hf⟩ | ⟨first, staging, n, last, rfl, hd, h''⟩
  · exact .inl ⟨(Staging.Layout.runs_defineNew hf).1, rfl⟩
  obtain ⟨rfl, hdefine⟩ := Staging.Layout.runs_defineNew hd
  refine .inr ⟨staging, ⟨layout, hlayout, hdefine.symm⟩, ?_⟩
  have hfollows : Follows (do
      Action.beginImport staging.name.table
      Action.afterwards (stageAndWrite warehouse context staging destination options)
        (Staging.remove warehouse staging.name))
      (stagesAndDrops warehouse context staging destination options) :=
    (quiet_beginImport _).bind_follows fun _ =>
      (follows_stageAndWrite _ _ _ _ _).afterwards (Staging.follows_remove _ _)
  exact (hfollows h'').1

/-- Rows that go straight into the destination take one statement. -/
theorem follows_insertDirectly (warehouse : Warehouse) (context : SourceContext)
    (destination : TableDefinition) (expected : ColumnCollection) (options : TransferOptions) :
    Follows (insertDirectly warehouse context destination expected options)
      (Filling.inserts warehouse context.source destination.name expected.names options) :=
  (quiet_beginImport _).bind_follows fun _ =>
    (Filling.follows_insert _ _ _ _ _).bind_quiet fun _ =>
      quiet_progress.bind fun _ => quiet_pure _

/-- What moving rows into a keyed destination sends. -/
def Moves (warehouse : Warehouse) (command : TableCommand) (context : SourceContext)
    (destination : TableDefinition) (expected : ColumnCollection) (options : TransferOptions)
    (name : String) (exchanges : List Exchange) (finished : Bool) : Prop :=
  if isDirect command options then
    (Filling.inserts warehouse context.source destination.name expected.names options).Allows
      exchanges finished
  else
    (exchanges = [] ∧ finished = false) ∨
      ∃ staging, Stages command context destination name staging ∧
        (stagesAndDrops warehouse context staging destination options).Allows exchanges finished

/-- Rows are moved straight into the destination or through a staging table. -/
theorem runs_moveRows {beginning : String} {command : TableCommand} {context : SourceContext}
    {base : TableDefinition} {expected : ColumnCollection} {options : TransferOptions}
    {outcome : Except Failure ImportResult}
    (h : Runs (moveRows warehouse beginning command context base expected options) session exchanges
      outcome after) :
    (exchanges = [] ∧ outcome.isOk = false) ∨
      ∃ destination, keyed command.options base = .ok destination ∧
        Moves warehouse command context destination expected options
          (session.drawName beginning).1 exchanges outcome.isOk := by
  rcases runs_ofExcept_bind.mp h with ⟨failure, -, rfl, rfl, -⟩ | ⟨destination, hkeyed, h'⟩
  · exact .inl ⟨rfl, rfl⟩
  refine .inr ⟨destination, hkeyed, ?_⟩
  obtain ⟨result, rfl, hmoved⟩ := runs_rethrow.mp h'
  have hisOk : (result.mapError reportedAs).isOk = result.isOk := by
    cases result <;> rfl
  rw [hisOk, Moves]
  split at hmoved
  · next hdirect =>
    rw [if_pos hdirect]
    exact (follows_insertDirectly _ _ _ _ _ hmoved).1
  · next hstaged =>
    rw [if_neg hstaged]
    exact runs_importStaged hmoved

/-- What a full import sends once source and destination are described: it settles the destination
and then moves the rows. -/
def Fills (warehouse : Warehouse) (command : TableCommand) (context : SourceContext)
    (expected : ColumnCollection) (existing : Option TableDefinition) (options : TransferOptions)
    (name : String) (exchanges : List Exchange) (finished : Bool) : Prop :=
  (finished = false ∧
    (Destination.creates warehouse command.destination.label command.options expected
      options.stamped existing).Allows exchanges false) ∨
    ∃ creating moving base destination, exchanges = creating ++ moving ∧
      (Destination.creates warehouse command.destination.label command.options expected
        options.stamped existing).Allows creating true ∧
      Destination.settled command.destination.label command.options expected options.stamped
        existing = .ok base ∧
      keyed command.options base = .ok destination ∧
      Moves warehouse command context destination expected options name moving finished

/-- A full import settles the destination and then moves the rows. -/
theorem runs_importRows {beginning : String} {command : TableCommand} {context : SourceContext}
    {expected : ColumnCollection} {existing : Option TableDefinition} {options : TransferOptions}
    {outcome : Except Failure ImportResult}
    (hrows : command.options.importType.createsDestination = false)
    (h : Runs (importRows warehouse beginning command context expected existing options) session
      exchanges outcome after) :
    Fills warehouse command context expected existing options (session.drawName beginning).1
      exchanges outcome.isOk := by
  have hrest {before : Session} (hbefore : before.drawn = session.drawn)
      (h : Runs (do
        let destination ← Destination.resolve warehouse command.destination.label command.options
          expected options.stamped existing
        moveRows warehouse beginning command context destination expected options) before exchanges
        outcome after) :
      Fills warehouse command context expected existing options (session.drawName beginning).1
        exchanges outcome.isOk := by
    have hresolve := Destination.follows_resolve hrows warehouse command.destination.label expected
      options.stamped existing
    rcases runs_bind.mp h with ⟨failure, rfl, hf⟩ | ⟨creating, base, m, moving, rfl, hv, hl⟩
    · exact .inl ⟨rfl, (hresolve hf).1⟩
    obtain ⟨hallows, hdrawn⟩ := hresolve hv
    have hname : (m.drawName beginning).1 = (session.drawName beginning).1 := by
      simp only [Session.drawName, hdrawn, hbefore]
    rcases runs_moveRows hl with ⟨rfl, hfailed⟩ | ⟨destination, hkeyed, hmoves⟩
    · exact .inl ⟨hfailed, by simpa using Trace.weaken _ hallows⟩
    · rw [hname] at hmoves
      exact .inr ⟨creating, moving, base, destination, rfl, hallows,
        Destination.returns_resolve _ _ _ _ _ _ hv, hkeyed, hmoves⟩
  unfold importRows at h
  split at h
  · rcases (quiet_ofExcept _).runs_bind h with ⟨rfl, -, failure, rfl⟩ | ⟨⟨⟩, m, -, hm, h'⟩
    · exact .inl ⟨rfl, Trace.unbegun _⟩
    · exact hrest hm h'
  · exact hrest rfl h

/-- What the import type of a command sends once source and destination are described. -/
def Performs (warehouse : Warehouse) (command : TableCommand) (context : SourceContext)
    (expected : ColumnCollection) (existing : Option TableDefinition) (options : TransferOptions)
    (name : String) (exchanges : List Exchange) (finished : Bool) : Prop :=
  match command.options.importType with
  | .incremental => exchanges = []
  | .view => (views warehouse command).Allows exchanges finished
  | .clone => (clones warehouse command).Allows exchanges finished
  | .full => Fills warehouse command context expected existing options name exchanges finished

/-- Every import type sends what it asks for. -/
theorem runs_perform {beginning : String} {command : TableCommand} {context : SourceContext}
    {expected : ColumnCollection} {existing : Option TableDefinition} {options : TransferOptions}
    {outcome : Except Failure ImportResult}
    (h : Runs (perform warehouse beginning command context expected existing options) session
      exchanges outcome after) :
    Performs warehouse command context expected existing options (session.drawName beginning).1
      exchanges outcome.isOk := by
  unfold perform at h
  unfold Performs
  cases himport : command.options.importType with
  | incremental =>
    rw [himport] at h
    have hquiet : Quiet (do
        Action.ofExcept (refuseIncremental command context expected existing)
        return {} : Action ImportResult) := (quiet_ofExcept _).bind fun _ => quiet_pure _
    exact (hquiet h).1
  | view =>
    rw [himport] at h
    have hview : Follows (do
        createView warehouse (← Action.ofExcept command.source.label.check)
          (← Action.ofExcept command.destination.label.check)) (views warehouse command) := by
      refine follows_ofExcept_bind fun source hsource => ?_
      refine follows_ofExcept_bind fun destination hdestination => ?_
      obtain rfl := TableLabel.eq_of_check hsource
      obtain rfl := TableLabel.eq_of_check hdestination
      exact follows_createView _ _ _
    exact (hview.step _ _ h).1
  | clone =>
    rw [himport] at h
    have hclone : Follows (do
        clone warehouse (← Action.ofExcept command.source.label.check)
          (← Action.ofExcept command.destination.label.check)) (clones warehouse command) := by
      refine follows_ofExcept_bind fun source hsource => ?_
      refine follows_ofExcept_bind fun destination hdestination => ?_
      obtain rfl := TableLabel.eq_of_check hsource
      obtain rfl := TableLabel.eq_of_check hdestination
      exact follows_clone _ _ _
    exact (hclone.step _ _ h).1
  | full =>
    rw [himport] at h
    exact runs_importRows (by rw [himport]; rfl) h

/-- What the descriptions of source and destination settle before anything is written. -/
structure Describes (command : TableCommand) (first second : Exchange) (context : SourceContext)
    (expected : ColumnCollection) (found : Option TableDefinition) : Prop where
  source : ∃ full, first.Describes command.source.label.tableName (some full) ∧
    SourceContext.ofDefinition command.source.request full = .ok context
  expected : ColumnMapping.expected context.effective command.source.mappings = .ok expected
  destination : second.Describes command.destination.label.tableName found

/-- The descriptions of source and destination and the drop that a create mode asks for. -/
def opens (warehouse : Warehouse) (command : TableCommand) : Trace :=
  (Warehouse.describes command.source.label.tableName).andThen
    ((Warehouse.describes command.destination.label.tableName).andThen
      (Destination.replaces warehouse command.destination.label command.options))

/-- The exchanges of an import from a table: it fails while it opens, or goes on behind the
descriptions of source and destination, and describes the destination once more if all went
well. -/
inductive Course (warehouse : Warehouse) (command : TableCommand) (options : TransferOptions)
    (name : String) : List Exchange → Bool → Prop where
  | opened {exchanges : List Exchange} (hopens : (opens warehouse command).Allows exchanges false) :
      Course warehouse command options name exchanges false
  | performed {first second : Exchange} {applied performed closing : List Exchange}
      {context : SourceContext} {expected : ColumnCollection}
      {found existing : Option TableDefinition} {finished ended : Bool}
      (hdescribes : Describes command first second context expected found)
      (happlied : (Destination.replaces warehouse command.destination.label
        command.options).Allows applied true)
      (hexisting : existing = found ∨ command.options.importType.createsDestination = true)
      (hperformed : Performs warehouse command context expected existing options name performed
        finished)
      (hclosing : if finished then
          (Warehouse.describes command.destination.label.tableName).Allows closing ended
        else closing = [])
      (hended : ended = true → finished = true) :
      Course warehouse command options name
        (first :: second :: (applied ++ (performed ++ closing))) ended

/-- The course of a full import drops nothing first: it fails while source and destination are
described, or fills the destination behind that. -/
theorem Course.of_full {command : TableCommand} {options : TransferOptions} {name : String}
    {finished : Bool} (himport : command.options.importType = .full)
    (h : Course warehouse command options name exchanges finished) :
    (finished = false ∧ ((Warehouse.describes command.source.label.tableName).andThen
      ((Warehouse.describes command.destination.label.tableName).andThen .silent)).Allows exchanges
        false) ∨
      ∃ first second performed closing context expected existing moved,
        exchanges = first :: second :: (performed ++ closing) ∧
          Describes command first second context expected existing ∧
          Fills warehouse command context expected existing options name performed moved ∧
          (if moved then
              (Warehouse.describes command.destination.label.tableName).Allows closing finished
            else closing = []) ∧
          (finished = true → moved = true) := by
  have hcreates : command.options.importType.createsDestination = false := by
    rw [himport]
    rfl
  have hreplaces : Destination.replaces warehouse command.destination.label command.options =
      .silent := by
    rw [Destination.replaces, hcreates, Bool.and_false]
    rfl
  cases h with
  | opened hopens =>
    rw [opens, hreplaces] at hopens
    exact .inl ⟨rfl, hopens⟩
  | @performed first second applied performed closing context expected found existing moved _
      hdescribes happlied hexisting hperformed hclosing hended =>
    rw [hreplaces] at happlied
    obtain rfl : applied = [] := happlied
    rw [hcreates] at hexisting
    obtain rfl : existing = found := hexisting.resolve_right (by simp)
    rw [Performs, himport] at hperformed
    exact .inr ⟨first, second, performed, closing, context, expected, existing, moved, rfl,
      hdescribes, hperformed, hclosing, hended⟩

/-- A response is built from one description of the destination. -/
theorem follows_build (command : TableCommand) (result : ImportResult) :
    Follows (do ImportResponse.build (← Action.ofExcept command.destination.label.check) result)
      (Warehouse.describes command.destination.label.tableName) := by
  refine follows_ofExcept_bind fun target htarget => ?_
  obtain rfl := TableLabel.eq_of_check htarget
  exact (Warehouse.follows_stats _).bind_quiet fun _ => quiet_ofExcept _

/-- Every run of an import fails while it opens, or opens and then does what its import type asks for
and answers with the result. By then the log file has taken a line. -/
theorem runs_opened {beginning : String} {command : TableCommand} {features : List String}
    {outcome : Except Failure ImportResponse}
    (h : Runs (run warehouse beginning command features) session exchanges outcome after) :
    ((opens warehouse command).Allows exchanges false ∧ outcome.isOk = false) ∨
      ∃ first second applied rest context expected found existing before,
        exchanges = first :: second :: (applied ++ rest) ∧
        Describes command first second context expected found ∧
        (Destination.replaces warehouse command.destination.label command.options).Allows applied
          true ∧
        (existing = found ∨ command.options.importType.createsDestination = true) ∧
        (before.drawName beginning).1 = (session.drawName beginning).1 ∧ before.Open ∧
        Runs (do
          let result ← perform warehouse beginning command context expected existing
            (TransferOptions.ofImport command.options features)
          ImportResponse.build (← Action.ofExcept command.destination.label.check) result)
          before rest outcome after := by
  have hsource := (SourceContext.follows_resolve command.source.request).step "resolveSource" false
  have hsteady := (SourceContext.steady_resolve command.source.request).step "resolveSource" false
  rcases (quiet_say _).runs_bind h with ⟨rfl, -, failure, rfl⟩ | ⟨⟨⟩, s, hsay, hs, h₁⟩
  · exact .inl ⟨Trace.unbegun _, rfl⟩
  have hopen : s.Open := open_of_runs_say hsay
  rcases runs_bind.mp h₁ with ⟨failure, rfl, hf⟩ | ⟨first, context, t, rest, rfl, hv, h₂⟩
  · exact .inl ⟨.inl ⟨rfl, (hsource hf).1⟩, rfl⟩
  obtain ⟨hallows, ht⟩ := hsource hv
  have hopen := hsteady hv hopen
  obtain ⟨_, _, -, -, hresolve⟩ := (around_step _ _ _).runs_ok hv
  obtain ⟨-, -, hcontext⟩ := SourceContext.runs_resolve hresolve
  obtain ⟨first, full, rfl, hfull, hdefinition⟩ := hcontext context rfl
  rcases runs_ofExcept_bind.mp h₂ with ⟨failure, -, rfl, rfl, -⟩ | ⟨expected, hexpected, h₃⟩
  · exact .inl ⟨.inr ⟨_, [], rfl, hallows, Trace.unbegun _⟩, rfl⟩
  rcases runs_bind.mp h₃ with ⟨failure, rfl, hf⟩ | ⟨second, found, v, rest, rfl, hv, h₄⟩
  · exact .inl ⟨.inr ⟨_, _, rfl, hallows, .inl ⟨rfl, (Warehouse.runs_lookUp hf).1⟩⟩, rfl⟩
  obtain ⟨hallows', hv', hfound⟩ := Warehouse.runs_lookUp hv
  have hopen := Warehouse.steady_lookUp _ hv hopen
  obtain ⟨second, rfl, hsecond⟩ := hfound found rfl
  have happlies := Destination.follows_applyCreateMode warehouse command.destination.label
    command.options found
  rcases runs_bind.mp h₄ with ⟨failure, rfl, hf⟩ | ⟨applied, existing, w, rest, rfl, hv, h₅⟩
  · exact .inl ⟨.inr ⟨_, _, rfl, hallows, .inr ⟨_, _, rfl, hallows', (happlies hf).1⟩⟩, rfl⟩
  obtain ⟨happlied, hw⟩ := happlies hv
  have hopen := Destination.steady_applyCreateMode _ _ _ _ hv hopen
  have hexisting := Destination.returns_applyCreateMode _ _ _ _ hv
  have hname : (w.drawName beginning).1 = (session.drawName beginning).1 := by
    simp only [Session.drawName, hw, hv', ht, hs]
  exact .inr ⟨first, second, applied, rest, context, expected, found, existing, w, rfl,
    ⟨⟨full, hfull, hdefinition⟩, hexpected, hsecond⟩, happlied, hexisting, hname, hopen, h₅⟩

/-- Every run of an import from a table takes such a course. -/
theorem runs_run {beginning : String} {command : TableCommand} {features : List String}
    {outcome : Except Failure ImportResponse}
    (h : Runs (run warehouse beginning command features) session exchanges outcome after) :
    Course warehouse command (TransferOptions.ofImport command.options features)
      (session.drawName beginning).1 exchanges outcome.isOk := by
  rcases runs_opened h with
    ⟨hopens, hfailed⟩ | ⟨first, second, applied, rest, context, expected, found, existing, before,
      rfl, hdescribes, happlied, hexisting, hname, -, hrest⟩
  · rw [hfailed]
    exact .opened hopens
  rcases runs_bind.mp hrest with
    ⟨failure, rfl, hf⟩ | ⟨performed, result, behind, closing, rfl, hv, hbuilds⟩
  · have hperformed := runs_perform hf
    rw [hname] at hperformed
    rw [← List.append_nil rest]
    exact .performed hdescribes happlied hexisting hperformed rfl id
  have hperformed := runs_perform hv
  rw [hname] at hperformed
  exact .performed hdescribes happlied hexisting hperformed (follows_build command result hbuilds).1
    fun _ => rfl

end FromTable

end WarehouseImport
