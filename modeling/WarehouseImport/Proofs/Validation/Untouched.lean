import WarehouseImport.Proofs.Safety.CreateMode
import WarehouseImport.Proofs.Validation.Parts

/-!
# Failures of validation leave the warehouse as it was

A run of either handler that ends with a failure of validation has only connected and asked for
descriptions: it has sent no statement and no load, and opened no file.

The checks that fail in this way stand before the first write, apart from those in the definitions
that are made behind it. Of these the definition of the staging table and the keys of the
destination were checked before, and the definition of a copy is that of a table with distinct
columns, if the service describes tables as it should.
-/

namespace WarehouseImport

open WarehouseImport.Action

variable {concern : Concern}

namespace Warehouse

/-- A description does nothing but look. -/
theorem describes_looks (table : TableName) :
    Trace.Every (describes table) fun exchange => exchange.call.Looks := by
  refine Trace.every_describes fun exchange hcall => ?_
  rw [hcall]
  trivial

/-- So does a look at a table. -/
theorem looking_lookUp (label : TableLabel) : Looking (lookUp label) :=
  fun _ _ _ _ hruns => describes_looks _ (runs_lookUp hruns).1

/-- What it finds was described. -/
theorem returns_lookUp (label : TableLabel) :
    Returns (lookUp label) fun found =>
      ∃ exchange : Exchange, exchange.Describes label.tableName found := by
  intro session exchanges found after hruns
  obtain ⟨-, -, hfound⟩ := runs_lookUp hruns
  obtain ⟨exchange, -, hdescribes⟩ := hfound found rfl
  exact ⟨exchange, hdescribes⟩

/-- A connection does nothing else. -/
theorem looking_connect (credentials : Credentials) (config : Config) (options : RuntimeOptions) :
    Looking (connect credentials config options) := by
  intro session exchanges outcome after hruns
  rcases (Handler.runs_connect hruns).2 with ⟨rfl, -⟩ | ⟨request, project, rfl, -⟩
  · simp
  · intro exchange hmem
    rw [List.mem_singleton.mp hmem]
    trivial

end Warehouse

namespace Destination

variable {label : TableLabel} {options : ImportOptions}

/-- A create mode is careful: it fails in this way only if it drops nothing. -/
theorem careful_applyCreateMode (warehouse : Warehouse) (label : TableLabel)
    (options : ImportOptions) (existing : Option TableDefinition) :
    Careful .validation (applyCreateMode warehouse label options existing) := by
  unfold applyCreateMode
  split
  · exact (quiet_pure _).looking.careful
  · exact (quiet_pure _).looking.careful
  · split
    · refine careful_ofExcept_bind fun target _ => Passing.careful ?_
      exact (Warehouse.passing_dropObject _ _).bind fun _ => passing_pure _
    · exact (quiet_throw _).looking.careful

/-- For an import that does not create its destination a create mode does nothing. -/
theorem looking_applyCreateMode (warehouse : Warehouse) (existing : Option TableDefinition)
    (hcreates : options.importType.createsDestination = false) :
    Looking (applyCreateMode warehouse label options existing) := by
  refine (follows_applyCreateMode warehouse label options existing).looking ?_
  rw [replaces, hcreates, Bool.and_false]
  exact Trace.every_silent

/-- The destination is defined before it is created. -/
theorem careful_resolve (warehouse : Warehouse) (label : TableLabel) (options : ImportOptions)
    (expected : ColumnCollection) (stamped : Bool) (existing : Option TableDefinition) :
    Careful .validation (resolve warehouse label options expected stamped existing) := by
  cases existing with
  | some definition => exact (passing_pure _).careful
  | none =>
    refine careful_ofExcept_bind fun definition _ => Passing.careful ?_
    split
    · exact (Warehouse.passing_createTable _ _).bind fun _ => passing_pure _
    · exact passing_pure _

/-- Checked keys are columns. -/
theorem missing_of_checkKeys {keys : List String} {columns : ColumnCollection}
    (h : checkKeys label keys columns = .ok ()) : columns.index.missing keys = [] := by
  unfold checkKeys at h
  dsimp only at h
  split at h
  · next hmissing => exact List.isEmpty_iff.mp hmissing
  · cases h

end Destination

/-- A new staging table passes if its definition does under every name. -/
theorem Staging.Layout.passing_defineNew {layout : Layout} {destination : TableDefinition}
    (h : ∀ table, Passes concern.toFailureKind (layout.define destination table))
    (beginning : String) : Passing concern (layout.defineNew destination beginning) :=
  Passing.bind (passing_get.bind fun _ => (passing_set _).bind fun _ => passing_pure _)
    fun _ => passing_ofExcept (h _)

namespace FromTable

variable {command : TableCommand} {context : SourceContext} {expected : ColumnCollection}
  {existing : Option TableDefinition} {first second : Exchange} {base destination : TableDefinition}

/-- A statement that creates an object passes. -/
theorem passing_creating (warehouse : Warehouse) (statement : Statement) :
    Passing concern (creating (warehouse.run statement)) :=
  (Warehouse.passing_run _ _).map.rethrow fun _ => Failure.among_asConflict

/-- A view passes. -/
theorem passing_createView (warehouse : Warehouse) (source destination : TableName) :
    Passing concern (createView warehouse source destination) :=
  (passing_creating _ _).bind fun _ => passing_pure _

/-- A clone passes, and so does the copy in its place. -/
theorem passing_clone (warehouse : Warehouse) (source destination : TableName) :
    Passing concern (clone warehouse source destination) := by
  have htry : Passing concern (tryClone warehouse source destination) := by
    refine Passing.tryCatch ((Warehouse.passing_run _ _).bind fun _ => passing_pure _)
      fun failure hfailure => ?_
    split
    · exact (passing_notice _ _).bind fun _ => passing_pure _
    · exact passing_throw_of_among (Failure.among_asConflict hfailure)
  refine htry.bind fun cloned => ?_
  split
  · exact passing_pure _
  · refine (passing_creating _ _).bind fun _ => (Warehouse.passing_definition _).bind fun _ => ?_
    exact (Warehouse.passing_rowCount _ _).bind fun _ => passing_pure _

/-- Rows that go straight into the destination pass. -/
theorem passing_insertDirectly (warehouse : Warehouse) (destination : TableDefinition)
    (expected : ColumnCollection) (options : TransferOptions)
    (hprints : concern.Prints (.ofBindings context.source.bindings)) :
    Passing concern (insertDirectly warehouse context destination expected options) :=
  (passing_modify _).bind fun _ => (Filling.passing_insert _ _ _ _ hprints).bind fun _ =>
    passing_progress.bind fun _ => passing_pure _

/-- Rows that are staged and written pass. -/
theorem passing_stageAndWrite (warehouse : Warehouse) (staging destination : TableDefinition)
    (options : TransferOptions) (hprints : concern.Prints (.ofBindings context.source.bindings)) :
    Passing concern (stageAndWrite warehouse context staging destination options) := by
  have hfinish : Passing concern (Writing.finish warehouse .replace staging destination options) :=
    Writing.passing_finish warehouse staging options rfl
  unfold stageAndWrite
  split
  · exact (Filling.passing_copy _ _ _).bind fun _ => hfinish
  · exact (Warehouse.passing_createTable _ _).bind fun _ =>
      (Filling.passing_insert _ _ _ _ hprints).bind fun _ => hfinish

/-- Rows that go through a staging table pass if its definition does under every name. -/
theorem passing_importStaged (warehouse : Warehouse) (beginning : String)
    (options : TransferOptions)
    (hdefine : ∀ layout, Staging.Layout.ofMappings destination (stagingMappings command context) =
      .ok layout → ∀ table, Passes concern.toFailureKind (layout.define destination table))
    (hprints : concern.Prints (.ofBindings context.source.bindings)) :
    Passing concern (importStaged warehouse beginning command context destination options) := by
  refine passing_ofExcept_bind (Staging.Layout.passes_ofMappings _ _) fun layout hlayout => ?_
  refine (Staging.Layout.passing_defineNew (hdefine layout hlayout) beginning).bind fun _ => ?_
  refine (passing_modify _).bind fun _ => ?_
  exact (passing_stageAndWrite _ _ _ _ hprints).afterwards (Staging.passing_remove _ _)

/-- The moving of rows passes if the destination takes the keys of the command and its staging table
can be defined. -/
theorem passing_moveRows (warehouse : Warehouse) (beginning : String) (expected : ColumnCollection)
    (options : TransferOptions)
    (hkeyed : Passes concern.toFailureKind (keyed command.options base))
    (hdefine : ∀ destination, keyed command.options base = .ok destination →
      ∀ layout, Staging.Layout.ofMappings destination (stagingMappings command context) =
        .ok layout → ∀ table, Passes concern.toFailureKind (layout.define destination table))
    (hprints : concern.Prints (.ofBindings context.source.bindings)) :
    Passing concern (moveRows warehouse beginning command context base expected options) := by
  refine passing_ofExcept_bind hkeyed fun destination hdestination => ?_
  refine Passing.rethrow ?_ fun _ => among_reportedAs
  split
  · exact passing_insertDirectly _ _ _ _ hprints
  · exact passing_importStaged _ _ _ (hdefine destination hdestination) hprints

/-- A full import is careful: it checks keys and defines its destination before it writes. -/
theorem careful_importRows (warehouse : Warehouse) (beginning : String) (options : TransferOptions)
    (hdescribes : Describes command first second context expected existing) :
    Careful .validation
      (importRows warehouse beginning command context expected existing options) := by
  have hrest (hchecked : command.options.dedupType = .updateDuplicates → ∀ definition,
      existing = some definition →
        definition.columns.index.missing command.options.dedupColumns = []) :
      Careful .validation (do
        let destination ← Destination.resolve warehouse command.destination.label command.options
          expected options.stamped existing
        moveRows warehouse beginning command context destination expected options) :=
    (Destination.careful_resolve _ _ _ _ _ _).bind_of (Destination.returns_resolve _ _ _ _ _ _)
      fun base hsettled => passing_moveRows warehouse beginning expected options
        (passes_keyed hchecked hsettled)
        (fun _ hkeyed _ hlayout => passes_define hdescribes hsettled hkeyed hlayout)
        (Concern.prints_validation _)
  unfold importRows
  by_cases hkeys : (existing.isNone || command.options.dedupType == .updateDuplicates) = true
  · rw [if_pos hkeys]
    refine careful_ofExcept_bind fun _ hchecked => hrest ?_
    rintro - definition rfl
    exact Destination.missing_of_checkKeys hchecked
  · rw [if_neg hkeys]
    refine hrest fun hupdate => ?_
    simp [hupdate] at hkeys

/-- An import that creates its destination with a statement of its own passes. -/
theorem passing_perform (warehouse : Warehouse) (beginning : String) (context : SourceContext)
    (expected : ColumnCollection) (existing : Option TableDefinition) (options : TransferOptions)
    (hcreates : command.options.importType.createsDestination = true) :
    Passing concern (perform warehouse beginning command context expected existing options) := by
  unfold perform
  cases himport : command.options.importType with
  | view =>
    refine Passing.step ?_ _ _
    exact (passing_ofExcept (TableLabel.passes_check _)).bind fun _ =>
      (passing_ofExcept (TableLabel.passes_check _)).bind fun _ => passing_createView _ _ _
  | clone =>
    refine Passing.step ?_ _ _
    exact (passing_ofExcept (TableLabel.passes_check _)).bind fun _ =>
      (passing_ofExcept (TableLabel.passes_check _)).bind fun _ => passing_clone _ _ _
  | _ =>
    rw [himport] at hcreates
    cases hcreates

/-- Any other import is careful. -/
theorem careful_perform (warehouse : Warehouse) (beginning : String) (options : TransferOptions)
    (hdescribes : Describes command first second context expected existing)
    (hcreates : command.options.importType.createsDestination = false) :
    Careful .validation (perform warehouse beginning command context expected existing options) := by
  unfold perform
  cases himport : command.options.importType with
  | incremental => exact ((quiet_ofExcept _).bind fun _ => quiet_pure _).looking.careful
  | full => exact careful_importRows warehouse beginning options hdescribes
  | _ =>
    rw [himport] at hcreates
    cases hcreates

/-- The source of a command is looked for in a description. -/
theorem returns_resolveSource (command : TableCommand) :
    Returns (Action.step "resolveSource" false (SourceContext.resolve command.source.request))
      fun context => ∃ exchange full,
        Exchange.Describes exchange command.source.label.tableName (some full) ∧
          SourceContext.ofDefinition command.source.request full = .ok context := by
  intro session exchanges context after hruns
  obtain ⟨_, _, -, -, hresolve⟩ := (around_step _ _ _).runs_ok hruns
  obtain ⟨-, -, hcontext⟩ := SourceContext.runs_resolve hresolve
  obtain ⟨exchange, full, -, hdescribes, hdefinition⟩ := hcontext context rfl
  exact ⟨exchange, full, hdescribes, hdefinition⟩

/-- The response to a command passes. -/
theorem passing_respond (command : TableCommand) (result : ImportResult) : Passing concern (do
    ImportResponse.build (← Action.ofExcept command.destination.label.check) result) :=
  (passing_ofExcept (TableLabel.passes_check _)).bind fun _ => ImportResponse.passing_build _ _

/-- An import from a table is careful. -/
theorem careful_run (warehouse : Warehouse) (beginning : String) (command : TableCommand)
    (features : List String) : Careful .validation (run warehouse beginning command features) := by
  have hsource : Looking (Action.step "resolveSource" false
      (SourceContext.resolve command.source.request)) :=
    ((SourceContext.follows_resolve _).step _ _).looking (Warehouse.describes_looks _)
  refine (quiet_say _).looking.bind_careful fun _ => ?_
  refine hsource.bind_careful_of (returns_resolveSource command) fun context hcontext => ?_
  obtain ⟨first, full, hfirst, hdefinition⟩ := hcontext
  refine careful_ofExcept_bind fun expected hexpected => ?_
  refine (Warehouse.looking_lookUp _).bind_careful_of (Warehouse.returns_lookUp _)
    fun found hfound => ?_
  obtain ⟨second, hsecond⟩ := hfound
  have hdescribes : Describes command first second context expected found :=
    ⟨⟨full, hfirst, hdefinition⟩, hexpected, hsecond⟩
  cases hcreates : command.options.importType.createsDestination with
  | true =>
    refine (Destination.careful_applyCreateMode _ _ _ _).bind fun existing => ?_
    exact (passing_perform _ _ _ _ _ _ hcreates).bind (passing_respond command)
  | false =>
    refine (Destination.looking_applyCreateMode warehouse found hcreates).bind_careful_of
      (Destination.returns_applyCreateMode _ _ _ _) fun existing hexisting => ?_
    rw [hcreates] at hexisting
    obtain rfl := hexisting.resolve_right (by simp)
    exact (careful_perform warehouse beginning _ hdescribes hcreates).bind
      (passing_respond command)

end FromTable

namespace FromFile

/-- The loading of files passes once the mode was found to be supported. -/
theorem passing_loadAndWrite (warehouse : Warehouse) (command : FileCommand) {mode : WriteMode}
    (staging : TableDefinition) {destination : TableDefinition} (options : TransferOptions)
    (token : Option Json) (hsupported : Writing.checkSupported mode destination = .ok ()) :
    Passing concern (loadAndWrite warehouse command mode staging destination options token) :=
  (Warehouse.passing_createTable _ _).bind fun _ =>
    (Filling.passing_load _ _ _ _ _ _).bind fun _ =>
      Writing.passing_finish warehouse staging options hsupported

/-- Rows of files move carefully: mode, staging table and token are settled first. -/
theorem careful_moveRows (warehouse : Warehouse) (beginning : String) (credentials : Credentials)
    (command : FileCommand) (destination : TableDefinition) (options : TransferOptions) :
    Careful .validation (moveRows warehouse beginning credentials command destination options) := by
  refine careful_ofExcept_bind fun _ hsupported => careful_ofExcept_bind fun layout _ => ?_
  have hdefine : Looking (layout.defineNew destination beginning) := by
    intro session exchanges outcome after hruns
    rw [(Staging.Layout.runs_defineNew hruns).1]
    simp
  refine hdefine.bind_careful fun staging => (quiet_beginImport _).looking.bind_careful fun _ => ?_
  refine careful_ofExcept_bind fun token _ => Passing.careful ?_
  exact ((passing_loadAndWrite _ _ _ _ _ hsupported).rethrow fun _ =>
    among_reportedAs).afterwards (Staging.passing_remove _ _)

/-- An import of files is careful. -/
theorem careful_run (warehouse : Warehouse) (beginning : String) (credentials : Credentials)
    (command : FileCommand) : Careful .validation (run warehouse beginning credentials command) := by
  unfold run
  by_cases hdirectory : command.csv.sourceType = .directory
  · rw [if_pos hdirectory]
    exact (passing_throw_bind rfl _).careful
  rw [if_neg hdirectory]
  refine (quiet_say _).looking.bind_careful fun _ => careful_ofExcept_bind fun target _ => ?_
  have hlooking := (Warehouse.follows_definition target).looking (Warehouse.describes_looks target)
  refine hlooking.bind_careful fun found => ?_
  cases found with
  | none => exact (quiet_throw _).looking.careful
  | some found =>
    refine careful_ofExcept_bind fun destination _ => ?_
    exact (careful_moveRows _ _ _ _ _ _).bind fun _ => ImportResponse.passing_build _ _

end FromFile

namespace Handler

/-- What a handler carries out is careful. -/
theorem careful_perform (handler : Handler) (warehouse : Warehouse) (config : Config)
    (credentials : Credentials) (command : ImportCommand) (features : List String) :
    Careful .validation (handler.perform warehouse config credentials command features) := by
  unfold perform
  split
  · exact FromTable.careful_run _ _ _ _
  · exact FromFile.careful_run _ _ _ _
  · exact (quiet_throw _).looking.careful
  · exact (quiet_throw _).looking.careful

/-- So is what it does between opening and closing its log file. -/
theorem careful_report (handler : Handler) (config : Config) (credentials : Credentials)
    (command : ImportCommand) (features : List String) (options : RuntimeOptions) :
    Careful .validation (handler.report config credentials command features options) := by
  refine (Warehouse.looking_connect _ _ _).bind_careful fun warehouse => ?_
  refine (careful_perform _ _ _ _ _ _).bind fun response => ?_
  exact (passing_logSteps _ _).bind fun _ => passing_logMessages.bind fun _ => passing_pure _

/-- A run that ends with a failure of validation has left the warehouse as it was: it has made no
calls but for a connection and for descriptions. -/
theorem validation_untouched {handler : Handler} {config : Config} {credentials : Credentials}
    {command : ImportCommand} {features : List String} {options : RuntimeOptions}
    {session after : Session} {exchanges : List Exchange} {failure : Failure}
    (hrun : Runs (handler.run config credentials command features options) session exchanges
      (.error failure) after)
    (hsound : ∀ exchange ∈ exchanges, exchange.Sound)
    (hvalidation : failure.isValidation = true) :
    ∀ exchange ∈ exchanges, exchange.call.Looks := by
  rcases runs_reported hrun with ⟨rfl, -⟩ | ⟨opened, closing, -, hreport⟩
  · simp
  · refine (careful_report _ _ _ _ _ _ hreport hsound).resolve_left fun hpasses => ?_
    rw [show failure.isValidation = false from hpasses failure rfl] at hvalidation
    cases hvalidation

/-- Where every table is described alike and soundly, all descriptions are sound. -/
theorem sound_exchangesAmong {command : TableCommand} {described : ReflectedTable}
    (hsound : described.Sound) :
    ∀ exchange ∈ exchangesAmong command described, exchange.Sound := by
  intro exchange hmem
  obtain ⟨earlier, hanswer⟩ := Script.answer_of_mem_exchanges hmem
  obtain ⟨call, answer⟩ := exchange
  cases call with
  | reflect table =>
    intro found hfound
    obtain rfl : answer = .ok described := hanswer
    obtain rfl := Except.ok.inj hfound
    exact hsound
  | _ => trivial

/-- A table that exists is not created once more: the run connects, has source and destination
described, and ends. -/
theorem validation_untouched_there :
    (exchangesAmong creatingImport (ReflectedTable.ofNames ["a"] ["a"])).length = 3 ∧
      ∀ exchange ∈ exchangesAmong creatingImport (ReflectedTable.ofNames ["a"] ["a"]),
        exchange.call.Looks := by
  have hsound : (ReflectedTable.ofNames ["a"] ["a"]).Sound := ⟨by decide, by decide⟩
  obtain ⟨outcome, after, hrun⟩ := runs_against
    (Handler.tables.run Config.plain Credentials.plain (.table creatingImport) [] {}) Session.plain
    (Script.obliging fun _ => .ok (ReflectedTable.ofNames ["a"] ["a"]))
  obtain ⟨-, -, hends⟩ := refused_run hrun (isThere_exchangesAmong rfl ⟨_, rfl⟩) (.inl rfl)
  obtain rfl : outcome = .error (.tableExists ⟨"data", "report"⟩) :=
    hends ⟨_, List.mem_iff_getElem?.mpr ⟨1, rfl⟩, _, _, _, ⟨_, rfl, _, rfl, rfl⟩, rfl, rfl⟩
  exact ⟨rfl, validation_untouched hrun (sound_exchangesAmong hsound) rfl⟩

end Handler

end WarehouseImport
