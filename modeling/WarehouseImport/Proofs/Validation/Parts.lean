import WarehouseImport.Proofs.Validation.Actions

/-!
# The parts of an import that pass

Loads and descriptions never end with a failure of concern, whatever the service answers, nor do
statements whose parameters can be written to the log, or the parts of an import that are made of
these: filling a staging table, writing the destination, dropping what is left. A definition only
passes where the service is trusted in its description.
-/

namespace WarehouseImport

open WarehouseImport.Action

variable {concern : Concern}

/-- Parameters are written to the log, unless it is of no concern that they have no text. -/
def Concern.Prints (concern : Concern) (parameters : Parameters) : Prop :=
  parameters.document.isGiven = true → parameters.document.print? = none →
    concern.among .unprintableDocument = false

/-- No parameters need no text. -/
theorem Concern.prints_none : concern.Prints Parameters.none := by
  intro hgiven
  cases hgiven

/-- Among the failures of validation is none about a text. -/
theorem Concern.prints_validation (parameters : Parameters) :
    Concern.validation.Prints parameters := fun _ _ => rfl

namespace Warehouse

/-- A statement in the log passes. -/
theorem passing_logStatement (statement : Statement) {parameters : Parameters} (detail : Detail)
    (hprints : concern.Prints parameters) :
    Passing concern (logStatement statement parameters detail) := by
  refine (passing_log _ _ _).bind fun _ => ?_
  split
  · next hgiven =>
    split
    · exact passing_log _ _ _
    · next hnone => exact passing_throw_of_among (hprints hgiven hnone)
  · exact passing_pure _

/-- The end of a job passes. -/
theorem passing_finish (job : Job) : Passing concern (finish job) :=
  (passing_log _ _ _).bind fun _ => (passing_modify _).bind fun _ => passing_settle _

/-- A statement that is sent passes if its parameters do. -/
theorem passing_runStatement (warehouse : Warehouse) (statement : Statement)
    {parameters : Parameters} (h : Passes concern.toFailureKind parameters.bindings) :
    Passing concern (warehouse.runStatement statement parameters) := by
  refine (passing_ofExcept h).bind fun _ => (passing_ask _).bind fun _ =>
    (passing_settle _).bind fun _ => (passing_finish _).bind fun _ => ?_
  split
  · exact passing_pure _
  · exact passing_throw rfl

/-- A statement that is written to the log and run likewise. -/
theorem passing_execute (warehouse : Warehouse) (statement : Statement) {parameters : Parameters}
    (h : Passes concern.toFailureKind parameters.bindings) (hprints : concern.Prints parameters) :
    Passing concern (warehouse.execute statement parameters) := by
  refine (passing_logStatement _ _ hprints).bind fun _ => ?_
  split
  · exact passing_pure _
  · exact (passing_runStatement _ _ h).bind fun _ => passing_pure _

/-- A statement without parameters passes. -/
theorem passing_run (warehouse : Warehouse) (statement : Statement) :
    Passing concern (warehouse.run statement) :=
  passing_execute warehouse statement (passes_ok _) Concern.prints_none

/-- The creation of a table passes. -/
theorem passing_createTable (warehouse : Warehouse) (definition : TableDefinition) :
    Passing concern (warehouse.createTable definition) :=
  (passing_ofExcept (Statement.passes_create _)).bind fun _ => passing_run _ _

/-- A drop passes. -/
theorem passing_drop (warehouse : Warehouse) (kind : ObjectKind) (target : TableName)
    (mayMiss : Bool) : Passing concern (warehouse.drop kind target mayMiss) := by
  refine (passing_run _ _).tryCatch fun failure hfailure => ?_
  cases failure with
  | backend e =>
    change Passing concern (if _ then _ else _)
    split
    · exact (passing_log _ _ _).bind fun _ => passing_pure _
    · exact passing_throw_of_among hfailure
  | _ => exact passing_throw_of_among hfailure

/-- A description passes. -/
theorem passing_reflect (table : TableName) : Passing concern (reflect table) := by
  intro session exchanges outcome after hruns _
  obtain ⟨answer, -, rfl, -⟩ := runs_reflect_of_answer hruns
  exact passes_reflected answer

/-- A definition passes, since the service is trusted in its description. -/
theorem passing_definition (table : TableName) : Passing concern (Warehouse.definition table) := by
  intro session exchanges outcome after hruns htrusted
  obtain ⟨answer, rfl, rfl, -⟩ := runs_definition_of_answer hruns
  have hdescribed : concern.trusted ⟨.reflect table, answer⟩ := htrusted _ (by simp)
  refine (passes_reflected answer).bind fun found hfound => ?_
  cases found with
  | none => exact passes_ok _
  | some described =>
    obtain rfl : answer = .ok described := reflected_eq_ok.mp hfound
    exact (concern.defines hdescribed).map some

/-- The drop of an object whose kind is not known passes. -/
theorem passing_dropObject (warehouse : Warehouse) (target : TableName) :
    Passing concern (warehouse.dropObject target) := by
  refine (passing_reflect target).bind fun found => ?_
  cases found with
  | none => exact passing_pure _
  | some described => exact passing_drop _ _ _ _

/-- The number of rows passes. -/
theorem passing_rowCount (warehouse : Warehouse) (table : TableName) :
    Passing concern (warehouse.rowCount table) := by
  refine (passing_reflect table).bind fun found => ?_
  cases found with
  | none => exact passing_throw rfl
  | some described =>
    dsimp only
    split
    · exact (passing_log _ _ _).bind fun _ => passing_pure _
    · refine Passing.bind ?_ fun row => ?_
      · refine (passing_logStatement _ _ Concern.prints_none).bind fun _ =>
          (passing_runStatement _ _ (passes_ok _)).bind fun _ => ?_
        exact (passing_log _ _ _).bind fun _ => passing_pure _
      · split <;> exact passing_pure _

/-- A load passes. -/
theorem passing_load (warehouse : Warehouse) (request : LoadRequest) :
    Passing concern (warehouse.load request) := by
  unfold load
  by_cases hempty : request.uris.isEmpty
  · rw [if_pos hempty]
    exact passing_throw_bind rfl _
  rw [if_neg hempty]
  refine (passing_log _ _ _).bind fun _ => ?_
  split
  · exact passing_pure _
  · refine (passing_ask _).bind fun _ => (passing_settle _).bind fun job => ?_
    exact ((passing_finish job).rethrow fun _ => among_loadFailure).bind fun _ =>
      passing_pure _

end Warehouse

/-- The response of an import passes. -/
theorem ImportResponse.passing_build (destination : TableName) (result : ImportResult) :
    Passing concern (build destination result) := by
  refine Passing.bind ((Warehouse.passing_reflect _).bind fun found => ?_) fun _ =>
    passing_ofExcept (result.passes_response _ _)
  cases found with
  | none => exact passing_pure _
  | some described => exact passing_pure _

namespace Filling

/-- The insertion of rows passes if the bindings of their source have a text. -/
theorem passing_insert (warehouse : Warehouse) {source : Source} (target : TableLabel)
    (columns : List String) (options : TransferOptions)
    (hprints : concern.Prints (.ofBindings source.bindings)) :
    Passing concern (insert warehouse source target columns options) := by
  refine passing_ofExcept_bind (source.passes_mappedTo columns) fun select hselect => ?_
  rw [← Source.bindings_of_mappedTo hselect] at hprints
  refine (passing_ofExcept (target.passes_check.bind fun _ _ =>
    Statement.passes_mappedInsert _ _ _)).bind fun statement => ?_
  refine ((Warehouse.passing_execute _ _ (passes_ok _) hprints).timed _).bind fun _ => ?_
  exact (passing_addRows _).bind fun _ => passing_modify _

/-- A copy passes. -/
theorem passing_copy (warehouse : Warehouse) (source : Source) (staging : TableDefinition) :
    Passing concern (copy warehouse source staging) := by
  cases source with
  | table name columns keys =>
    refine ((Warehouse.passing_run _ _).timed _).bind fun _ => ?_
    refine (Warehouse.passing_rowCount _ _).bind fun _ => ?_
    exact (passing_addRows _).bind fun _ => passing_modify _
  | _ => exact passing_throw rfl

/-- A load of files passes. -/
theorem passing_load (warehouse : Warehouse) (path : FilePath) (csv : CsvOptions)
    (staging : TableDefinition) (options : TransferOptions) (token : Option Json) :
    Passing concern (load warehouse path csv staging options token) := by
  have haddresses : Passing concern (addresses path csv token) := by
    unfold addresses
    split
    · refine (passing_ask _).bind fun text => ?_
      cases text with
      | some text => exact passing_ofExcept (Manifest.passes_read _ _)
      | none => exact passing_throw rfl
    · exact passing_pure _
  refine haddresses.bind fun found => Passing.bind (Passing.timed ?_ _) fun _ => ?_
  · exact (passing_ofExcept (Failure.passes_allTexts found)).bind fun _ =>
      Warehouse.passing_load _ _
  · exact (passing_addRows _).bind fun _ => passing_modify _

end Filling

namespace Writing

variable {mode : WriteMode} {destination : TableDefinition}

/-- The table of keys passes. -/
theorem passing_deduplicate (warehouse : Warehouse) (staging destination : TableDefinition) :
    Passing concern (deduplicate warehouse staging destination) := by
  refine Passing.bind (Passing.timed ?_ _) fun _ => passing_pure _
  exact (passing_ofExcept (Statement.passes_keyedCopy _)).bind fun _ => Warehouse.passing_run _ _

/-- The statement that writes the destination passes. -/
theorem passing_writeFrom (warehouse : Warehouse) (mode : WriteMode)
    (staging destination : TableDefinition) (options : TransferOptions) (source : String) :
    Passing concern (writeFrom warehouse mode staging destination options source) := by
  refine Passing.bind (Passing.timed ?_ _) fun _ => passing_pure _
  exact (passing_ofExcept (passes_statement _ _)).bind fun _ => Warehouse.passing_run _ _

/-- The writing of the destination passes once the mode was found to be supported. -/
theorem passing_finish (warehouse : Warehouse) (staging : TableDefinition)
    (options : TransferOptions) (hsupported : checkSupported mode destination = .ok ()) :
    Passing concern (finish warehouse mode staging destination options) := by
  have hwrite : Passing concern (write warehouse mode staging destination options) := by
    unfold write
    split
    · exact passing_writeFrom _ _ _ _ _ _
    · refine (passing_deduplicate _ _ _).bind fun kept => ?_
      exact (passing_writeFrom _ _ _ _ _ _).afterwards
        ((Warehouse.passing_drop _ _ _ _).bind fun _ => passing_pure _)
  refine (passing_ofExcept (by rw [hsupported]; exact passes_ok _)).bind fun _ => ?_
  exact hwrite.bind fun _ => (passing_modify _).bind fun _ => passing_progress.bind fun _ =>
    passing_pure _

end Writing

/-- The drop of a staging table passes. -/
theorem Staging.passing_remove (warehouse : Warehouse) (staging : TableName) :
    Passing concern (remove warehouse staging) :=
  (Warehouse.passing_drop _ _ _ _).map.tryCatch fun _ _ => passing_log _ _ _

end WarehouseImport
