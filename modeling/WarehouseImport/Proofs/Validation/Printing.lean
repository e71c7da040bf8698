import WarehouseImport.Proofs.Sql.Numbers
import WarehouseImport.Proofs.Validation.Untouched

/-!
# Imports whose parameters have a text

The parameters of a statement are written to the log, which fails for a number that does not fit a
word of 64 bits. Nothing else in an import from a table fails in this way: no definition, mapping
or filter, no connection, and no statement without parameters. So an import passes if the numbers in
its filters fit.

The service is trusted in nothing here, since a definition may fail, but not for want of a text.
-/

namespace WarehouseImport

open WarehouseImport.Action

/-! ## Definitions and columns -/

/-- Columns fail for their names only. -/
theorem ColumnCollection.unprintable_ofList (columns : List Column) :
    Passes .unprintable (ofList columns) := by
  unfold ofList
  split
  · exact passes_ok _
  · exact passes_of_among rfl

namespace TableDefinition

/-- A definition fails for its keys only. -/
theorem unprintable_ofCollection (name : TableName) (columns : ColumnCollection)
    (keys : List String) (temporary : Bool) (rows bytes : Option Int) :
    Passes .unprintable (ofCollection name columns keys temporary rows bytes) := by
  unfold ofCollection
  split
  · exact passes_ok _
  · exact passes_of_among rfl

/-- So does one of a list of columns, apart from their names. -/
theorem unprintable_make (name : TableName) (columns : List Column) (keys : List String)
    (temporary : Bool) (rows bytes : Option Int) :
    Passes .unprintable (make name columns keys temporary rows bytes) :=
  (ColumnCollection.unprintable_ofList _).bind fun _ _ => unprintable_ofCollection _ _ _ _ _ _

/-- A restricted definition fails for names that are no columns. -/
theorem unprintable_restrict (definition : TableDefinition) (names : List String) :
    Passes .unprintable (definition.restrict names) := by
  unfold restrict
  split
  · exact passes_ok _
  · dsimp only
    split
    · exact unprintable_make _ _ _ _ _ _
    · exact passes_of_among rfl

end TableDefinition

/-- Failures of printing, where the service is trusted in nothing. -/
def Concern.printing : Concern where
  toFailureKind := .unprintable
  trusted := fun _ => True
  defines _ := (passes_mapM SchemaField.passes_column _).bind fun _ _ =>
    TableDefinition.unprintable_make _ _ _ _ _ _

/-- Parameters with a text are written to the log. -/
theorem Concern.prints_printing {parameters : Parameters}
    (h : parameters.document.print?.isSome = true) : Concern.printing.Prints parameters := by
  intro _ hnone
  rw [hnone] at h
  cases h

/-- Expected columns fail for columns that the source lacks, or for their names. -/
theorem ColumnMapping.unprintable_expected (source : TableDefinition)
    (mappings : List ColumnMapping) : Passes .unprintable (expected source mappings) := by
  unfold expected
  split
  · exact ColumnCollection.unprintable_ofList _
  · dsimp only
    split
    · exact ColumnCollection.unprintable_ofList _
    · exact passes_of_among rfl

/-! ## Filters and sources -/

/-- The check of a filter fails for what is missing or has an unknown name. -/
theorem FilterSpec.unprintable_check (spec : FilterSpec) : Passes .unprintable spec.check := by
  have hrefused {α β : Type} {failure : Failure} {next : α → Except Failure β}
      (h : FailureKind.unprintable.among failure = false) :
      Passes .unprintable (Except.error failure >>= next) :=
    (passes_of_among h).bind fun _ hnever => by cases hnever
  unfold check
  dsimp only
  split
  · split
    · exact hrefused rfl
    refine (passes_ok _).bind fun column _ => ?_
    split
    · exact hrefused rfl
    split
    · refine (passes_ok _).bind fun operator _ => ?_
      split
      · exact (passes_ok _).bind fun _ _ => passes_ok _
      · exact hrefused rfl
    · exact hrefused rfl
  · exact hrefused rfl

/-- The casts that a filter may need fail for want of one. -/
theorem FilterType.unprintable_cast? (type : FilterType) : Passes .unprintable type.cast? := by
  cases type with
  | string => exact passes_ok _
  | integer => exact passes_ok _
  | real => exact passes_ok _
  | _ => exact passes_of_among rfl

/-- A value that cannot be bound is refused for what it is. -/
theorem FilterType.unprintable_convert (type : FilterType) (column : String) (value : Json) :
    Passes .unprintable (type.convert column value) := by
  unfold convert
  dsimp only
  split
  · exact passes_ok _
  · exact passes_of_among rfl

namespace FilterQuery

/-- So is a filter. -/
theorem unprintable_restrict (query : FilterQuery) (filter : WhereFilter) :
    Passes .unprintable (query.restrict filter) := by
  unfold restrict
  split
  · exact passes_of_among rfl
  · exact (FilterType.unprintable_cast? _).bind fun _ _ =>
      (FilterType.unprintable_convert _ _ _).bind fun _ _ => passes_ok _
  · split
    · exact passes_of_among rfl
    · exact (FilterType.unprintable_cast? _).bind fun _ _ =>
        (passes_mapM (FilterType.unprintable_convert _ _) _).bind fun _ _ => passes_ok _

/-- And a selection under filters. -/
theorem unprintable_select (table : TableName) (columns : List String) (filters : List FilterSpec)
    (seconds limit : Int) :
    Passes .unprintable (select table columns filters seconds limit) := by
  have hfilters (query : FilterQuery) : Passes .unprintable (filters.foldlM add query) := by
    induction filters generalizing query with
    | nil => exact passes_ok _
    | cons spec rest ih =>
      rw [List.foldlM_cons]
      exact (spec.unprintable_check.bind fun _ _ => unprintable_restrict _ _).bind fun _ _ => ih _
  exact (hfilters _).bind fun _ _ => passes_ok _

end FilterQuery

namespace SourceContext

/-- Under filters a query has to be generated. -/
theorem needsQuery_of_filters {request : SourceRequest} {full : TableDefinition}
    (selected : List String) (h : request.filters ≠ []) :
    needsQuery request full selected = true := by
  have hsome : request.filters.isEmpty = false := List.isEmpty_eq_false_iff.mpr h
  simp [needsQuery, hsome]

/-- The query of a request fails for columns and filters. -/
theorem unprintable_generate (request : SourceRequest) (full effective : TableDefinition)
    (selected : List String) : Passes .unprintable (generate request full effective selected) := by
  have hfilter (filter : FilterSpec) : Passes .unprintable (filterColumn filter) := by
    unfold filterColumn
    split
    · exact passes_ok _
    · exact passes_of_among rfl
  exact (passes_mapM hfilter _).bind fun _ _ => (full.unprintable_restrict _).bind fun _ _ =>
    (FilterQuery.unprintable_select _ _ _ _ _).bind fun _ _ => passes_ok _

/-- So does the source of a request, or because its table is missing. -/
theorem unprintable_ofReflected (request : SourceRequest) (found : Option TableDefinition) :
    Passes .unprintable (ofReflected request found) := by
  cases found with
  | none => exact passes_of_among rfl
  | some full =>
    refine (full.unprintable_restrict _).bind fun effective _ => ?_
    dsimp only
    split
    · exact (unprintable_generate _ _ _ _).bind fun _ _ => passes_ok _
    · exact (passes_ok _).bind fun _ _ => passes_ok _

end SourceContext

/-! ## Destinations and staging tables -/

namespace Destination

/-- Keys that are no columns are found by a check. -/
theorem unprintable_checkKeys (label : TableLabel) (keys : List String)
    (columns : ColumnCollection) : Passes .unprintable (checkKeys label keys columns) := by
  unfold checkKeys
  dsimp only
  split
  · exact passes_ok _
  · exact passes_of_among rfl

/-- A destination fails for its name, columns or keys. -/
theorem unprintable_define (label : TableLabel) (expected : ColumnCollection) (keys : List String)
    (stamped : Bool) : Passes .unprintable (define label expected keys stamped) := by
  refine Passes.bind ?_ fun _ _ => (label.passes_check).bind fun _ _ =>
    TableDefinition.unprintable_make _ _ _ _ _ _
  unfold columns
  split
  · exact (ColumnSpec.passes_check rfl).bind fun _ _ => passes_ok _
  · exact passes_ok _

/-- What a destination is created from has no parameters. -/
theorem passing_resolve (warehouse : Warehouse) (label : TableLabel) (options : ImportOptions)
    (expected : ColumnCollection) (stamped : Bool) (existing : Option TableDefinition) :
    Passing .printing (resolve warehouse label options expected stamped existing) := by
  cases existing with
  | some definition => exact passing_pure _
  | none =>
    refine (passing_ofExcept (unprintable_define _ _ _ _)).bind fun definition => ?_
    split
    · exact (Warehouse.passing_createTable _ _).bind fun _ => passing_pure _
    · exact passing_pure _

/-- Neither has what it is dropped with. -/
theorem passing_applyCreateMode (warehouse : Warehouse) (label : TableLabel)
    (options : ImportOptions) (existing : Option TableDefinition) :
    Passing .printing (applyCreateMode warehouse label options existing) := by
  unfold applyCreateMode
  split
  · exact passing_pure _
  · exact passing_pure _
  · split
    · exact (passing_ofExcept label.passes_check).bind fun _ =>
        (Warehouse.passing_dropObject _ _).bind fun _ => passing_pure _
    · exact passing_throw_of_among rfl

end Destination

/-- A staging table fails for its name, columns or keys. -/
theorem Staging.Layout.unprintable_define (layout : Layout) (destination : TableDefinition)
    (table : String) : Passes .unprintable (layout.define destination table) :=
  (TableName.passes_make _ _).bind fun _ _ => TableDefinition.unprintable_make _ _ _ _ _ _

/-! ## Imports -/

/-- A look at a table passes. -/
theorem Warehouse.passing_lookUp (label : TableLabel) : Passing .printing (lookUp label) :=
  (passing_ofExcept label.passes_check).bind fun _ => passing_definition _

namespace FromTable

variable {command : TableCommand} {context : SourceContext}

/-- A full import passes if the bindings of its source have a text. -/
theorem passing_importRows (warehouse : Warehouse) (beginning : String)
    (expected : ColumnCollection) (existing : Option TableDefinition) (options : TransferOptions)
    (hprints : Concern.printing.Prints (.ofBindings context.source.bindings)) :
    Passing .printing
      (importRows warehouse beginning command context expected existing options) := by
  have hkeyed (base : TableDefinition) : Passes .unprintable (keyed command.options base) := by
    unfold keyed
    split
    · exact TableDefinition.unprintable_ofCollection _ _ _ _ _ _
    · exact passes_ok _
  have hrest : Passing .printing (do
      let destination ← Destination.resolve warehouse command.destination.label command.options
        expected options.stamped existing
      moveRows warehouse beginning command context destination expected options) :=
    (Destination.passing_resolve _ _ _ _ _ _).bind fun base =>
      passing_moveRows warehouse beginning expected options (hkeyed base)
        (fun _ _ layout _ => layout.unprintable_define _) hprints
  unfold importRows
  split
  · exact (passing_ofExcept (Destination.unprintable_checkKeys _ _ _)).bind fun _ => hrest
  · exact hrest

/-- An incremental import is refused for what it is, or for what does not fit. -/
theorem unprintable_refuseIncremental (command : TableCommand) (context : SourceContext)
    (expected : ColumnCollection) (existing : Option TableDefinition) :
    Passes .unprintable (refuseIncremental command context expected existing) := by
  unfold refuseIncremental
  split
  · split
    · split
      · exact passes_of_among rfl
      · next failure hfailure =>
        unfold Reconciliation.check at hfailure
        dsimp only at hfailure
        split at hfailure
        · cases hfailure
        · cases hfailure
          exact passes_of_among rfl
    · exact passes_of_among rfl
  · exact passes_of_among rfl

/-- So does what any import type asks for. -/
theorem passing_performs (warehouse : Warehouse) (beginning : String)
    (expected : ColumnCollection) (existing : Option TableDefinition) (options : TransferOptions)
    (hprints : Concern.printing.Prints (.ofBindings context.source.bindings)) :
    Passing .printing (perform warehouse beginning command context expected existing options) := by
  cases hcreates : command.options.importType.createsDestination with
  | true => exact passing_perform _ _ _ _ _ _ hcreates
  | false =>
    unfold perform
    cases himport : command.options.importType with
    | incremental =>
      exact (passing_ofExcept (unprintable_refuseIncremental _ _ _ _)).bind fun _ => passing_pure _
    | full => exact passing_importRows _ _ _ _ _ hprints
    | _ =>
      rw [himport] at hcreates
      cases hcreates

/-- The bindings of a source have a text where the numbers in the filters of the command fit. -/
theorem prints_of_ofDefinition {full : TableDefinition}
    (hfits : ∀ filter ∈ command.source.filters, filter.Fits)
    (h : SourceContext.ofDefinition command.source.request full = .ok context) :
    Concern.printing.Prints (.ofBindings context.source.bindings) := by
  obtain ⟨-, -, -, hsource⟩ := SourceContext.parts_of_ofDefinition h
  split at hsource
  · obtain ⟨sql, bindings, hselect, hquery⟩ := SourceContext.select_of_generate hsource
    rw [hquery]
    exact Concern.prints_printing ((FilterQuery.isSome_print_of_select hselect).mpr hfits)
  · rw [hsource]
    intro hnever
    cases hnever

/-- An import from a table passes if the numbers in its filters fit. -/
theorem passing_run (warehouse : Warehouse) (beginning : String) (features : List String)
    (hfits : ∀ filter ∈ command.source.filters, filter.Fits) :
    Passing .printing (run warehouse beginning command features) := by
  have hresolve : Passing .printing (Action.step "resolveSource" false
      (SourceContext.resolve command.source.request)) :=
    Passing.step ((Warehouse.passing_lookUp _).bind fun found =>
      passing_ofExcept (SourceContext.unprintable_ofReflected _ found)) _ _
  refine (passing_log _ _ _).bind fun _ => ?_
  refine hresolve.bind_of (returns_resolveSource command) fun context hcontext => ?_
  obtain ⟨_, full, -, hdefinition⟩ := hcontext
  refine (passing_ofExcept (ColumnMapping.unprintable_expected _ _)).bind fun expected => ?_
  refine (Warehouse.passing_lookUp _).bind fun found => ?_
  refine (Destination.passing_applyCreateMode _ _ _ _).bind fun existing => ?_
  exact (passing_performs _ _ _ _ _ (prints_of_ofDefinition hfits hdefinition)).bind
    (passing_respond command)

end FromTable

/-! ## Full imports that end well -/

namespace Action

variable {α β : Type} {action : Action α} {fact : Prop}

/-- What holds where an action ends well holds where a sequence does that begins with it. -/
theorem Returns.bind {f : α → Action β} (h : Returns action fun _ => fact) :
    Returns (action >>= f) fun _ => fact := by
  intro session exchanges value after hruns
  obtain ⟨_, _, _, _, -, haction, -⟩ := runs_bind_ok hruns
  exact h haction

/-- It holds where an action around it does. -/
theorem Returns.around {outer : Action α} (h : Returns action fun _ => fact)
    (haround : Around outer action) : Returns outer fun _ => fact := by
  intro session exchanges value after hruns
  obtain ⟨_, _, -, -, haction⟩ := haround.runs_ok hruns
  exact h haction

/-- A cleanup does not change it. -/
theorem Returns.afterwards {last : Action Unit} (h : Returns action fun _ => fact) :
    Returns (afterwards action last) fun _ => fact := by
  intro session exchanges value after hruns
  obtain ⟨_, result, _, _, cleaned, -, haction, -, hended⟩ := runs_afterwards.mp hruns
  obtain ⟨_, -, hresult⟩ := bind_eq_ok.mp hended.symm
  obtain rfl := hresult
  exact h haction

/-- Neither does another name for a failure. -/
theorem Returns.rethrow {rename : Failure → Failure} (h : Returns action fun _ => fact) :
    Returns (tryCatch action fun failure => throw (rename failure)) fun _ => fact := by
  intro session exchanges value after hruns
  rcases runs_tryCatch.mp hruns with ⟨_, -, haction⟩ | ⟨_, _, _, _, -, -, hthrow⟩
  · exact h haction
  · cases (runs_throw.mp hthrow).2.1

end Action

/-- A statement that was run had its parameters written to the log. -/
theorem Warehouse.returns_execute (warehouse : Warehouse) (statement : Statement)
    (parameters : Parameters) : Returns (warehouse.execute statement parameters) fun _ =>
      parameters.document.isGiven = true → parameters.document.print?.isSome = true := by
  refine Returns.bind (returns_bind fun _ => ?_)
  split
  · split
    · next text htext =>
      intro _ _ _ _ _ _
      rw [htext]
      rfl
    · exact returns_throw
  · next hnone => exact returns_pure fun hgiven => absurd hgiven hnone

/-- Rows that were inserted from a source had its bindings written to the log. -/
theorem Filling.returns_insert (warehouse : Warehouse) (source : Source) (target : TableLabel)
    (columns : List String) (options : TransferOptions) :
    Returns (insert warehouse source target columns options) fun _ =>
      (Parameters.ofBindings source.bindings).document.print?.isSome = true := by
  refine returns_ofExcept_bind fun select hselect => returns_bind fun statement => ?_
  rw [← Source.bindings_of_mappedTo hselect]
  refine Returns.bind (Returns.around ?_ (around_timed _ _))
  intro session exchanges value after hruns
  by_cases hgiven : (Parameters.ofBindings select.bindings).document.isGiven = true
  · exact warehouse.returns_execute statement _ hruns hgiven
  · have hnone : select.bindings = [] := by simpa [Parameters.ofBindings, Json.isGiven] using hgiven
    rw [Parameters.isSome_print_ofBindings, hnone]
    simp

namespace FromTable

variable {command : TableCommand} {context : SourceContext}

/-- A full import that ended well from a generated query had its bindings written to the log. -/
theorem returns_importRows (warehouse : Warehouse) (beginning : String)
    (expected : ColumnCollection) (existing : Option TableDefinition) (options : TransferOptions)
    (hquery : context.source.isDirect = false) :
    Returns (importRows warehouse beginning command context expected existing options) fun _ =>
      (Parameters.ofBindings context.source.bindings).document.print?.isSome = true := by
  have hstage (staging destination : TableDefinition) :
      Returns (stageAndWrite warehouse context staging destination options) fun _ =>
        (Parameters.ofBindings context.source.bindings).document.print?.isSome = true := by
    have hcopy : canCopy context staging = false := by rw [canCopy, hquery, Bool.false_and]
    unfold stageAndWrite
    rw [hcopy]
    exact returns_bind fun _ => (Filling.returns_insert _ _ _ _ _).bind
  have hmove (base : TableDefinition) :
      Returns (moveRows warehouse beginning command context base expected options) fun _ =>
        (Parameters.ofBindings context.source.bindings).document.print?.isSome = true := by
    refine returns_bind fun destination => Returns.rethrow ?_
    split
    · exact returns_bind fun _ => (Filling.returns_insert _ _ _ _ _).bind
    · exact returns_bind fun _ => returns_bind fun staging => returns_bind fun _ =>
        (hstage staging destination).afterwards
  unfold importRows
  split
  · exact returns_bind fun _ => returns_bind fun _ => hmove _
  · exact returns_bind fun _ => hmove _

/-- A full import that ended well had filters whose numbers fit. -/
theorem returns_run (warehouse : Warehouse) (beginning : String) (features : List String)
    (hfull : command.options.importType = .full) :
    Returns (run warehouse beginning command features) fun _ =>
      ∀ filter ∈ command.source.filters, filter.Fits := by
  refine returns_bind fun _ => ?_
  intro session exchanges response after hruns
  obtain ⟨_, context, _, _, -, hresolve, hrest⟩ := runs_bind_ok hruns
  obtain ⟨_, full, -, hdefinition⟩ := returns_resolveSource command hresolve
  obtain ⟨-, -, -, hsource⟩ := SourceContext.parts_of_ofDefinition hdefinition
  split at hsource
  · obtain ⟨sql, bindings, hselect, hquery⟩ := SourceContext.select_of_generate hsource
    refine (FilterQuery.isSome_print_of_select hselect).mp ?_
    have hperform (expected : ColumnCollection) (existing : Option TableDefinition)
        (options : TransferOptions) :
        Returns (perform warehouse beginning command context expected existing options) fun _ =>
          (Parameters.ofBindings context.source.bindings).document.print?.isSome = true := by
      unfold perform
      rw [hfull]
      exact returns_importRows _ _ _ _ _ (by rw [hquery]; rfl)
    rw [hquery] at hperform
    exact returns_bind (fun expected => returns_bind fun found => returns_bind fun existing =>
      (hperform expected existing _).bind) hrest
  · next hdirect =>
    intro filter hfilter
    have hsome : command.source.request.filters ≠ [] :=
      List.ne_nil_of_mem (List.mem_map_of_mem hfilter)
    exact absurd (SourceContext.needsQuery_of_filters _ hsome) hdirect

end FromTable

/-- The request of a connection fails for the account and for parameters that are not permitted. -/
theorem Client.unprintable_request (principal key region project location parameters run : Json)
    (tags : List (String × Json)) :
    Passes .unprintable (request principal key region project location parameters run tags) := by
  refine Passes.bind ?_ fun _ _ => Passes.bind ?_ fun _ _ => passes_ok _
  · unfold account
    split
    · exact passes_of_among rfl
    · exact passes_ok _
    · exact passes_of_among rfl
  · have hadd (settings : QuerySettings) (name : String) (value : Json) :
        Passes .unprintable (addParameter settings name value) := by
      unfold addParameter
      split
      · exact passes_ok _
      · exact passes_ok _
      · exact passes_of_among rfl
    have hmembers (members : List (String × Json)) (settings : QuerySettings) :
        Passes .unprintable (members.foldlM
          (fun settings member => addParameter settings member.1 member.2) settings) := by
      induction members generalizing settings with
      | nil => exact passes_ok _
      | cons member rest ih =>
        rw [List.foldlM_cons]
        exact (hadd _ _ _).bind fun _ _ => ih _
    unfold settings
    dsimp only
    split
    · exact passes_ok _
    split
    · exact passes_ok _
    split
    · exact (hmembers _ _).map _
    · exact passes_of_among rfl

namespace Handler

/-- A run for the import of a table passes if the numbers in the filters of the command fit. -/
theorem passing_run (handler : Handler) (config : Config) (credentials : Credentials)
    (command : TableCommand) (features : List String) (options : RuntimeOptions)
    (hfits : ∀ filter ∈ command.source.filters, filter.Fits) :
    Passing .printing
      (handler.run config credentials (.table command) features options) := by
  have hconnect : Passing .printing (Warehouse.connect credentials config options) :=
    (passing_ofExcept (Client.unprintable_request _ _ _ _ _ _ _ _)).bind fun _ =>
      (passing_ask _).bind fun _ => passing_pure _
  have hperform (warehouse : Warehouse) : Passing .printing
      (handler.perform warehouse config credentials (.table command) features) := by
    cases handler with
    | tables => exact FromTable.passing_run _ _ _ hfits
    | files => exact passing_throw_of_among rfl
    | openKind => exact passing_throw_of_among rfl
  have hreport : Passing .printing
      (handler.report config credentials (.table command) features options) :=
    hconnect.bind fun warehouse => (hperform warehouse).bind fun _ =>
      (passing_logSteps _ _).bind fun _ => passing_logMessages.bind fun _ => passing_pure _
  have hopen : Passing .printing (handler.openLog config) := by
    unfold openLog
    split
    · exact passing_update fun session => session.passes_openLog _ _
    · exact passing_pure _
  exact hopen.bind fun _ => hreport.afterwards (passing_modify _)

end Handler

end WarehouseImport
