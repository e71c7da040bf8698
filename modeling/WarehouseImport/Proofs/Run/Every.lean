import WarehouseImport.Proofs.Definitions
import WarehouseImport.Proofs.Run.Handler
import WarehouseImport.Proofs.Run.Sent

/-!
# Every exchange of an import

An import from a table connects, describes tables, drops what a create mode replaces, and does what
its import type asks for. What holds of the exchanges of these parts holds of every exchange of a
run.
-/

namespace WarehouseImport

open WarehouseImport.Action Trace

/-- A description of a table reflects it. -/
theorem Exchange.Describes.call_eq {exchange : Exchange} {table : TableName}
    {found : Option TableDefinition} (h : exchange.Describes table found) :
    exchange.call = .reflect table := by
  obtain ⟨answer, rfl, -⟩ := h
  rfl

/-- What a create mode sends does not count where drops do not. -/
theorem Destination.rests_replaces {counted : Statement → Bool}
    (hdrops : ∀ kind target mayMiss, counted (.drop kind target mayMiss) = false)
    (warehouse : Warehouse) (label : TableLabel) (options : ImportOptions) :
    Rests counted (replaces warehouse label options) := by
  have hdrop (kind : ObjectKind) :
      Rests counted (warehouse.sends (.drop kind label.tableName false)).attempt :=
    Every.attempt (rests_sends (hdrops kind _ _))
  unfold replaces
  split
  · exact every_silent.either
      ((rests_describes _).andThen (every_silent.either ((hdrop .view).either (hdrop .table))))
  · exact every_silent

variable {kind : Exchange → Prop}

namespace FromTable

variable {warehouse : Warehouse} {command : TableCommand} {options : TransferOptions}
  {name : String} {exchanges : List Exchange} {finished : Bool}

/-- Every exchange of an import is of a kind if descriptions, what a create mode drops, and
what the import type asks for are. A destination that is still there has the name of the
command. -/
theorem Course.every
    (hreflect : ∀ exchange : Exchange, ∀ table, exchange.call = .reflect table → kind exchange)
    (hreplaces : Every (Destination.replaces warehouse command.destination.label command.options)
      kind)
    (hperforms : ∀ context expected existing performed ended,
      (command.options.importType.createsDestination = false →
        ∀ definition, existing = some definition →
          definition.name = command.destination.label.tableName) →
      Performs warehouse command context expected existing options name performed ended →
        ∀ exchange ∈ performed, kind exchange)
    (h : Course warehouse command options name exchanges finished) :
    ∀ exchange ∈ exchanges, kind exchange := by
  have hdescribes (table : TableName) : Every (Warehouse.describes table) kind :=
    every_describes fun exchange hcall => hreflect exchange table hcall
  cases h with
  | opened hopens =>
    exact ((hdescribes _).andThen ((hdescribes _).andThen hreplaces)) hopens
  | performed hdescribed happlied hexisting hperformed hclosing hended =>
    obtain ⟨full, hfull, -⟩ := hdescribed.source
    intro exchange hmem
    rcases List.mem_cons.mp hmem with rfl | hmem
    · exact hreflect _ _ hfull.call_eq
    rcases List.mem_cons.mp hmem with rfl | hmem
    · exact hreflect _ _ hdescribed.destination.call_eq
    rcases List.mem_append.mp hmem with hmem | hmem
    · exact hreplaces happlied exchange hmem
    rcases List.mem_append.mp hmem with hmem | hmem
    · refine hperforms _ _ _ _ _ ?_ hperformed exchange hmem
      rintro hcreates definition rfl
      rw [hcreates] at hexisting
      obtain rfl := hexisting.resolve_right (by simp)
      exact hdescribed.destination.name_eq
    · exact (hdescribes _).of_closing hclosing exchange hmem

end FromTable

/-- Every exchange of a run is of a kind if the connection and those of the import are. -/
theorem Handler.every_of_runs {handler : Handler} {config : Config} {credentials : Credentials}
    {command : TableCommand} {features : List String} {options : RuntimeOptions}
    {session after : Session} {exchanges : List Exchange}
    {outcome : Except Failure ImportResponse}
    (hrun : Runs (handler.run config credentials (.table command) features options) session
      exchanges outcome after)
    (hconnects : ∀ request project, kind ⟨.connect request, project⟩)
    (hcourse : ∀ warehouse performed finished,
      FromTable.Course warehouse command (TransferOptions.ofImport command.options features)
        (session.drawName config.stagingNames).1 performed finished →
          ∀ exchange ∈ performed, kind exchange) :
    ∀ exchange ∈ exchanges, kind exchange := by
  rcases runs_run hrun with
    ⟨rfl, -⟩ | ⟨request, project, ⟨rfl, -⟩ | ⟨performed, finished, rfl, -, hcourses⟩⟩
  · simp
  · intro exchange hmem
    rw [List.mem_singleton.mp hmem]
    exact hconnects request project
  · intro exchange hmem
    rcases List.mem_cons.mp hmem with rfl | hmem
    · exact hconnects request project
    · exact hcourse _ _ _ hcourses exchange hmem

end WarehouseImport
