import WarehouseImport.Proofs.Run.Handler
import WarehouseImport.Proofs.Run.Verdict

/-!
# How an import from a table opens

An import describes its source, maps its columns and describes its destination before it does
anything else. With an open log file nothing but the answers decides how this goes: the import ends
behind the first description if the source cannot be read or mapped, and goes on with the definition
of the destination if it can.
-/

namespace WarehouseImport

open WarehouseImport.Action

/-- With an open log file a step ends with what its body ends with. -/
theorem Action.runs_step_of_open {α : Type} {body : Action α} {name : String} {recorded : Bool}
    {session after : Session} {exchanges : List Exchange} {outcome : Except Failure α}
    (hname : name.isEmpty = false) (hbody : Steady body)
    (h : Runs (Action.step name recorded body) session exchanges outcome after)
    (hopen : session.Open) :
    ∃ before behind, before.Open ∧ Runs body before exchanges outcome behind ∧ after.Open := by
  have hafter := hbody.step name recorded h hopen
  unfold Action.step at h
  rw [hname] at h
  change Runs (beginStep name >>= _) _ _ _ _ at h
  obtain ⟨began, s, hs, h₁⟩ := (sure_beginStep name).runs_bind (quiet_beginStep name) h hopen
  obtain ⟨time, t, ht, h₂⟩ := sure_now.runs_bind quiet_now h₁ hs
  refine ⟨t, ?_⟩
  rcases runs_tryCatch.mp h₂ with ⟨value, rfl, hv⟩ | ⟨first, failure, u, last, rfl, hf, hl⟩
  · obtain ⟨first, given, u, last, rfl, hgiven, hend⟩ := runs_bind_ok hv
    obtain ⟨⟨⟩, v, -, hpure⟩ :=
      (sure_endStep _ _ _).runs_bind (quiet_endStep _ _ _) hend (hbody hgiven ht)
    obtain ⟨rfl, hsame, -⟩ := runs_pure.mp hpure
    rw [hsame]
    exact ⟨u, ht, by simpa using hgiven, hafter⟩
  · -- The lines at the end are written for sure, so the failure is that of the body.
    have hbody' : Runs body t first (.error failure) u := by
      rcases runs_bind.mp hf with ⟨other, hsame, hother⟩ | ⟨first, given, v, last, rfl, hgiven, hend⟩
      · cases hsame
        exact hother
      obtain ⟨⟨⟩, w, -, hpure⟩ :=
        (sure_endStep _ _ _).runs_bind (quiet_endStep _ _ _) hend (hbody hgiven ht)
      cases (runs_pure.mp hpure).2.1
    obtain ⟨shown, v, hv, h₃⟩ := sure_now.runs_bind quiet_now hl (hbody hbody' ht)
    obtain ⟨⟨⟩, w, -, hthrow⟩ := (sure_log _ _ _).runs_bind (quiet_log _ _ _) h₃ hv
    obtain ⟨rfl, rfl, -⟩ := runs_throw.mp hthrow
    exact ⟨u, ht, by simpa using hbody', hafter⟩

namespace Warehouse

variable {α : Type} {session after : Session} {exchanges : List Exchange}

/-- A look at a table with a name is a description of it. -/
theorem runs_lookUp_of_answer {label : TableLabel}
    {outcome : Except Failure (Option TableDefinition)}
    (hnamed : label.check = .ok label.tableName)
    (h : Runs (lookUp label) session exchanges outcome after) :
    ∃ answer, exchanges = [⟨.reflect label.tableName, answer⟩] ∧
      outcome = defined label.tableName answer ∧ after = session := by
  unfold lookUp at h
  rw [hnamed] at h
  rcases runs_ofExcept_bind.mp h with ⟨failure, hfailed, -⟩ | ⟨name, hname, hdefinition⟩
  · cases hfailed
  · obtain rfl := Except.ok.inj hname
    exact runs_definition_of_answer hdefinition

/-- A sequence that begins with such a look goes on as the description says. -/
theorem runs_lookUp_bind {label : TableLabel} {f : Option TableDefinition → Action α}
    {outcome : Except Failure α} (hnamed : label.check = .ok label.tableName)
    (h : Runs (lookUp label >>= f) session exchanges outcome after) :
    ∃ answer rest, exchanges = ⟨.reflect label.tableName, answer⟩ :: rest ∧
      Runs (Action.ofExcept (defined label.tableName answer) >>= f) session rest outcome
        after := by
  rcases runs_bind.mp h with ⟨failure, rfl, hf⟩ | ⟨first, found, middle, rest, rfl, hv, hl⟩
  · obtain ⟨answer, rfl, hfailure, rfl⟩ := runs_lookUp_of_answer hnamed hf
    exact ⟨answer, [], rfl,
      runs_ofExcept_bind.mpr (.inl ⟨failure, hfailure.symm, rfl, rfl, rfl⟩)⟩
  · obtain ⟨answer, rfl, hfound, rfl⟩ := runs_lookUp_of_answer hnamed hv
    exact ⟨answer, rest, rfl, runs_ofExcept_bind.mpr (.inr ⟨found, hfound.symm, hl⟩)⟩

end Warehouse

/-- A source is found or not as the description of its table says, unless its name is empty. -/
theorem SourceContext.runs_resolve_of_answer {request : SourceRequest} {session after : Session}
    {exchanges : List Exchange} {outcome : Except Failure SourceContext}
    (h : Runs (resolve request) session exchanges outcome after) :
    (exchanges = [] ∧ outcome.isOk = false) ∨
      ∃ answer, exchanges = [⟨.reflect request.label.tableName, answer⟩] ∧
        outcome = Warehouse.defined request.label.tableName answer >>= ofReflected request := by
  cases hcheck : request.label.check with
  | error failure =>
    have hlooks : Runs (throw failure >>= fun name => Warehouse.definition name >>= fun found =>
        Action.ofExcept (ofReflected request found)) session exchanges outcome after := by
      unfold resolve Warehouse.lookUp at h
      rw [hcheck] at h
      exact h
    obtain ⟨rfl, rfl, -⟩ := runs_throw_bind hlooks
    exact .inl ⟨rfl, rfl⟩
  | ok name =>
    obtain rfl := TableLabel.eq_of_check hcheck
    right
    obtain ⟨answer, rest, rfl, h'⟩ := Warehouse.runs_lookUp_bind hcheck h
    refine ⟨answer, ?_⟩
    rcases runs_ofExcept_bind.mp h' with ⟨failure, hfailed, rfl, rfl, -⟩ | ⟨found, hfound, hread⟩
    · exact ⟨rfl, by rw [hfailed]; rfl⟩
    · obtain ⟨rfl, rfl, -⟩ := runs_ofExcept.mp hread
      exact ⟨rfl, by rw [hfound]; rfl⟩

namespace FromTable

variable {warehouse : Warehouse} {beginning : String} {command : TableCommand}
  {features : List String} {session after : Session} {exchanges : List Exchange}
  {outcome : Except Failure ImportResponse}

/-- The exchange describes a source that can be read, and whose columns can be mapped. -/
def Offers (command : TableCommand) (exchange : Exchange) (context : SourceContext)
    (expected : ColumnCollection) : Prop :=
  ∃ full, exchange.Describes command.source.label.tableName (some full) ∧
    SourceContext.ofDefinition command.source.request full = .ok context ∧
    ColumnMapping.expected context.effective command.source.mappings = .ok expected

/-- What a description offers is what its answer says about the source. -/
theorem offers_iff {answer : Except Fault ReflectedTable} {context : SourceContext}
    {expected : ColumnCollection} :
    Offers command ⟨.reflect command.source.label.tableName, answer⟩ context expected ↔
      Warehouse.defined command.source.label.tableName answer >>=
          SourceContext.ofReflected command.source.request = .ok context ∧
        ColumnMapping.expected context.effective command.source.mappings = .ok expected := by
  constructor
  · rintro ⟨full, hdescribes, hdefinition, hexpected⟩
    exact ⟨bind_eq_ok.mpr ⟨some full, Warehouse.defined_eq_ok.mpr hdescribes, hdefinition⟩,
      hexpected⟩
  · rintro ⟨hcontext, hexpected⟩
    obtain ⟨found, hfound, hcontext⟩ := bind_eq_ok.mp hcontext
    cases found with
    | none => cases hcontext
    | some full => exact ⟨full, Warehouse.defined_eq_ok.mp hfound, hcontext, hexpected⟩

/-- With an open log file the source is read and mapped first, and what comes next goes on with it.
An import that does not get so far has described the source at most, which then cannot be read or
mapped. -/
theorem runs_source {next : SourceContext → ColumnCollection → Action ImportResponse}
    (h : Runs (do
      let context ← Action.step "resolveSource" false
        (SourceContext.resolve command.source.request)
      let expected ← Action.ofExcept
        (ColumnMapping.expected context.effective command.source.mappings)
      next context expected) session exchanges outcome after)
    (hopen : session.Open) :
    (outcome.isOk = false ∧ (exchanges = [] ∨ ∃ exchange, exchanges = [exchange] ∧
      exchange.call = .reflect command.source.label.tableName ∧
      ∀ context expected, ¬ Offers command exchange context expected)) ∨
    ∃ source rest context expected opened, exchanges = source :: rest ∧
      Offers command source context expected ∧ opened.Open ∧
      Runs (next context expected) opened rest outcome after := by
  have hsteady := SourceContext.steady_resolve command.source.request
  rcases runs_bind.mp h with ⟨failure, rfl, hf⟩ | ⟨first, context, opened, rest, rfl, hv, hl⟩
  · -- The source cannot be read.
    obtain ⟨_, _, -, hresolve, -⟩ := runs_step_of_open (by decide) hsteady hf hopen
    refine .inl ⟨rfl, ?_⟩
    rcases SourceContext.runs_resolve_of_answer hresolve with ⟨rfl, -⟩ | ⟨answer, rfl, hfailure⟩
    · exact .inl rfl
    · refine .inr ⟨_, rfl, rfl, fun context expected hoffers => ?_⟩
      cases hfailure.trans (offers_iff.mp hoffers).1
  obtain ⟨_, _, -, hresolve, hopened⟩ := runs_step_of_open (by decide) hsteady hv hopen
  rcases SourceContext.runs_resolve_of_answer hresolve with ⟨-, hnever⟩ | ⟨answer, rfl, hcontext⟩
  · cases hnever
  rcases runs_ofExcept_bind.mp hl with
    ⟨failure, hfailed, rfl, rfl, -⟩ | ⟨expected, hexpected, hrest⟩
  · -- The source can be read, and its columns cannot be mapped.
    refine .inl ⟨rfl, .inr ⟨_, rfl, rfl, fun other expected hoffers => ?_⟩⟩
    obtain ⟨hother, hexpected⟩ := offers_iff.mp hoffers
    obtain rfl := Except.ok.inj (hcontext.trans hother)
    cases hfailed.symm.trans hexpected
  · exact .inr ⟨_, rest, context, expected, opened, rfl,
      offers_iff.mpr ⟨hcontext.symm, hexpected⟩, hopened, hrest⟩

/-- What is left of an import once its source is read and mapped. -/
def proceed (warehouse : Warehouse) (beginning : String) (command : TableCommand)
    (options : TransferOptions) (context : SourceContext) (expected : ColumnCollection)
    (found : Option TableDefinition) : Action ImportResponse := do
  let existing ←
    Destination.applyCreateMode warehouse command.destination.label command.options found
  let result ← perform warehouse beginning command context expected existing options
  ImportResponse.build (← Action.ofExcept command.destination.label.check) result

/-- An import into a destination with a name fails before it has described the destination, or goes
on as the two descriptions say. In the first case it has described the source at most, which then
cannot be read or mapped. -/
theorem runs_run_of_named
    (hnamed : command.destination.label.check = .ok command.destination.label.tableName)
    (h : Runs (run warehouse beginning command features) session exchanges outcome after) :
    (outcome.isOk = false ∧ (exchanges = [] ∨ ∃ exchange, exchanges = [exchange] ∧
      exchange.call = .reflect command.source.label.tableName ∧
      ∀ context expected, ¬ Offers command exchange context expected)) ∨
    ∃ source answer rest context expected opened,
      exchanges = source :: ⟨.reflect command.destination.label.tableName, answer⟩ :: rest ∧
      Offers command source context expected ∧ opened.Open ∧
      Runs (do
        let found ← Action.ofExcept
          (Warehouse.defined command.destination.label.tableName answer)
        proceed warehouse beginning command
          (TransferOptions.ofImport command.options features) context expected found)
        opened rest outcome after := by
  rcases (quiet_say _).runs_bind h with ⟨rfl, -, failure, rfl⟩ | ⟨⟨⟩, opened, hsay, -, h₁⟩
  · exact .inl ⟨rfl, .inl rfl⟩
  rcases runs_source h₁ (open_of_runs_say hsay) with
    hfailed | ⟨source, rest, context, expected, read, rfl, hoffers, hread, h₂⟩
  · exact .inl hfailed
  · obtain ⟨answer, rest, rfl, h₃⟩ := Warehouse.runs_lookUp_bind hnamed h₂
    exact .inr ⟨source, answer, rest, context, expected, read, rfl, hoffers, hread, h₃⟩

end FromTable

end WarehouseImport
