import WarehouseImport.Proofs.Run.Trace

/-!
# Traces of warehouse operations

What each operation of the warehouse sends. A statement is one query, or nothing where statements
only go to the log, and the operation ends well only behind a query that was done. A load is alike,
though the state of its job is not looked at. A description is one call, whose answer settles the
definition of the table.
-/

namespace WarehouseImport

namespace TableName

/-- A name that can be made has the parts it is made of. -/
theorem eq_of_make {dataset table : String} {name : TableName}
    (h : make dataset table = .ok name) : name = ⟨dataset, table⟩ := by
  unfold make at h
  split at h
  · cases h
  · exact (Except.ok.inj h).symm

end TableName

namespace TableLabel

/-- The name with the parts of a label, which may be empty. -/
def tableName (label : TableLabel) : TableName := ⟨label.schema, label.table⟩

/-- Labels with one name are the same. -/
theorem eq_of_tableName {label other : TableLabel} (h : label.tableName = other.tableName) :
    label = other := by
  cases label
  cases other
  cases h
  rfl

/-- The name of a label whose parts are given. -/
theorem eq_of_check {label : TableLabel} {name : TableName} (h : label.check = .ok name) :
    name = label.tableName :=
  TableName.eq_of_make h

end TableLabel

namespace ReflectedTable

/-- The definition that a description of a table stands for. -/
def definition (described : ReflectedTable) (table : TableName) :
    Except Failure TableDefinition := do
  let columns ← described.fields.mapM SchemaField.column
  TableDefinition.make table columns described.primaryKeys false described.rows described.bytes

end ReflectedTable

namespace Exchange

/-- The exchange reflects a table and finds the definition, or that there is no such table. -/
def Describes (exchange : Exchange) (table : TableName) (found : Option TableDefinition) : Prop :=
  ∃ answer, exchange = ⟨.reflect table, answer⟩ ∧
    match found with
    | some definition => ∃ described,
        answer = .ok described ∧ described.definition table = .ok definition
    | none => ∃ error, answer = .error (.refused error) ∧ error.kind = .notFound

end Exchange

namespace Warehouse

open WarehouseImport.Action

variable {warehouse : Warehouse} {session after : Session} {exchanges : List Exchange}

/-- One query with a statement, unless statements only go to the log. -/
def sends (warehouse : Warehouse) (statement : Statement) : Trace :=
  (Trace.once fun exchange => exchange.statement? = some statement).skippedIf warehouse.dryRun

/-- One load into a table, likewise. -/
def loads (warehouse : Warehouse) (table : TableName) : Trace :=
  (Trace.once fun exchange => ∃ request timeout answer,
    exchange = ⟨.load request timeout, answer⟩ ∧ request.table = table).skippedIf warehouse.dryRun

/-- One description of a table, which may be missing. -/
def describes (table : TableName) : Trace :=
  (Trace.once fun exchange => exchange.call = .reflect table).attempt

/-- A line of the warehouse is quiet. -/
theorem quiet_log (line : String) (detail : Detail) : Quiet (Warehouse.log line detail) :=
  Action.quiet_log _ _ _

/-- A statement is written to the log quietly. -/
theorem quiet_logStatement (statement : Statement) (parameters : Parameters) (detail : Detail) :
    Quiet (logStatement statement parameters detail) := by
  refine (quiet_log _ _).bind fun _ => ?_
  split
  · split
    · exact quiet_log _ _
    · exact quiet_throw _
  · exact quiet_pure _

/-- A job that is followed to its end ends as its outcome says. -/
theorem runs_finish {job : Job} {outcome : Except Failure JobResult}
    (h : Runs (finish job) session exchanges outcome after) :
    exchanges = [] ∧ after.drawn = session.drawn ∧
      ∀ result, outcome = .ok result → job.outcome = .ok result := by
  rcases (quiet_log _ _).runs_bind h with ⟨rfl, hdrawn, failure, rfl⟩ | ⟨_, m, -, hm, h'⟩
  · exact ⟨rfl, hdrawn, by simp⟩
  rcases (quiet_pass _).runs_bind h' with ⟨rfl, hdrawn, failure, rfl⟩ | ⟨_, n, -, hn, h''⟩
  · exact ⟨rfl, hdrawn.trans hm, by simp⟩
  obtain ⟨rfl, rfl, rfl⟩ := runs_settle.mp h''
  exact ⟨rfl, hn.trans hm, fun result hresult => mapError_eq_ok.mp hresult⟩

/-- A statement that is sent is one query, and ends well only if the job was done. -/
theorem follows_runStatement (statement : Statement) (parameters : Parameters) :
    Follows (warehouse.runStatement statement parameters)
      (.once fun exchange => exchange.statement? = some statement) := by
  refine (quiet_ofExcept _).bind_follows fun bindings => ?_
  intro session exchanges outcome after h
  obtain ⟨answer, rest, rfl, h'⟩ := runs_ask_bind.mp h
  rcases (quiet_settle _).runs_bind h' with ⟨rfl, hdrawn, failure, rfl⟩ | ⟨job, n, hjob, hn, h''⟩
  · exact ⟨.inr ⟨_, rfl, rfl, by simp⟩, hdrawn⟩
  obtain ⟨-, hanswer, -⟩ := runs_settle.mp hjob
  rcases runs_bind.mp h'' with ⟨failure, rfl, hf⟩ | ⟨first, result, k, last, rfl, hr, hend⟩
  · obtain ⟨rfl, hdrawn, -⟩ := runs_finish hf
    exact ⟨.inr ⟨_, rfl, rfl, by simp⟩, hdrawn.trans hn⟩
  obtain ⟨rfl, hdrawn, hresult⟩ := runs_finish hr
  split at hend
  · next hstate =>
    obtain ⟨rfl, rfl, rfl⟩ := runs_pure.mp hend
    exact ⟨.inr ⟨_, rfl, rfl, fun _ =>
      ⟨job, result, mapError_eq_ok.mp hanswer.symm, hresult result rfl, hstate⟩⟩, hdrawn.trans hn⟩
  · obtain ⟨rfl, rfl, rfl⟩ := runs_throw.mp hend
    exact ⟨.inr ⟨_, rfl, rfl, by simp⟩, hdrawn.trans hn⟩

/-- A statement that is written to the log and run sends itself at most. -/
theorem follows_execute (warehouse : Warehouse) (statement : Statement) (parameters : Parameters) :
    Follows (warehouse.execute statement parameters) (warehouse.sends statement) := by
  refine (quiet_logStatement _ _ _).bind_follows fun _ => ?_
  split
  · next hdry =>
    exact (quiet_pure _).follows.mono fun h => .inr ⟨hdry, h⟩
  · refine Follows.bind_quiet ?_ fun _ => quiet_pure _
    exact (follows_runStatement statement parameters).mono .inl

/-- A statement without parameters likewise. -/
theorem follows_run (warehouse : Warehouse) (statement : Statement) :
    Follows (warehouse.run statement) (warehouse.sends statement) :=
  follows_execute warehouse statement Parameters.none

/-- The creation of a table sends the statement that creates it. -/
theorem follows_createTable (warehouse : Warehouse) (definition : TableDefinition) :
    Follows (warehouse.createTable definition)
      (warehouse.sends (.createTable definition.name definition.columns.columns
        definition.primaryKeys)) := by
  refine follows_ofExcept_bind fun statement hstatement => ?_
  unfold Statement.create at hstatement
  split at hstatement
  · cases hstatement
  · cases hstatement
    exact follows_run _ _

/-- A drop sends the statement that drops, whatever comes of it. -/
theorem follows_drop (warehouse : Warehouse) (kind : ObjectKind) (target : TableName)
    (mayMiss : Bool) :
    Follows (warehouse.drop kind target mayMiss)
      (warehouse.sends (.drop kind target false)).attempt := by
  refine (follows_run _ _).tryCatch fun failure => ?_
  cases failure with
  | backend e =>
    change Quiet (if _ then _ else _)
    split
    · exact (quiet_log _ _).bind fun _ => quiet_pure _
    · exact quiet_throw _
  | _ => exact quiet_throw _

/-- What the answer to a description says: a description, or that there is no such table. -/
def reflected (answer : Except Fault ReflectedTable) : Except Failure (Option ReflectedTable) :=
  match answer with
  | .ok described => .ok (some described)
  | .error (.refused error) => if error.kind = .notFound then .ok none else .error (.backend error)
  | .error fault => .error fault.failure

/-- What the answer to a description says about the definition of a table. -/
def defined (table : TableName) (answer : Except Fault ReflectedTable) :
    Except Failure (Option TableDefinition) := do
  match ← reflected answer with
  | none => return none
  | some described => some <$> described.definition table

/-- A table is described, or missing, where the answer says so. -/
theorem reflected_eq_ok {answer : Except Fault ReflectedTable} {found : Option ReflectedTable} :
    reflected answer = .ok found ↔
      match found with
      | some described => answer = .ok described
      | none => ∃ error, answer = .error (.refused error) ∧ error.kind = .notFound := by
  constructor
  · intro h
    cases answer with
    | ok described =>
      obtain rfl := Except.ok.inj h
      rfl
    | error fault =>
      cases fault with
      | refused error =>
        change (if error.kind = .notFound then _ else _) = _ at h
        split at h
        · next hkind =>
          obtain rfl := Except.ok.inj h
          exact ⟨error, rfl, hkind⟩
        · cases h
      | _ => cases h
  · intro h
    cases found with
    | some described =>
      obtain rfl : answer = .ok described := h
      rfl
    | none =>
      obtain ⟨error, rfl, hkind⟩ := h
      rw [reflected, if_pos hkind]

/-- A description ends with what the answer says. -/
theorem runs_reflect_of_answer {table : TableName}
    {outcome : Except Failure (Option ReflectedTable)}
    (h : Runs (reflect table) session exchanges outcome after) :
    ∃ answer, exchanges = [⟨.reflect table, answer⟩] ∧ outcome = reflected answer ∧
      after = session := by
  obtain ⟨answer, rest, rfl, h'⟩ := runs_ask_bind.mp h
  have hsettled : Runs (Action.ofExcept (reflected answer)) session rest outcome after := by
    cases answer with
    | ok described => exact h'
    | error fault =>
      cases fault with
      | refused error =>
        change Runs (if error.kind = .notFound then _ else _) _ _ _ _ at h'
        change Runs (Action.ofExcept (if error.kind = .notFound then _ else _)) _ _ _ _
        split at h'
        · next hkind => rw [if_pos hkind]; exact h'
        · next hkind => rw [if_neg hkind]; exact h'
      | badData text => exact h'
      | ended text => exact h'
      | outside kind text => exact h'
  obtain ⟨rfl, rfl, rfl⟩ := runs_ofExcept.mp hsettled
  exact ⟨answer, rfl, rfl, rfl⟩

/-- A description is one call, and a missing table is no failure. -/
theorem runs_reflect {table : TableName} {outcome : Except Failure (Option ReflectedTable)}
    (h : Runs (reflect table) session exchanges outcome after) :
    ∃ answer, exchanges = [⟨.reflect table, answer⟩] ∧ after.drawn = session.drawn ∧
      ∀ found, outcome = .ok found →
        match found with
        | some described => answer = .ok described
        | none => ∃ error, answer = .error (.refused error) ∧ error.kind = .notFound := by
  obtain ⟨answer, rfl, rfl, rfl⟩ := runs_reflect_of_answer h
  exact ⟨answer, rfl, rfl, fun found hfound => reflected_eq_ok.mp hfound⟩

/-- A description follows the trace of one. -/
theorem follows_reflect (table : TableName) : Follows (reflect table) (describes table) := by
  intro session exchanges outcome after h
  obtain ⟨answer, rfl, hdrawn, -⟩ := runs_reflect h
  exact ⟨⟨false, .inr ⟨_, rfl, rfl, by simp⟩⟩, hdrawn⟩

/-- A definition is what the answer says about it. -/
theorem runs_definition_of_answer {table : TableName}
    {outcome : Except Failure (Option TableDefinition)}
    (h : Runs (Warehouse.definition table) session exchanges outcome after) :
    ∃ answer, exchanges = [⟨.reflect table, answer⟩] ∧ outcome = defined table answer ∧
      after = session := by
  rcases runs_bind.mp h with ⟨failure, rfl, hf⟩ | ⟨first, found, m, last, rfl, hr, h'⟩
  · obtain ⟨answer, rfl, hanswer, rfl⟩ := runs_reflect_of_answer hf
    exact ⟨answer, rfl, by rw [defined, ← hanswer]; rfl, rfl⟩
  obtain ⟨answer, rfl, hanswer, rfl⟩ := runs_reflect_of_answer hr
  refine ⟨answer, ?_⟩
  rw [defined, ← hanswer]
  cases found with
  | none =>
    obtain ⟨rfl, rfl, rfl⟩ := runs_pure.mp h'
    exact ⟨rfl, rfl, rfl⟩
  | some described =>
    change _ ∧ outcome = (some <$> described.definition table) ∧ _
    unfold ReflectedTable.definition
    rcases runs_ofExcept_bind.mp h' with
      ⟨failure, hcolumns, rfl, rfl, rfl⟩ | ⟨columns, hcolumns, h''⟩
    · exact ⟨rfl, by rw [hcolumns]; rfl, rfl⟩
    obtain ⟨result, rfl, hmake⟩ := runs_map.mp h''
    obtain ⟨rfl, rfl, rfl⟩ := runs_ofExcept.mp hmake
    exact ⟨rfl, by rw [hcolumns]; rfl, rfl⟩

/-- A definition is found where the answer says so. -/
theorem defined_eq_ok {table : TableName} {answer : Except Fault ReflectedTable}
    {found : Option TableDefinition} :
    defined table answer = .ok found ↔ Exchange.Describes ⟨.reflect table, answer⟩ table found := by
  rw [defined, bind_eq_ok]
  constructor
  · intro h
    obtain ⟨described?, hreflected, h⟩ := h
    have hanswer := reflected_eq_ok.mp hreflected
    refine ⟨answer, rfl, ?_⟩
    cases described? with
    | none =>
      obtain rfl := Except.ok.inj h
      exact hanswer
    | some described =>
      obtain ⟨definition, hdefinition, rfl⟩ := map_eq_ok.mp h
      exact ⟨described, hanswer, hdefinition⟩
  · intro h
    obtain ⟨given, hgiven, h⟩ := h
    cases hgiven
    cases found with
    | none => exact ⟨none, reflected_eq_ok.mpr h, rfl⟩
    | some definition =>
      obtain ⟨described, hanswer, hdefinition⟩ := h
      exact ⟨some described, reflected_eq_ok.mpr hanswer, map_eq_ok.mpr ⟨_, hdefinition, rfl⟩⟩

/-- A definition comes from one description. -/
theorem runs_definition {table : TableName} {outcome : Except Failure (Option TableDefinition)}
    (h : Runs (Warehouse.definition table) session exchanges outcome after) :
    ∃ exchange, exchanges = [exchange] ∧ exchange.call = .reflect table ∧
      after.drawn = session.drawn ∧
      ∀ found, outcome = .ok found → exchange.Describes table found := by
  obtain ⟨answer, rfl, rfl, rfl⟩ := runs_definition_of_answer h
  exact ⟨_, rfl, rfl, rfl, fun found hfound => defined_eq_ok.mp hfound⟩

/-- A definition follows the trace of one description. -/
theorem follows_definition (table : TableName) :
    Follows (Warehouse.definition table) (describes table) := by
  intro session exchanges outcome after h
  obtain ⟨exchange, rfl, hcall, hdrawn, -⟩ := runs_definition h
  exact ⟨⟨false, .inr ⟨exchange, rfl, hcall, by simp⟩⟩, hdrawn⟩

/-- The first row of a query takes the query. -/
theorem follows_firstRow (warehouse : Warehouse) (statement : Statement)
    (parameters : Parameters) (timed : Bool) :
    Follows (warehouse.firstRow statement parameters timed)
      (.once fun exchange => exchange.statement? = some statement) := by
  refine (quiet_logStatement _ _ _).bind_follows fun _ => ?_
  refine (follows_runStatement statement parameters).bind_quiet fun result => ?_
  split
  · exact (quiet_log _ _).bind fun _ => quiet_pure _
  · exact quiet_pure _

/-- The rows of a table are described or counted. -/
def counts (table : TableName) : Trace :=
  (describes table).andThen
    (.either .silent (.once fun exchange => exchange.statement? = some (.countRows table "")))

/-- The number of rows takes a description and at most one query. -/
theorem follows_rowCount (warehouse : Warehouse) (table : TableName) :
    Follows (warehouse.rowCount table) (counts table) := by
  refine (follows_reflect table).bind fun found => ?_
  cases found with
  | none => exact follows_throw _
  | some described =>
    dsimp only
    split
    · exact ((quiet_log _ _).bind fun _ => quiet_pure _).follows.mono .inl
    · refine Follows.bind_quiet ?_ fun row => ?_
      · exact (follows_firstRow warehouse _ _ true).mono .inr
      · split <;> exact quiet_pure _

/-- The numbers of rows and bytes take a description. -/
theorem follows_stats (table : TableName) : Follows (stats table) (describes table) := by
  refine (follows_reflect table).bind_quiet fun found => ?_
  cases found with
  | none => exact quiet_pure _
  | some described => exact quiet_pure _

/-- The drop of an object whose kind is not known is behind a description of it. -/
def dropsDescribed (warehouse : Warehouse) (target : TableName) : Trace :=
  (describes target).andThen
    (.either .silent (.either (warehouse.sends (.drop .view target false)).attempt
      (warehouse.sends (.drop .table target false)).attempt))

/-- Dropping an object takes a description and the drop. -/
theorem follows_dropObject (warehouse : Warehouse) (target : TableName) :
    Follows (warehouse.dropObject target) (warehouse.dropsDescribed target) := by
  refine (follows_reflect target).bind fun found => ?_
  cases found with
  | none => exact (quiet_pure _).follows.mono .inl
  | some described =>
    change Follows (warehouse.drop (if described.isView then .view else .table) target true) _
    split
    · exact (follows_drop warehouse _ _ _).mono fun h => .inr (.inl h)
    · exact (follows_drop warehouse _ _ _).mono fun h => .inr (.inr h)

/-- A load is one call, and ends well only if the job did. -/
theorem follows_load (warehouse : Warehouse) (request : LoadRequest) :
    Follows (warehouse.load request) (warehouse.loads request.table) := by
  unfold load
  by_cases hempty : request.uris.isEmpty
  · rw [if_pos hempty]
    exact follows_throw_bind _ _
  rw [if_neg hempty]
  refine (quiet_log _ _).bind_follows fun _ => ?_
  split
  · next hdry => exact (quiet_pure _).follows.mono fun h => .inr ⟨hdry, h⟩
  intro session exchanges outcome after h
  obtain ⟨answer, rest, rfl, h'⟩ := runs_ask_bind.mp h
  rcases (quiet_settle _).runs_bind h' with ⟨rfl, hdrawn, failure, rfl⟩ | ⟨job, n, hjob, hn, h''⟩
  · exact ⟨.inl (.inr ⟨_, rfl, ⟨_, _, _, rfl, rfl⟩, by simp⟩), hdrawn⟩
  obtain ⟨-, hanswer, -⟩ := runs_settle.mp hjob
  rcases runs_bind.mp h'' with ⟨failure, rfl, hf⟩ | ⟨first, result, k, last, rfl, hr, hend⟩
  · obtain ⟨result, -, hfinish⟩ := runs_rethrow.mp hf
    obtain ⟨rfl, hdrawn, -⟩ := runs_finish hfinish
    exact ⟨.inl (.inr ⟨_, rfl, ⟨_, _, _, rfl, rfl⟩, by simp⟩), hdrawn.trans hn⟩
  obtain ⟨given, hgiven, hfinish⟩ := runs_rethrow.mp hr
  obtain ⟨rfl, hdrawn, hresult⟩ := runs_finish hfinish
  obtain ⟨rfl, rfl, rfl⟩ := runs_pure.mp hend
  exact ⟨.inl (.inr ⟨_, rfl, ⟨_, _, _, rfl, rfl⟩, fun _ => ⟨job, result,
    mapError_eq_ok.mp hanswer.symm, hresult _ (mapError_eq_ok.mp hgiven.symm)⟩⟩), hdrawn.trans hn⟩

end Warehouse

end WarehouseImport
