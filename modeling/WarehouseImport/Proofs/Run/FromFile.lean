import WarehouseImport.Proofs.Run.Staging

/-!
# Runs of imports from files

An import of files describes its destination, creates and loads the staging table, and writes the
destination from it. The staging table is dropped behind whatever came of that.
-/

namespace WarehouseImport.FromFile

open WarehouseImport.Action

variable {warehouse : Warehouse} {session after : Session} {exchanges : List Exchange}

/-- The creation and the loading of the staging table and the writing of the destination. -/
def stages (warehouse : Warehouse) (mode : WriteMode) (staging destination : TableDefinition)
    (options : TransferOptions) : Trace :=
  (warehouse.sends (.createTable staging.name staging.columns.columns
    staging.primaryKeys)).andThen
    ((Filling.opens.andThen (warehouse.loads staging.name)).andThen
      (Writing.writes warehouse mode staging destination options))

/-- The staging table is loaded before the destination is written. -/
theorem follows_loadAndWrite (warehouse : Warehouse) (command : FileCommand) (mode : WriteMode)
    (staging destination : TableDefinition) (options : TransferOptions) (token : Option Json) :
    Follows (loadAndWrite warehouse command mode staging destination options token)
      (stages warehouse mode staging destination options) := by
  refine (Warehouse.follows_createTable _ _).bind fun _ => ?_
  exact (Filling.follows_load _ _ _ _ _ _).bind fun _ => Writing.follows_finish _ _ _ _ _

/-- The loading, the writing, and the drop of the staging table behind them. -/
def stagesAndDrops (warehouse : Warehouse) (mode : WriteMode)
    (staging destination : TableDefinition) (options : TransferOptions) : Trace :=
  (stages warehouse mode staging destination options).closedBy
    (warehouse.sends (.drop .table staging.name false)).attempt

/-- The staging table that a session's next name gives an import of files. -/
def Stages (command : FileCommand) (destination : TableDefinition) (name : String)
    (staging : TableDefinition) : Prop :=
  ∃ layout, Staging.Layout.ofNames destination command.csv.columns = .ok layout ∧
    layout.define destination name = .ok staging

/-- Rows of files fill the staging table, reach the destination, and leave it dropped. -/
theorem runs_moveRows {beginning : String} {credentials : Credentials} {command : FileCommand}
    {destination : TableDefinition} {options : TransferOptions}
    {outcome : Except Failure ImportResult}
    (h : Runs (moveRows warehouse beginning credentials command destination options) session
      exchanges outcome after) :
    (exchanges = [] ∧ outcome.isOk = false) ∨
      ∃ staging, Stages command destination (session.drawName beginning).1 staging ∧
        (stagesAndDrops warehouse (mode command options) staging destination options).Allows
          exchanges outcome.isOk := by
  rcases runs_ofExcept_bind.mp h with ⟨failure, -, rfl, rfl, -⟩ | ⟨⟨⟩, -, h₁⟩
  · exact .inl ⟨rfl, rfl⟩
  rcases runs_ofExcept_bind.mp h₁ with ⟨failure, -, rfl, rfl, -⟩ | ⟨layout, hlayout, h₂⟩
  · exact .inl ⟨rfl, rfl⟩
  rcases runs_bind.mp h₂ with ⟨failure, rfl, hf⟩ | ⟨first, staging, n, last, rfl, hd, h₃⟩
  · exact .inl ⟨(Staging.Layout.runs_defineNew hf).1, rfl⟩
  obtain ⟨rfl, hdefine⟩ := Staging.Layout.runs_defineNew hd
  refine .inr ⟨staging, ⟨layout, hlayout, hdefine.symm⟩, ?_⟩
  have hfollows : Follows (do
      Action.beginImport staging.name.table
      let token ← Action.ofExcept (token command credentials)
      Action.afterwards
        (tryCatch (loadAndWrite warehouse command (mode command options) staging destination
          options token) fun failure => throw (reportedAs failure))
        (Staging.remove warehouse staging.name))
      (stagesAndDrops warehouse (mode command options) staging destination options) := by
    refine (quiet_beginImport _).bind_follows fun _ => (quiet_ofExcept _).bind_follows fun _ => ?_
    exact ((follows_loadAndWrite _ _ _ _ _ _ _).rethrow _).afterwards
      (Staging.follows_remove _ _)
  exact (hfollows h₃).1

/-- The exchanges of an import of files: it fails while it opens, or goes on behind the description
of the destination, and describes it once more if all went well. -/
inductive Course (warehouse : Warehouse) (command : FileCommand) (options : TransferOptions)
    (name : String) : List Exchange → Bool → Prop where
  | opened {exchanges : List Exchange}
      (hopens : (Warehouse.describes command.destination.label.tableName).Allows exchanges false) :
      Course warehouse command options name exchanges false
  | performed {first : Exchange} {performed closing : List Exchange}
      {found destination staging : TableDefinition} {finished ended : Bool}
      (hdescribes : first.Describes command.destination.label.tableName (some found))
      (hkeyed : keyed command found = .ok destination)
      (hstages : Stages command destination name staging)
      (hperformed : (stagesAndDrops warehouse (mode command options) staging destination
        options).Allows performed finished)
      (hclosing : if finished then
          (Warehouse.describes command.destination.label.tableName).Allows closing ended
        else closing = [])
      (hended : ended = true → finished = true) :
      Course warehouse command options name (first :: (performed ++ closing)) ended

/-- Every run of an import of files takes such a course. -/
theorem runs_run {beginning : String} {credentials : Credentials} {command : FileCommand}
    {outcome : Except Failure ImportResponse}
    (h : Runs (run warehouse beginning credentials command) session exchanges outcome after) :
    Course warehouse command (TransferOptions.ofImport command.options [])
      (session.drawName beginning).1 exchanges outcome.isOk := by
  unfold run at h
  by_cases hdirectory : command.csv.sourceType = .directory
  · rw [if_pos hdirectory] at h
    obtain ⟨rfl, rfl, rfl⟩ := runs_throw_bind h
    exact .opened (Trace.unbegun _)
  rw [if_neg hdirectory] at h
  rcases (quiet_say _).runs_bind h with ⟨rfl, -, failure, rfl⟩ | ⟨⟨⟩, s, -, hs, h₁⟩
  · exact .opened (Trace.unbegun _)
  rcases runs_ofExcept_bind.mp h₁ with ⟨failure, -, rfl, rfl, -⟩ | ⟨target, hcheck, h₂⟩
  · exact .opened (Trace.unbegun _)
  obtain rfl := TableLabel.eq_of_check hcheck
  have hdefinition := Warehouse.follows_definition command.destination.label.tableName
  rcases runs_bind.mp h₂ with ⟨failure, rfl, hf⟩ | ⟨first, found, u, rest, rfl, hv, h₃⟩
  · exact .opened (hdefinition hf).1
  obtain ⟨hallows, hu⟩ := hdefinition hv
  obtain ⟨first, rfl, -, -, hfound⟩ := Warehouse.runs_definition hv
  have hdescribes := hfound found rfl
  cases found with
  | none =>
    obtain ⟨rfl, rfl, -⟩ := runs_throw.mp h₃
    exact .opened (by simpa using Trace.weaken _ hallows)
  | some found =>
    rcases runs_ofExcept_bind.mp h₃ with ⟨failure, -, rfl, rfl, -⟩ | ⟨destination, hkeyed, h₄⟩
    · exact .opened (by simpa using Trace.weaken _ hallows)
    have hname : (u.drawName beginning).1 = (session.drawName beginning).1 := by
      simp only [Session.drawName, hu, hs]
    rcases runs_bind.mp h₄ with ⟨failure, rfl, hf⟩ | ⟨performed, result, w, closing, rfl, hm, h₅⟩
    · rcases runs_moveRows hf with ⟨rfl, -⟩ | ⟨staging, hstages, hperformed⟩
      · exact .opened (by simpa using Trace.weaken _ hallows)
      rw [hname] at hstages
      rw [← List.append_nil rest]
      change Course _ _ _ _ (first :: (rest ++ [])) _
      exact .performed hdescribes hkeyed hstages hperformed rfl id
    · rcases runs_moveRows hm with ⟨rfl, hfailed⟩ | ⟨staging, hstages, hperformed⟩
      · cases hfailed
      rw [hname] at hstages
      have hbuild : Follows (ImportResponse.build command.destination.label.tableName result)
          (Warehouse.describes command.destination.label.tableName) :=
        (Warehouse.follows_stats _).bind_quiet fun _ => quiet_ofExcept _
      change Course _ _ _ _ (first :: (performed ++ closing)) _
      exact .performed hdescribes hkeyed hstages hperformed (hbuild h₅).1 fun _ => rfl

end WarehouseImport.FromFile
