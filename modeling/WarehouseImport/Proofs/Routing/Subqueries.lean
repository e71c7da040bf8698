import WarehouseImport.Proofs.Routing.Copies

/-!
# Columns of generated queries

Rows that are restricted or reordered are read through a generated query. The insertion selects its
columns by name from the query, which projects the source columns of the routes, one for each route.
A name refers to every column of the projection that agrees with it without regard to case, and the
warehouse refuses a name that refers to several.

Each name refers to a column of the query. It refers to no other exactly if the command maps its
source column once: the query projects a column that is mapped to several destinations as often.
-/

namespace WarehouseImport

open WarehouseImport.Action Exchange
open WarehouseImport.Text

/-- How many columns of a projection a name refers to. -/
def referredColumns (projection : List String) (name : String) : Nat :=
  projection.countP fun column => lower column == lower name

/-- A name of the projection refers to a column. -/
theorem referredColumns_pos {projection : List String} {name : String} (h : name ∈ projection) :
    1 ≤ referredColumns projection name :=
  List.countP_pos_iff.mpr ⟨name, h, beq_self_eq_true _⟩

/-- A name refers to the columns that agree with it in lower case. -/
theorem referredColumns_eq_count (projection : List String) (name : String) :
    referredColumns projection name = (projection.map lower).count (lower name) := by
  rw [List.count, List.countP_map]
  rfl

/-- A name refers to one column at most, if no two columns agree without regard to case. -/
theorem referredColumns_le_one {projection : List String} (h : (projection.map lower).Nodup)
    (name : String) : referredColumns projection name ≤ 1 := by
  rw [referredColumns_eq_count]
  exact List.nodup_iff_count.mp h (lower name)

namespace TableCommand

/-- How often a command maps a column of its source. -/
def timesMapped (command : TableCommand) (name : String) : Nat :=
  referredColumns (command.source.mappings.map (·.source)) name

/-- Where a route begins, its name refers to one column exactly if the command maps it at most
once. -/
theorem referred_routes {command : TableCommand} {full : TableDefinition} {name : String}
    (h : name ∈ (command.routes full).map (·.source)) :
    referredColumns ((command.routes full).map (·.source)) name = 1 ↔
      command.timesMapped name ≤ 1 := by
  have hpos := referredColumns_pos h
  by_cases hmappings : command.source.mappings.isEmpty
  · have hsources : (command.routes full).map (·.source) = full.columnNames := by
      rw [routes, if_pos hmappings, List.map_map]
      exact List.map_id _
    have hnone : command.timesMapped name = 0 := by
      rw [timesMapped, List.isEmpty_iff.mp hmappings]
      rfl
    have hone := referredColumns_le_one full.columns.nodup_lower_names name
    rw [hsources] at hpos ⊢
    change referredColumns full.columnNames name ≤ 1 at hone
    omega
  · have hmapped : referredColumns ((command.routes full).map (·.source)) name =
        command.timesMapped name := by
      rw [routes, if_neg hmappings, timesMapped]
    omega

end TableCommand

namespace FromTable

variable {command : TableCommand} {full destination : TableDefinition} {options : TransferOptions}
  {context : SourceContext} {expected : ColumnCollection} {name : String} {way : List Statement}
  {target : TableName} {select : MappedSelect} {cast : Bool}

/-- An insertion on the way of an import reads the columns where the routes begin. -/
theorem Way.reads_of_mem
    (hcontext : SourceContext.ofDefinition command.source.request full = .ok context)
    (h : Way command full context expected destination options name way)
    (hmem : .insertMapped target select cast ∈ way) :
    select.mappings.map (·.source) = (command.routes full).map (·.source) ∧
      select.base.Gives full.name (select.mappings.map (·.source)) := by
  have hwriting (staging destination : TableDefinition) :
      .insertMapped target select cast ∉ Writing.plan staging destination options := by
    unfold Writing.plan
    split <;> simp
  cases h with
  | @direct given routes hdirect hsources hnames hcarries =>
    cases List.mem_singleton.mp hmem
    rw [hcarries.mappings]
    exact ⟨hsources.trans (SourceContext.selected_eq hcontext), hcarries.base⟩
  | @staged staging given hstaged hstages hcarries =>
    rcases List.mem_cons.mp hmem with hcreate | hmem
    · cases hcreate
    rcases List.mem_cons.mp hmem with hinsert | hmem
    · cases hinsert
      rw [hcarries.mappings]
      exact ⟨rfl, hcarries.base⟩
    · exact (hwriting staging destination hmem).elim
  | @copied staging hstaged hstages hcopy =>
    rcases List.mem_cons.mp hmem with hcopied | hmem
    · cases hcopied
    · exact (hwriting staging destination hmem).elim

end FromTable

namespace Handler

variable {handler : Handler} {config : Config} {credentials : Credentials}
  {command : TableCommand} {features : List String} {options : RuntimeOptions}
  {session after : Session} {inserting : Exchange} {exchanges : List Exchange}
  {outcome : Except Failure ImportResponse} {target : TableName} {select : MappedSelect}
  {cast : Bool} {sql : SqlText}

/-- An insertion that reads a generated query selects from it the columns that the query projects.
The name of each refers to a column of the query, and to no other one exactly if the command maps
this column of its source once at most. -/
theorem subquery_references
    (hrun : Runs (handler.run config credentials (.table command) features options) session
      exchanges outcome after)
    (hmem : inserting ∈ exchanges)
    (hsent : inserting.statement? = some (.insertMapped target select cast))
    (hquery : select.base = .query sql) :
    ∃ (query : FilterQuery) (limit : Int),
      sql = query.sql (select.mappings.map (·.source)) limit ∧
      ∀ mapping ∈ select.mappings,
        1 ≤ referredColumns (select.mappings.map (·.source)) mapping.source ∧
        (referredColumns (select.mappings.map (·.source)) mapping.source = 1 ↔
          command.timesMapped mapping.source ≤ 1) := by
  have himport := full_of_fills hrun hmem hsent rfl
  rcases settled_of_runs hrun himport with ⟨-, hnone⟩ | ⟨⟨settlement⟩⟩
  · have hmoved := mem_moved hmem (movesRows_of_statement hsent)
    rw [hnone] at hmoved
    cases hmoved
  have hway := (settlement.keep.mem_of_movesRows hmem hsent rfl)
  obtain ⟨hsources, hgives⟩ :=
    settlement.hway.reads_of_mem settlement.hcontext (List.mem_filter.mp hway).1
  rw [hquery] at hgives
  rcases hgives with htable | ⟨query, limit, -, hbase⟩
  · cases htable
  refine ⟨query, limit, SelectBase.query.inj hbase, fun mapping hmapping => ?_⟩
  have hsource : mapping.source ∈ select.mappings.map (·.source) := List.mem_map_of_mem hmapping
  refine ⟨referredColumns_pos hsource, ?_⟩
  rw [hsources] at hsource ⊢
  exact TableCommand.referred_routes hsource

/-- A command that maps a column of its source to two destinations. -/
def doublingImport : TableCommand where
  source := { dataset := "data", table := "sales", mappings := [⟨"id", "a"⟩, ⟨"ID", "b"⟩] }
  destination := ⟨"data", "report"⟩
  options := { dedupType := .insertDuplicates }

/-- The exchanges of this command where the source has this column and another one. -/
def doublingImportExchanges : List Exchange :=
  (Handler.tables.run Config.plain Credentials.plain (.table doublingImport) [] {}).against
    Session.plain (Script.obliging fun _ => .ok (ReflectedTable.ofNames ["id", "name"] []))

/-- Such a run sends an insertion whose first name refers to two columns of its query. -/
theorem subquery_references_doubled :
    ∃ inserting ∈ doublingImportExchanges, ∃ target select sql,
      inserting.statement? = some (.insertMapped target select false) ∧
        select.base = .query sql ∧ ∃ mapping ∈ select.mappings,
          ¬ referredColumns (select.mappings.map (·.source)) mapping.source = 1 := by
  obtain ⟨outcome, after, hrun⟩ := runs_against
    (Handler.tables.run Config.plain Credentials.plain (.table doublingImport) [] {}) Session.plain
    (Script.obliging fun _ => .ok (ReflectedTable.ofNames ["id", "name"] []))
  obtain ⟨inserting, hmem, target, select, sql, hsent, hquery, hmappings⟩ :
      ∃ inserting ∈ doublingImportExchanges, ∃ target select sql,
        inserting.statement? = some (.insertMapped target select false) ∧
          select.base = .query sql ∧ select.mappings = [⟨"id", "a"⟩, ⟨"ID", "b"⟩] :=
    ⟨_, List.mem_iff_getElem?.mpr ⟨3, rfl⟩, _, _, _, rfl, rfl, rfl⟩
  obtain ⟨query, limit, -, hreferences⟩ := subquery_references hrun hmem hsent hquery
  have hfirst : (⟨"id", "a"⟩ : ColumnMapping) ∈ select.mappings := by simp [hmappings]
  refine ⟨inserting, hmem, target, select, sql, hsent, hquery, _, hfirst, fun hone => ?_⟩
  have honce := (hreferences _ hfirst).2.mp hone
  revert honce
  decide

end Handler

end WarehouseImport
