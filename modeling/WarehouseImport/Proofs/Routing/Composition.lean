import WarehouseImport.Import.Writing
import WarehouseImport.Proofs.Routing.Assignment
import WarehouseImport.Proofs.Routing.Routes

/-!
# Routes through a staging table

The rows of a staged import are assigned two or three times: into the staging table, perhaps into
the table of keys, and into the destination. Composed, these assignments fill exactly the columns at
the ends of the routes, each with the column where its route begins, but for the time column: what a
route brings there is left behind, and the import writes its own time or nothing.

So no column is swapped, lost or added on the way, however the routes rename them.
-/

namespace WarehouseImport

open WarehouseImport.Text

namespace ColumnMapping

/-- What a route brings to its end, where texts are cast or not. -/
def carried (route : ColumnMapping) (cast : Bool) : Origin :=
  if cast then .text (.column route.source) else .column route.source

/-- The routes that a staged import takes to its destination. -/
def kept (routes : List ColumnMapping) : List ColumnMapping :=
  routes.filter fun route => lower route.destination != timestampColumn

/-- What the routes assign to the columns of a table that they end at. -/
def assignments (routes : List ColumnMapping) (value : ColumnMapping → Origin) : List Assignment :=
  routes.map fun route => ⟨route.destination, value route⟩

end ColumnMapping

/-- What a staged import writes at the end of a route: empty texts become null if that is wanted of
the column. -/
def TransferOptions.written (options : TransferOptions) (route : ColumnMapping) : Origin :=
  if options.typing = .text ∧
      (NameIndex.ofNames options.emptyToNull).contains route.destination = true then
    .unlessEmpty (route.carried true)
  else route.carried (options.typing == .text)

/-- What a staged import assigns to its destination. -/
def TransferOptions.routed (options : TransferOptions) (routes : List ColumnMapping) :
    List Assignment :=
  ColumnMapping.assignments (ColumnMapping.kept routes) options.written ++
    if options.stamped then [⟨timestampColumn, .time⟩] else []

namespace TransferOptions

/-- A staged value on the way to a column: null where it is empty, if that is wanted of the column. -/
def passed (options : TransferOptions) (column : String) (value : Origin) : Origin :=
  if options.typing = .text ∧ (NameIndex.ofNames options.emptyToNull).contains column = true then
    .unlessEmpty value
  else value

/-- What a staged import assigns to its destination where values are staged at the ends of routes. -/
def delivered (options : TransferOptions) (routes : List ColumnMapping)
    (value : ColumnMapping → Origin) : List Assignment :=
  ColumnMapping.assignments (ColumnMapping.kept routes)
      (fun route => options.passed route.destination (value route)) ++
    if options.stamped then [⟨timestampColumn, .time⟩] else []

/-- Where the routes bring the columns at which they begin, these are delivered. -/
theorem routed_eq (options : TransferOptions) (routes : List ColumnMapping) :
    options.routed routes =
      options.delivered routes fun route => route.carried (options.typing == .text) := by
  unfold routed delivered
  congr 2
  funext route
  unfold written passed
  by_cases htyping : options.typing = .text <;> simp [htyping]

end TransferOptions

namespace Assignment

variable {earlier : List Assignment} {routes : List ColumnMapping}

/-- The earlier assignments fill the end of each route with a value. -/
def Fill (earlier : List Assignment) (routes : List ColumnMapping)
    (value : ColumnMapping → Origin) : Prop :=
  ∀ route ∈ routes, (Origin.column route.destination).through earlier = some (value route)

/-- What is filled at the ends of all routes is filled at the ends of some. -/
theorem Fill.kept {value : ColumnMapping → Origin} (h : Fill earlier routes value) :
    Fill earlier (ColumnMapping.kept routes) value :=
  fun route hroute => h route (List.mem_filter.mp hroute).1

/-- Routes that end at names that differ by more than case fill what they are assigned to. -/
theorem fill_assignments (value : ColumnMapping → Origin)
    (hdistinct : (routes.map fun route => lower route.destination).Nodup) :
    Fill (ColumnMapping.assignments routes value) routes value := by
  intro route hroute
  have hfind := find?_of_nodup hdistinct hroute
  rw [Origin.through, ColumnMapping.assignments, List.find?_map]
  simp only [Function.comp_def]
  rw [hfind]
  rfl

/-- Composed with what fills its columns, what the routes assign is given in terms of that. -/
theorem compose_assignments {value given : ColumnMapping → Origin}
    (h : ∀ route ∈ routes, (value route).through earlier = some (given route)) :
    compose earlier (ColumnMapping.assignments routes value) =
      some (ColumnMapping.assignments routes given) := by
  rw [compose, ColumnMapping.assignments, List.mapM_map]
  refine mapM_eq_some fun route hroute => ?_
  simp only [Function.comp_apply, through, h route hroute]
  rfl

/-- What fills the columns where routes begin is brought to their ends by a mapped selection, as it
is or cast to a text. -/
theorem compose_mapped {select : MappedSelect} {value : ColumnMapping → Origin} (cast : Bool)
    (hmappings : select.mappings = routes)
    (hfound : ∀ route ∈ routes,
      (Origin.column route.source).through earlier = some (value route)) :
    compose earlier (select.assignments cast) =
      some (ColumnMapping.assignments routes fun route =>
        if cast then .text (value route) else value route) := by
  have hselect : select.assignments cast =
      ColumnMapping.assignments routes fun route => route.carried cast := by
    rw [MappedSelect.assignments, hmappings]
    rfl
  rw [hselect]
  apply compose_assignments
  intro route hroute
  cases cast with
  | true =>
    change ((Origin.column route.source).through _).map Origin.text = _
    rw [hfound route hroute]
    rfl
  | false => exact hfound route hroute

/-- The columns where routes begin are brought to their ends by a mapped selection. -/
theorem compose_select {select : MappedSelect} (cast : Bool) (hmappings : select.mappings = routes)
    (hdistinct : (routes.map fun route => lower route.source).Nodup) :
    compose (same (routes.map (·.source))) (select.assignments cast) =
      some (ColumnMapping.assignments routes fun route => route.carried cast) := by
  apply compose_mapped cast hmappings
  intro route hroute
  have hfind := find?_of_nodup hdistinct hroute
  rw [Origin.through, same, List.map_map, List.find?_map]
  simp only [Function.comp_def]
  rw [hfind]
  rfl

/-- A copy that keeps one row for each key passes on what its columns are filled with. -/
theorem compose_keyedCopy (copy : KeyedCopy) {value : ColumnMapping → Origin}
    (hcolumns : copy.columns = routes.map (·.destination)) (hfill : Fill earlier routes value) :
    compose earlier copy.assignments = some (ColumnMapping.assignments routes value) := by
  have hcopy : copy.assignments =
      ColumnMapping.assignments routes fun route => .column route.destination := by
    rw [KeyedCopy.assignments, same, hcolumns, List.map_map]
    rfl
  rw [hcopy]
  exact compose_assignments hfill

/-- The insertion of staged rows delivers what its columns are filled with. -/
theorem compose_insertion {staging : TableDefinition} (destination : TableDefinition)
    (options : TransferOptions) (source : String) {value : ColumnMapping → Origin}
    (hcolumns : Writing.stagedColumns staging = (ColumnMapping.kept routes).map (·.destination))
    (hfill : Fill earlier (ColumnMapping.kept routes) value) :
    compose earlier (Writing.insertion staging destination options source).assignments =
      some (options.delivered routes value) := by
  have hinsert : (Writing.insertion staging destination options source).assignments =
      ColumnMapping.assignments (ColumnMapping.kept routes) (fun route =>
        (Writing.insertion staging destination options source).origin route.destination) ++
        if options.stamped then [⟨timestampColumn, .time⟩] else [] := by
    rw [StagedInsert.assignments]
    change (Writing.stagedColumns staging).map _ ++ _ = _
    rw [hcolumns, List.map_map]
    rfl
  have hstaged : compose earlier (ColumnMapping.assignments (ColumnMapping.kept routes) fun route =>
      (Writing.insertion staging destination options source).origin route.destination) =
      some (ColumnMapping.assignments (ColumnMapping.kept routes) fun route =>
        options.passed route.destination (value route)) := by
    refine compose_assignments fun route hroute => ?_
    have hstaged := hfill route hroute
    rw [StagedInsert.origin, TransferOptions.passed]
    change Origin.through _ (if (NameIndex.ofNames (if options.typing = Typing.text then
      options.emptyToNull else [])).contains route.destination = true then _ else _) = _
    by_cases htyping : options.typing = .text
    · rw [htyping]
      simp only [if_true, true_and]
      split
      · change ((Origin.column route.destination).through _).map Origin.unlessEmpty = _
        rw [hstaged]
        rfl
      · exact hstaged
    · have hnone : (NameIndex.ofNames []).contains route.destination = false := rfl
      rw [if_neg htyping, hnone, if_neg (by simp), if_neg fun h => htyping h.1]
      exact hstaged
  have htime : compose earlier (if options.stamped then [⟨timestampColumn, .time⟩] else []) =
      some (if options.stamped then [⟨timestampColumn, .time⟩] else []) := by
    cases options.stamped <;> rfl
  rw [hinsert, compose, List.mapM_append]
  change (do
    let first ← compose earlier _
    let last ← compose earlier _
    return first ++ last) = _
  rw [hstaged, htime]
  rfl

end Assignment

end WarehouseImport
