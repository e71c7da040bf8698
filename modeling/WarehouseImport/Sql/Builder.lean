import WarehouseImport.Sql.Filter

/-!
# Selections that are built call by call

Who builds a selection step by step may go on after a step that failed, with what the selection has
become by then. The steps here work on the selection itself. Values are bound first, to the
parameter behind the last one, and the condition that refers to them is added after that; a failure
in between keeps what was done before it.
-/

namespace WarehouseImport

/-- A step that works on a selection and may fail on the way. -/
abbrev Building := ExceptT Failure (StateM FilterQuery)

namespace Building

/-- Binds a value to the parameter behind the last one, and gives its number. -/
def bindNext (type : String) (value : BoundValue) : Building Nat := do
  let number := (← get).bindings.length + 1
  let binding : Binding := ⟨FilterClause.parameterName number, type, value⟩
  modify fun query => { query with bindings := Binding.insert query.bindings binding }
  return number

/-- Adds a condition. -/
def require (clause : FilterClause) : Building Unit :=
  modify fun query => { query with clauses := query.clauses ++ [clause] }

/-- Restricts the selection to rows imported within the last seconds, if there are any. -/
def addRecent (seconds : Int) : Building Unit := do
  if 0 < seconds then require (.recent seconds)

/-- Restricts the selection by a filter, once it is checked and all its values are converted. -/
def addFilter (spec : FilterSpec) : Building Unit := do
  let filter ← spec.check
  match filter.values with
  | [] => throw (.noFilterValues filter.column)
  | [value] =>
    let cast ← filter.type.cast?
    let value ← filter.type.convert filter.column value
    let number ← bindNext filter.type.bound (.one value)
    require (.compare filter.column cast filter.operator.single false number)
  | values =>
    match filter.operator.several? with
    | none => throw .severalValues
    | some symbol =>
      let cast ← filter.type.cast?
      let converted : Except Failure (List Json) :=
        values.mapM (filter.type.convert filter.column)
      let values ← converted
      let number ← bindNext filter.type.bound (.many values)
      require (.compare filter.column cast symbol true number)

end Building

end WarehouseImport
