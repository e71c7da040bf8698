import WarehouseImport.Column.SchemaField
import WarehouseImport.Sql.Statement

/-!
# Calls and scripts

The warehouse and the files in buckets are outside: a program asks them and goes on with the answer.
`Call` is everything that can be asked and `Call.Answer` what may come back; any call may end with a
fault instead. A `Script` is a program as data, so that it can be run against every outside there
is.
-/

namespace WarehouseImport

/-- What a call ends with when it brings no answer. -/
inductive Fault where
  /-- The service refused the call. -/
  | refused (error : ApiError)
  /-- The data of a call cannot be used. -/
  | badData (text : String)
  /-- The call was ended for a reason that is reported as it is. -/
  | ended (text : String)
  /-- An error outside of the service. -/
  | outside (kind : OutsideKind) (text : String)
  deriving Repr

/-- The failure that a fault means for the program that asked. -/
def Fault.failure : Fault → Failure
  | refused error => .backend error
  | badData text => .inputData text
  | ended text => .reported .unknown text none
  | outside kind text => .outside kind text

/-- A table or view as the service describes it. -/
structure ReflectedTable where
  kind : String
  fields : List SchemaField
  rows : Option Int
  bytes : Option Int
  primaryKeys : List String
  deriving Repr

/-- Whether the description is that of a view. -/
def ReflectedTable.isView (table : ReflectedTable) : Bool := Text.upper table.kind == "VIEW"

/-- What a finished job leaves behind. -/
structure JobResult where
  state : String
  affected : Option Int
  rows : List (List Json)
  deriving Repr

/-- A job that was accepted: its name, the seconds it takes, and how it ends. -/
structure Job where
  id : String
  seconds : Float
  outcome : Except Fault JobResult

/-- The settings of every query of a client. -/
structure QuerySettings where
  labels : List (String × String)
  byteLimit : Option String
  cache : Option Json
  deriving Repr

/-- The account, project and location that a client works with. -/
structure ClientRequest where
  account : List (String × Json)
  project : Json
  location : Json
  settings : Option QuerySettings
  deriving Repr

/-- A load of files into a table, behind the rows that it has. -/
structure LoadRequest where
  table : TableName
  uris : List String
  delimiter : String
  quoteMark : String
  skippedLines : Int
  nullMarker : Option String
  deriving Repr

/-- What a program can ask of the outside. -/
inductive Call where
  | connect (request : ClientRequest)
  | reflect (table : TableName)
  | query (statement : Statement) (bindings : List Binding) (timeout : Option Int)
  | load (request : LoadRequest) (timeout : Option Int)
  | openFile (uri : String) (token : Option Json)

/-- What the outside answers: the project of a client, the description of a table, a job, or the
text of a file that exists. -/
abbrev Call.Answer : Call → Type
  | connect _ => String
  | reflect _ => Except Fault ReflectedTable
  | query .. => Except Fault Job
  | load .. => Except Fault Job
  | openFile .. => Option String

/-- A program that asks the outside and ends with a value. -/
inductive Script (α : Type) where
  | done (value : α)
  | ask (call : Call) (next : call.Answer → Script α)

namespace Script

variable {α β : Type}

/-- One program after another. -/
def bind : Script α → (α → Script β) → Script β
  | done value, f => f value
  | ask call next, f => ask call fun answer => bind (next answer) f

instance : Monad Script where
  pure := done
  bind := bind

/-- A question on its own. -/
def question (call : Call) : Script call.Answer := ask call done

/-- The run of a program against an outside that answers each call by the calls before it, latest
first. The value comes with all calls, latest first. -/
def run (outside : List Call → (call : Call) → call.Answer) (before : List Call) :
    Script α → α × List Call
  | done value => (value, before)
  | ask call next => run outside (call :: before) (next (outside before call))

/-- A program that goes on with nothing stays the same. -/
theorem bind_done (script : Script α) : script.bind done = script := by
  induction script with
  | done value => rfl
  | ask call next ih => simp [bind, ih]

/-- How programs one after the other are grouped does not matter. -/
theorem bind_assoc {γ : Type} (script : Script α) (f : α → Script β) (g : β → Script γ) :
    (script.bind f).bind g = script.bind fun value => (f value).bind g := by
  induction script with
  | done value => rfl
  | ask call next ih => simp [bind, ih]

/-- The second of two programs runs behind the calls of the first. -/
theorem run_bind (outside : List Call → (call : Call) → call.Answer) (before : List Call)
    (script : Script α) (next : α → Script β) :
    run outside before (script.bind next) =
      run outside (run outside before script).2 (next (run outside before script).1) := by
  induction script generalizing before with
  | done value => rfl
  | ask call rest ih => exact ih (outside before call) (call :: before)

/-- The calls before a program stay as they are behind those that it makes. -/
theorem suffix_run (outside : List Call → (call : Call) → call.Answer) (before : List Call)
    (script : Script α) : before <:+ (run outside before script).2 := by
  induction script generalizing before with
  | done value => exact List.suffix_refl before
  | ask call next ih =>
    exact (List.suffix_cons call before).trans (ih (outside before call) (call :: before))

end Script

end WarehouseImport
