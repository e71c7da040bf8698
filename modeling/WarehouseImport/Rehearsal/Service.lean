import WarehouseImport.Import.Document
import WarehouseImport.Warehouse.Document

/-!
# Scripted services

A scripted service stands in for the warehouse and the buckets: it has tables and files, and rules
for what becomes of calls. The first rule for a call of its kind whose words occur in the call, and
which is not used up, decides what happens. A call that no rule is about is a job that is done at
once and brings no rows. The service keeps a record of its calls.
-/

namespace WarehouseImport.Rehearsal

open WarehouseImport

/-- The kinds of calls that rules are about. -/
inductive RuleKind where
  | query
  | reflect
  | load
  deriving DecidableEq, Repr

instance : Named RuleKind where
  all := [.query, .reflect, .load]
  name
    | .query => "query"
    | .reflect => "get_table"
    | .load => "load"

/-- What becomes of a call: it is refused, or its job takes some seconds and then fails, or changes
tables and brings rows. -/
structure Effect where
  refusal : Option Fault := none
  seconds : Float := 0.0
  failure : Option Fault := none
  put : List (String × ReflectedTable) := []
  drop : List String := []
  result : JobResult := ⟨Warehouse.doneState, none, []⟩

/-- An effect on the calls of a kind that some words occur in. `left` is the number of calls it is
still for, if that is bounded. -/
structure Rule where
  kind : Option RuleKind
  words : String
  left : Option Nat
  effect : Effect

/-- A service with its tables by full name, its files by address, and the record of its calls. -/
structure Service where
  project : String
  tables : List (String × ReflectedTable)
  files : List (String × String)
  rules : List Rule
  jobs : Nat := 0
  calls : List Json := []
  opened : List Json := []
  client : Json := .obj []

/-- A table as a document describes it. -/
def reflectedTable (document : Json) : ReflectedTable where
  kind := ((document.get? "type").map Json.text).getD "TABLE"
  fields := document["fields"].items.map SchemaField.ofDocument
  rows := ((document.get? "rows").map Json.int?).getD (some 0)
  bytes := ((document.get? "bytes").map Json.int?).getD (some 0)
  primaryKeys := document["primary_key"].texts

/-- The described tables by their full names. -/
def reflectedTables (documents : Json) : List (String × ReflectedTable) :=
  documents.items.map fun document =>
    (document["dataset"].text ++ "." ++ document["table"].text, reflectedTable document)

/-- Puts tables in the place of those of their names, or at the end. -/
def putTables (tables added : List (String × ReflectedTable)) : List (String × ReflectedTable) :=
  added.foldl (fun tables table => Keyed.put Prod.fst table tables) tables

/-- The rule that a document describes; `fault` reads the faults in it. -/
def Rule.ofDocument (fault : Json → Fault) (document : Json) : Rule where
  kind :=
    match document["on"] with
    | .null => some .query
    | name => Named.ofName? name.text
  words := document["contains"].text
  left := document["times"].int?.map Int.toNat
  effect := {
    refusal := document["error"].present?.map fault
    seconds := document["seconds"].number
    failure := document["result_error"].present?.map fault
    put := reflectedTables document["put"]
    drop := document["drop"].texts
    result := {
      state := ((document.get? "state").map Json.shown).getD Warehouse.doneState
      affected := document["affected"].int?
      rows := document["rows"].items.map Json.items } }

namespace Service

/-- The service that documents describe; `fault` reads the faults in them. -/
def ofDocument (fault : Json → Fault) (document files : Json) : Service where
  project := document["project"].asText?.getD "proj"
  tables := putTables [] (reflectedTables document["tables"])
  files := files.textMembers
  rules := document["rules"].items.map (Rule.ofDocument fault)

/-- The effect of the first rule for a call, and the rules that are left. -/
def decide (kind : RuleKind) (subject : String) : List Rule → Effect × List Rule
  | [] => ({}, [])
  | rule :: rest =>
    if rule.kind = some kind && Failure.mentions subject rule.words && rule.left != some 0 then
      (rule.effect, { rule with left := rule.left.map (· - 1) } :: rest)
    else
      let (effect, others) := decide kind subject rest
      (effect, rule :: others)

/-- What becomes of a call; a rule for it loses one use. -/
def effect (kind : RuleKind) (subject : String) : StateM Service Effect := do
  let service ← get
  let (effect, rules) := decide kind subject service.rules
  set { service with rules := rules }
  return effect

/-- Adds a call to the record. -/
def record (call : List (String × Json)) : StateM Service Unit :=
  modify fun service => { service with calls := service.calls ++ [.obj call] }

/-- The name of a table with the project of the service. -/
def tableId (service : Service) (table : TableName) : String :=
  service.project ++ "." ++ table.full

/-- Describes a table. -/
def reflect (table : TableName) : StateM Service (Except Fault ReflectedTable) := do
  let id := (← get).tableId table
  record (Call.reflectRecord id)
  match (← effect .reflect id).refusal with
  | some fault => return .error fault
  | none =>
    match (← get).tables.lookup table.full with
    | some found => return .ok found
    | none => return .error (.refused ⟨.notFound, "Not found: Table " ++ id, []⟩)

/-- Runs an accepted job. A job that fails changes nothing. -/
def runJob (effect : Effect) : StateM Service Job := do
  modify fun service => { service with jobs := service.jobs + 1 }
  let id := "job-" ++ toString (← get).jobs
  match effect.failure with
  | some fault => return ⟨id, effect.seconds, .error fault⟩
  | none =>
    modify fun service => { service with
      tables := (putTables service.tables effect.put).filter fun table =>
        !effect.drop.contains table.1 }
    return ⟨id, effect.seconds, .ok effect.result⟩

/-- Accepts or refuses a job. The time it may take is on record once it is accepted. -/
def answerJob (kind : RuleKind) (subject : String) (call : List (String × Json))
    (timeout : Option Int) : StateM Service (Except Fault Job) := do
  let effect ← effect kind subject
  match effect.refusal with
  | some fault =>
    record call
    return .error fault
  | none =>
    record (call ++ [("timeout", Json.ofInt? timeout)])
    return .ok (← runJob effect)

/-- Answers a call. -/
def respond : (call : Call) → StateM Service call.Answer
  | .connect request => do
    modify fun service => { service with client := request.document }
    return (← get).project
  | .reflect table => reflect table
  | .query statement bindings timeout =>
    answerJob .query statement.text (Call.queryRecord statement bindings) timeout
  | .load request timeout => do
    let id := (← get).tableId request.table
    answerJob .load id (request.record id) timeout
  | .openFile uri token => do
    modify fun service => { service with
      opened := service.opened ++ [.arr [.str uri, .str "rb", token.getD .null]] }
    return (← get).files.lookup uri

/-- Runs a script against the service. -/
def run {α : Type} : Script α → StateM Service α
  | .done value => return value
  | .ask call next => do
    let answer ← respond call
    run (next answer)

end Service

end WarehouseImport.Rehearsal
