import WarehouseImport.Rehearsal.Stage

/-!
# Rehearsals of sessions

Steps that show and measure: on the progress of an import, and on the messages of a run. A step is
a list of its name and its arguments.
-/

namespace WarehouseImport.Rehearsal

open WarehouseImport

/-- A step on the progress of an import. If messages are kept, a stopped timer is recorded there
too. -/
def progressAction (kept : Bool) (step : Json) : Action Json := do
  let name := step[1].text
  match step[0].text with
  | "start" => Action.startTimer name
  | "stop" =>
    if kept then Action.stopTimer name
    else
      Action.update fun session =>
        (session.progress.stop name session.clock).map fun (progress, _) =>
          { session with progress := progress }
  | "tick" => Action.pass step[1].number
  | "rows" => Action.addRows step[1]
  | "columns" =>
    match step[1] with
    | .arr names => Action.setColumns (names.filterMap Json.asText?)
    | _ => throw .wrongKind
  | "warn" =>
    modify fun session => { session with progress :=
      { session.progress with warnings := session.progress.warnings ++ [name] } }
  | "timers" => return (← Action.progress).result.timerDocuments
  | "result" => return .obj (← Action.progress).result.members
  | "str" => return .str (← Action.progress).shown
  | _ => return .str (← Action.progress).result.shown
  return .null

/-- A step on the progress of an import, with the progress beside its answer. -/
def progressStep (kept : Bool) (step : Json) : StateM Stage Answer := do
  let result ← Stage.run (progressAction kept step)
  return { result := result, beside := [("state", (← get).session.progress.document)] }

/-- The level of detail that options give to a line. -/
def detailOf (options : Json) (usual : Detail) : Option Detail :=
  match options.get? "detail" with
  | some detail => detail.int?
  | none => some usual

/-- The colours that are named, alone or in a list. -/
def coloursOf : Json → List String
  | .str colour => if colour.isEmpty then [] else [colour]
  | names => names.texts

/-- The body of a named step: time passes, other steps run, and it ends with a value or a fault. -/
def bodyOf (fault : Json → Fault) (inner : Json → Action Json) (options : Json) :
    Action Json := do
  Action.pass options["seconds"].number
  for step in options["inner"].items do
    let _ ← inner step
  match options["raise"].present? with
  | some raised => throw (fault raised).failure
  | none => return options["value"]

/-- A named step, which may be optional, around a body. -/
def namedStep (name : String) (options : Json) (body : Action Json) : Action Json := do
  if options.has "not_callable" then throw .missingArgument
  let recorded := ((options.get? "record_timer").map Json.isGiven).getD true
  if options["optional"].isGiven then
    return (← Action.optionalStep name recorded body).getD .null
  else Action.step name recorded body

/-- Puts a value in colours; without colours it stays what it is. -/
def colouredValue (value : Json) (colours : List String) (ansi : Bool) : Json :=
  if ansi && !colours.isEmpty then Json.ofText? (coloured (some value.shown) colours ansi)
  else value

/-- A step on the messages of a run. The fuel bounds the steps inside steps. -/
def messageAction (fault : Json → Fault) (fuel : Nat) (step : Json) : Action Json := do
  let given := step[1]
  let options := step[2]
  let colours := coloursOf options["ansi_code"]
  match step[0].text with
  | "log" =>
    Action.update fun session =>
      session.log given.asText? (detailOf options Detail.normal) colours
  | "notice" => Action.notice given.text (detailOf options Detail.verbose)
  | "warning" => Action.warn given.text (detailOf options Detail.normal) colours
  | "tick" => Action.pass given.number
  | "timer" =>
    let timer := Timer.begin given.text (← Action.now)
    Action.pass options.number
    Action.keepTimer timer
  | "delta" =>
    if let some seconds := options.present? then
      modify fun session => session.keepStep given.text (Duration.ofSeconds seconds.number)
  | "log_messages" => Action.logMessages
  | "log_deltas" =>
    Action.logSteps ((given.get? "topn").bind Json.int? |>.getD 10) (detailOf given Detail.full)
  | "timestamp" =>
    let seconds ← Action.logTime (some Detail.verbose) ["grey"]
    return .str (Moment.ofDuration (Duration.ofWholeSeconds seconds)).dated
  | "init_log" => Action.update fun session => session.openLog "logs" given.text
  | "close_log" => modify Session.closeLog
  | "closed" =>
    match (← get).logs.getLast? with
    | some file => return .bool file.isClosed
    | none => throw .noSuchPart
  | "verbosity" => return .int (← get).messages.detail
  | "ansi_wrap" => return colouredValue given (coloursOf options) step[3].isGiven
  | _ =>
    match fuel with
    | 0 => return .null
    | fuel + 1 =>
      return ← namedStep given.text options (bodyOf fault (messageAction fault fuel) options)
  return .null

/-- A step on the messages of a run, with the text on the terminal beside its answer. -/
def messageStep (fault : Json → Fault) (depth : Nat) (step : Json) : StateM Stage Answer := do
  let result ← Stage.run (messageAction fault depth step)
  return { result := result, beside := [("stdout", ← Stage.takeOutput)] }

end WarehouseImport.Rehearsal
