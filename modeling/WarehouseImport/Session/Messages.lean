import WarehouseImport.Config.Basic
import WarehouseImport.Number.Layout
import WarehouseImport.Text.Padding
import WarehouseImport.Time.Duration

/-!
# Messages

What a run has to say: notices and warnings, each kept once, and the total time of every named
step. A line of a level of detail is shown when the level of the run is at least as high; a quiet
run shows a point for every line, and a silent one shows nothing.
-/

namespace WarehouseImport

/-- Levels of detail. A higher level shows more, except that the highest shows nothing. -/
abbrev Detail := Int

namespace Detail

/-- A point for every line. -/
def quiet : Detail := -1

/-- The usual lines. -/
def normal : Detail := 0

/-- Statements and notices too. -/
def verbose : Detail := 1

/-- Everything. -/
def full : Detail := 2

/-- Nothing. -/
def silent : Detail := 3

end Detail

/-- The number of times a step was recorded and their total time in seconds. -/
structure StepTotal where
  name : String
  seconds : Float
  count : Nat
  deriving Repr

/-- The messages of a run. -/
structure Messages where
  detail : Detail
  ansi : Bool
  notices : List String := []
  warnings : List String := []
  steps : List StepTotal := []
  deriving Repr

/-- The codes that switch a colour on. -/
def colourCodes : List (String × String) := [
  ("none", "\x1b[0m"),
  ("cyan", "\x1b[96m"),
  ("magenta", "\x1b[95m"),
  ("blue", "\x1b[94m"),
  ("yellow", "\x1b[93m"),
  ("green", "\x1b[92m"),
  ("red", "\x1b[91m"),
  ("grey", "\x1b[90m"),
  ("white", "\x1b[37m"),
  ("bold", "\x1b[1m"),
  ("underline", "\x1b[4m")]

/-- A line in colours, whose names are skipped when they are unknown. Without colours the line
stays as it is, and an absent one stays absent. -/
def coloured (line : Option String) (colours : List String) (ansi : Bool) : Option String :=
  if ansi && !colours.isEmpty then
    some (String.join (colours.map fun colour => (colourCodes.lookup colour).getD "") ++
      line.getD "None" ++ (colourCodes.lookup "none").getD "")
  else line

namespace Messages

/-- The messages of a run with the given settings. The four settings that are always looked at must
be there; the one that silences is looked up when the others leave the level open. -/
def ofSettings (value? : ConfigKey → Option Json) : Except Failure Messages :=
  match value? .quiet, value? .verbose, value? .vverbose, value? .ansi with
  | some quiet, some verbose, some full, some ansi => do
    let detail ←
      if quiet.isGiven then .ok Detail.quiet
      else if full.isGiven then .ok Detail.full
      else if verbose.isGiven then .ok Detail.verbose
      else
        match value? .suppressStdout with
        | some suppress => .ok (if suppress.isGiven then Detail.silent else Detail.normal)
        | none => .error .noSuchPart
    return { detail := detail, ansi := ansi.isGiven }
  | _, _, _, _ => .error .missingArgument

/-- Whether a line of a level is shown; a line without a level always counts as low enough. -/
def shows (messages : Messages) (detail : Option Detail) : Bool :=
  messages.detail != Detail.silent && (detail.map fun d => decide (d ≤ messages.detail)).getD true

/-- Adds a text to a list, unless it is there. -/
def keep (texts : List String) (text : String) : List String :=
  if texts.contains text then texts else texts ++ [text]

/-- Adds the time of a step to its total. -/
def addTo (name : String) (seconds : Float) : List StepTotal → List StepTotal
  | [] => [⟨name, seconds, 1⟩]
  | total :: rest =>
    if total.name = name then ⟨name, total.seconds + seconds, total.count + 1⟩ :: rest
    else total :: addTo name seconds rest

/-- Records that a step took a time. -/
def addStep (messages : Messages) (name : String) (duration : Duration) : Messages :=
  { messages with steps := addTo name duration.seconds messages.steps }

/-- A line of the table of steps. -/
def row (width : Nat) (name seconds share : String) : String :=
  Text.padRight width name ++ " " ++ Text.padLeft 9 seconds ++ " " ++ Text.padLeft 7 share

/-- The table of steps, longest first, with at most `top` of them, and the line about the total
time, which is there when it is not zero. -/
def stepTable (messages : Messages) (top : Int) : List String × Option String :=
  if messages.steps.isEmpty then ([], none)
  else
    let total := messages.steps.foldl (fun sum step => sum + step.seconds) 0.0
    let width := (messages.steps.map fun step => step.name.length).foldl max 0
    let longest := messages.steps.mergeSort fun a b => decide (b.seconds ≤ a.seconds)
    let rows := (longest.take top.toNat).map fun step =>
      let share := if 0.0 < total then step.seconds / total else 0.0
      row width step.name (Number.fixedPlaces 3 step.seconds)
        (Number.fixedPlaces 1 (share * 100.0) ++ "%")
    (row width "Step" "Seconds" "Percent" :: rows,
      if total == 0.0 then none
      else some ("Total time logged: " ++ (Duration.ofSeconds total).shown))

/-- The lines that list warnings and notices, each heading with its colour. -/
def listing (messages : Messages) : List (String × List String) :=
  let part (heading colour : String) (texts : List String) :=
    if texts.isEmpty then [] else (heading, [colour]) :: texts.map fun text => (text, [])
  part "Warnings:" "red" messages.warnings ++ part "Notices:" "green" messages.notices

end Messages

end WarehouseImport
