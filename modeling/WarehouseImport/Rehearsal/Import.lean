import WarehouseImport.Import.Handler
import WarehouseImport.Rehearsal.Stage

/-!
# Rehearsals of imports

Whole imports on a stage. A command, its credentials and the labels of its run are payloads that are
checked before the import starts; all commands of a rehearsal run on the same stage.
-/

namespace WarehouseImport.Rehearsal

open WarehouseImport

/-- What the imports of a rehearsal have in common. -/
structure ImportSetting where
  handler : Handler
  config : Config
  credentials : Json
  options : Json
  features : List String
  /-- Whether the commands are about files. -/
  files : Bool

namespace ImportSetting

/-- The command that a payload holds. -/
def command (setting : ImportSetting) (payload : Json) : Except Failure ImportCommand :=
  if setting.files then ImportCommand.files <$> (FileCommand.ofDocument payload).result
  else ImportCommand.table <$> (TableCommand.ofDocument payload).result

/-- The import of a command, with its response as text. -/
def action (setting : ImportSetting) (payload : Json) : Action Json := do
  let credentials ← Action.ofExcept (Credentials.ofDocument setting.credentials).result
  let command ← Action.ofExcept (setting.command payload)
  let options ←
    match setting.options with
    | .null => pure {}
    | options => Action.ofExcept (RuntimeOptions.ofDocument options).result
  let response ←
    setting.handler.run setting.config credentials command setting.features options
  match response.document.print? with
  | some text => return .str text
  | none => throw .unprintableDocument

/-- The imports of commands one after the other. -/
def run (setting : ImportSetting) (payloads : List Json) :
    StateM Stage (List (Except Failure Json)) :=
  payloads.mapM fun payload => Stage.run (setting.action payload)

end ImportSetting

end WarehouseImport.Rehearsal
