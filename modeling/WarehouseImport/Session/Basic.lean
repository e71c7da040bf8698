import WarehouseImport.Session.LogFile
import WarehouseImport.Session.Messages
import WarehouseImport.Session.Progress
import WarehouseImport.Session.Terminal

/-!
# Sessions

A session is all that a run changes besides the warehouse: the clock, the names it has drawn, the
terminal, the log files, the messages and the progress of the import. Every line goes to the open
log file first and then to the terminal, if its level of detail lets it.
-/

namespace WarehouseImport

/-- What a run shows and measures. The log file in use is the last one. `terminalLost` holds once a
line could not be written to the terminal. -/
structure Session where
  clock : Float
  drawn : Nat
  terminal : Terminal
  terminalLost : Bool
  logs : List LogFile
  messages : Messages
  progress : Progress

namespace Session

/-- A session that starts at a time. -/
def start (clock : Float) (messages : Messages) : Session where
  clock := clock
  drawn := 0
  terminal := {}
  terminalLost := false
  logs := []
  messages := messages
  progress := { staging := "" }

/-- The session after some time has passed. -/
def later (session : Session) (seconds : Float) : Session :=
  { session with clock := session.clock + seconds }

/-- A name that no other draw of the session gives: a beginning and the number of the draw. -/
def drawName (session : Session) (beginning : String) : String × Session :=
  let number := session.drawn + 1
  (beginning ++ String.ofList (Text.hexText 32 number), { session with drawn := number })

/-- Writes a line to the open log file, if there is one. -/
def record (session : Session) (line : String) : Except Failure Session :=
  match session.logs.reverse with
  | [] => .ok session
  | file :: others => do
    let file ← file.write (line ++ "\n")
    return { session with logs := (file :: others).reverse }

/-- Writes a line to the terminal. A terminal that is lost is noted in the log file, once. -/
def display (session : Session) (line : String) : Except Failure Session :=
  if session.terminalLost then .ok session
  else
    match session.terminal.write? line with
    | some terminal => .ok { session with terminal := terminal }
    | none => do
      let session ← session.record ("Disabling STDOUT logging due to: " ++ Terminal.lostText)
      return { session with terminalLost := true }

/-- Writes a line of a level of detail to the log file and, if the level lets it, in colours to the
terminal. -/
def log (session : Session) (line : Option String) (detail : Option Detail)
    (colours : List String) : Except Failure Session := do
  let session ← session.record (line.getD "")
  if session.messages.detail = Detail.quiet then session.display "."
  else if session.messages.shows detail then
    session.display ((coloured line colours session.messages.ansi).getD "")
  else return session

/-- The session with a text among its notices. -/
def keepNotice (session : Session) (text : String) : Session :=
  { session with
    messages := { session.messages with notices := Messages.keep session.messages.notices text } }

/-- The session with a text among its warnings. -/
def keepWarning (session : Session) (text : String) : Session :=
  { session with
    messages := { session.messages with warnings := Messages.keep session.messages.warnings text } }

/-- The session with the time of a step recorded. -/
def keepStep (session : Session) (name : String) (duration : Duration) : Session :=
  { session with messages := session.messages.addStep name duration }

/-- Opens a log file in the place of one of the same name; its directory must be named. -/
def openLog (session : Session) (directory beginning : String) : Except Failure Session :=
  if directory.isEmpty || beginning.isEmpty then .error .missingArgument
  else do
    let name ← LogFile.standardName beginning (Moment.ofClock session.clock)
    return { session with
      logs := session.logs.filter (fun file => file.name != name) ++ [LogFile.new name] }

/-- Closes the log file in use, if there is one. -/
def closeLog (session : Session) : Session :=
  match session.logs.reverse with
  | [] => session
  | file :: others => { session with logs := (file.close :: others).reverse }

end Session

end WarehouseImport
