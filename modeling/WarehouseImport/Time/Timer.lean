import WarehouseImport.Number.Layout
import WarehouseImport.Text.Padding

/-!
# Timers

A timer runs from its start until it is stopped; from then on its time stays the same.
-/

namespace WarehouseImport

/-- A named measurement of time. Without a duration it is running. -/
structure Timer where
  name : String
  start : Float
  duration : Option Float
  deriving Repr

namespace Timer

/-- A timer that starts at a time. -/
def begin (name : String) (now : Float) : Timer := ⟨name, now, none⟩

/-- Whether the timer has not been stopped. -/
def isRunning (timer : Timer) : Bool := timer.duration.isNone

/-- The seconds measured so far. -/
def elapsed (timer : Timer) (now : Float) : Float := timer.duration.getD (now - timer.start)

/-- Ends the measurement, if it has not ended before. -/
def stop (timer : Timer) (now : Float) : Timer :=
  { timer with duration := some (timer.elapsed now) }

/-- Starts the measurement again. -/
def reset (timer : Timer) (now : Float) : Timer := begin timer.name now

/-- The time measured so far, in words. -/
def shown (timer : Timer) (now : Float) : String :=
  timer.name ++ " elapsed: " ++ Text.padLeft 5 (Number.fixedPlaces 3 (timer.elapsed now)) ++
    " seconds"

end Timer

end WarehouseImport
