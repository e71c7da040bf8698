import WarehouseImport.Number.Layout
import WarehouseImport.Number.Numeral

/-!
# Durations

A duration is a whole number of microseconds, made from a number of seconds that may have a
fraction. Its text has days, hours, minutes, seconds and, if there is one, the fraction; a negative
duration counts forward from a negative number of days.
-/

namespace WarehouseImport

open WarehouseImport.Number

/-- A span of time in microseconds. -/
structure Duration where
  microseconds : Int
  deriving DecidableEq, Repr

namespace Duration

/-- The microseconds of a second. -/
def perSecond : Int := 1000000

/-- The microseconds of a day. -/
def perDay : Int := 86400 * perSecond

/-- A double without its fraction. -/
def wholePart (x : Float) : Float := if x < 0.0 then x.ceil else x.floor

/-- The nearest whole number to a double, a half going to the even neighbour. -/
def nearestWhole (x : Float) : Int :=
  match Double.ofFloat x with
  | .finite negative magnitude =>
    let whole : Int := roundHalfEven magnitude.fraction.1 magnitude.fraction.2
    if negative then -whole else whole
  | _ => 0

/-- The duration of some seconds: whole seconds are exact, and the fraction is scaled before it is
rounded. -/
def ofSeconds (seconds : Float) : Duration :=
  let whole := wholePart seconds
  let fraction := (seconds - whole) * 1000000.0
  ⟨((Double.ofFloat whole).truncate?.getD 0) * perSecond + nearestWhole fraction⟩

/-- The duration of whole seconds. -/
def ofWholeSeconds (seconds : Int) : Duration := ⟨seconds * perSecond⟩

/-- The length in seconds. -/
def seconds (duration : Duration) : Float :=
  let magnitude := Float.ofScientific duration.microseconds.natAbs true 6
  if duration.microseconds < 0 then -magnitude else magnitude

/-- A number of days before the rest of a duration. -/
def shownDays (days : Int) : String :=
  if days = 0 then ""
  else toString days ++ (if days.natAbs = 1 then " day, " else " days, ")

/-- A natural number with at least the given number of digits. -/
def padded (width n : Nat) : String := String.ofList (paddedDigits width n)

/-- The text of a duration. -/
def shown (duration : Duration) : String :=
  let days := duration.microseconds.fdiv perDay
  let rest := (duration.microseconds.fmod perDay).toNat
  let seconds := rest / 1000000
  let fraction := rest % 1000000
  shownDays days ++ toString (seconds / 3600) ++ ":" ++ padded 2 (seconds / 60 % 60) ++ ":" ++
    padded 2 (seconds % 60) ++ (if fraction = 0 then "" else "." ++ padded 6 fraction)

end Duration

end WarehouseImport
