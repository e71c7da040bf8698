import WarehouseImport.Time.Duration

/-!
# Moments of the calendar

A moment is a number of seconds since the first of January 1970, read as a date and a time of day
in the Gregorian calendar. `Moment.line` is the form that stands in messages, `Moment.stamp` the one
in names of log files.
-/

namespace WarehouseImport

/-- A date and a time of day. The month counts from one; the weekday counts from Sunday. -/
structure Moment where
  year : Int
  month : Nat
  day : Nat
  weekday : Nat
  hour : Nat
  minute : Nat
  second : Nat
  microsecond : Nat
  deriving DecidableEq, Repr

namespace Moment

/-- The date of a number of days since the first of January 1970. Years are taken to start in
March, so that the leap day ends one; four centuries always have the same number of days. -/
def civil (days : Int) : Int × Nat × Nat :=
  let shifted := days + 719468
  let era := shifted.fdiv 146097
  let dayOfEra := (shifted.fmod 146097).toNat
  let yearOfEra := (dayOfEra - dayOfEra / 1460 + dayOfEra / 36524 - dayOfEra / 146096) / 365
  let dayOfYear := dayOfEra - (365 * yearOfEra + yearOfEra / 4 - yearOfEra / 100)
  let marchMonth := (5 * dayOfYear + 2) / 153
  let day := dayOfYear - (153 * marchMonth + 2) / 5 + 1
  let month := if marchMonth < 10 then marchMonth + 3 else marchMonth - 9
  (era * 400 + yearOfEra + (if month ≤ 2 then 1 else 0), month, day)

/-- The moment at a distance from the first of January 1970. -/
def ofDuration (duration : Duration) : Moment :=
  let days := duration.microseconds.fdiv Duration.perDay
  let rest := (duration.microseconds.fmod Duration.perDay).toNat
  let seconds := rest / 1000000
  let (year, month, day) := civil days
  { year := year
    month := month
    day := day
    weekday := ((days + 4).fmod 7).toNat
    hour := seconds / 3600
    minute := seconds / 60 % 60
    second := seconds % 60
    microsecond := rest % 1000000 }

/-- The moment of a clock that counts seconds, rounded to microseconds. -/
def ofClock (clock : Float) : Moment := ofDuration (Duration.ofSeconds clock)

/-- The whole seconds that a clock has counted. -/
def wholeSeconds (clock : Float) : Int :=
  (Duration.ofSeconds clock).microseconds.fdiv Duration.perSecond

/-- The names of the days of the week. -/
def weekdays : List String := ["Sun", "Mon", "Tue", "Wed", "Thu", "Fri", "Sat"]

/-- The names of the months. -/
def months : List String :=
  ["Jan", "Feb", "Mar", "Apr", "May", "Jun", "Jul", "Aug", "Sep", "Oct", "Nov", "Dec"]

/-- A number with two digits. -/
def two (n : Nat) : String := Duration.padded 2 n

/-- The time of day. -/
def time (moment : Moment) : String :=
  two moment.hour ++ ":" ++ two moment.minute ++ ":" ++ two moment.second

/-- The moment in a message, the day of the month padded with a blank. -/
def line (moment : Moment) : String :=
  (weekdays[moment.weekday]?).getD "" ++ " " ++ (months[moment.month - 1]?).getD "" ++ " " ++
    (if moment.day < 10 then " " else "") ++ toString moment.day ++ " " ++ moment.time ++ " " ++
    toString moment.year

/-- The moment with the date in numbers. -/
def dated (moment : Moment) : String :=
  toString moment.year ++ "-" ++ two moment.month ++ "-" ++ two moment.day ++ " " ++ moment.time

/-- The moment in the name of a log file. -/
def stamp (moment : Moment) : String :=
  toString moment.year ++ two moment.month ++ two moment.day ++ "_" ++ two moment.hour ++
    two moment.minute ++ two moment.second ++ "_" ++ Duration.padded 6 moment.microsecond

end Moment

end WarehouseImport
