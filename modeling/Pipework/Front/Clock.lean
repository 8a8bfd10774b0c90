import Pipework.Toml.Moment

/-!
# The clock

The text of a moment in universal time, in the form that records and log lines carry it: date and
time of day separated by a `T`. Moments are counted in seconds from the beginning of 1970.
-/

namespace Pipework

/-- The date so many days after the first of January 1970. Years are counted from March, so that the
leap day is the last day of its year. -/
def Date.ofDays (days : Nat) : Date :=
  let n := days + 719468
  let era := n / 146097
  let dayOfEra := n % 146097
  let yearOfEra :=
    (dayOfEra - dayOfEra / 1460 + dayOfEra / 36524 - dayOfEra / 146096) / 365
  let dayOfYear := dayOfEra - (365 * yearOfEra + yearOfEra / 4 - yearOfEra / 100)
  let shifted := (5 * dayOfYear + 2) / 153
  let month := if shifted < 10 then shifted + 3 else shifted - 9
  { year := yearOfEra + 400 * era + (if month ≤ 2 then 1 else 0),
    month := month,
    day := dayOfYear - (153 * shifted + 2) / 5 + 1 }

namespace Front.Clock

/-- The date and the time of day of a moment. -/
def moment (seconds : Nat) : Moment :=
  let second := seconds % 86400
  { date := some (.ofDays (seconds / 86400)),
    time := some { hour := second / 3600, minute := second / 60 % 60, second := second % 60 } }

/-- A fraction of a second in thousandths, millionths or billionths, whichever holds it first;
nothing for no fraction. -/
def fraction (nanoseconds : Nat) : String :=
  if nanoseconds = 0 then ""
  else if nanoseconds % 1000000 = 0 then "." ++ .ofList (Moment.padded 3 (nanoseconds / 1000000))
  else if nanoseconds % 1000 = 0 then "." ++ .ofList (Moment.padded 6 (nanoseconds / 1000))
  else "." ++ .ofList (Moment.padded 9 nanoseconds)

/-- A moment with its fraction and the offset of universal time. -/
def stamp (seconds nanoseconds : Nat) : String :=
  (moment seconds).text ++ fraction nanoseconds ++ "+00:00"

/-- A moment with its fraction in microseconds, as log lines begin. -/
def logStamp (seconds nanoseconds : Nat) : String :=
  (moment seconds).text ++ "." ++ .ofList (Moment.padded 6 (nanoseconds / 1000)) ++ "Z"

example : stamp 0 0 = "1970-01-01T00:00:00+00:00" := by decide +kernel
example : stamp 951782400 5000000 = "2000-02-29T00:00:00.005+00:00" := by decide +kernel
example : logStamp 1709251199 1000 = "2024-02-29T23:59:59.000001Z" := by decide +kernel

end Front.Clock

end Pipework
