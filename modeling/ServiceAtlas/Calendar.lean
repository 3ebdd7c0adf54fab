import ServiceAtlas.Text.Digits

/-!
Dates from a count of seconds since the first of January 1970, in universal time.
-/

namespace ServiceAtlas.Calendar

def secondsInDay : Nat := 24 * 60 * 60

/-- Days in four hundred years, after which the calendar repeats. -/
def daysInCycle : Nat := 146097

/-- Days from the first of March of the year zero to the first of January 1970. -/
def daysToEpoch : Nat := 719468

/-- Year, month and day of a day counted from the first of March of the year zero. A year that begins
in March has its leap day at the end. -/
def dateOf (days : Nat) : Nat × Nat × Nat :=
  let cycle := days / daysInCycle
  let inCycle := days % daysInCycle
  let year := (inCycle - inCycle / 1460 + inCycle / 36524 - inCycle / 146096) / 365
  let inYear := inCycle - (365 * year + year / 4 - year / 100)
  let month := (5 * inYear + 2) / 153
  let day := inYear - (153 * month + 2) / 5 + 1
  if month < 10 then (cycle * 400 + year, month + 3, day) else (cycle * 400 + year + 1, month - 9, day)

/-- Date and time in the form that the name of a log has. -/
def stamp (seconds : Nat) : String :=
  let (year, month, day) := dateOf (seconds / secondsInDay + daysToEpoch)
  let rest := seconds % secondsInDay
  Text.padded 4 year ++ Text.padded 2 month ++ Text.padded 2 day ++ "-" ++
    Text.padded 2 (rest / 3600) ++ Text.padded 2 (rest / 60 % 60) ++ Text.padded 2 (rest % 60)

example : stamp 951827696 = "20000229-123456" := by decide +kernel

end ServiceAtlas.Calendar
