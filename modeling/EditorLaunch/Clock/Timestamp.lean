/-!
# Timestamps

An instant in milliseconds since the epoch as a date and a time of day in
universal time.  Days are counted in years that begin in March, so that the leap
day is the last one of a year, and in cycles of four hundred years.
-/

namespace EditorLaunch.Timestamp

/-- A day of the calendar. -/
structure Date where
  year : Int
  month : Nat
  day : Nat
deriving DecidableEq, Repr

def dateOfDays (days : Int) : Date :=
  let shifted := days + 719468
  let cycle := shifted.fdiv 146097
  let dayOfCycle := (shifted.fmod 146097).toNat
  let yearOfCycle :=
    (dayOfCycle - dayOfCycle / 1460 + dayOfCycle / 36524 - dayOfCycle / 146096) / 365
  let dayOfYear := dayOfCycle - (365 * yearOfCycle + yearOfCycle / 4 - yearOfCycle / 100)
  let monthFromMarch := (5 * dayOfYear + 2) / 153
  let month := if monthFromMarch < 10 then monthFromMarch + 3 else monthFromMarch - 9
  { year := Int.ofNat yearOfCycle + cycle * 400 + (if month ≤ 2 then 1 else 0)
    month
    day := dayOfYear - (153 * monthFromMarch + 2) / 5 + 1 }

/-- A number with zeros in front up to a width. -/
def padded (width value : Nat) : String :=
  let digits := Nat.toDigits 10 value
  String.ofList (List.replicate (width - digits.length) '0' ++ digits)

/-- The text of a year; years of more or less than four digits have a sign. -/
def yearText (year : Int) : String :=
  if 0 ≤ year ∧ year ≤ 9999 then padded 4 year.toNat
  else if year < 0 then "-" ++ padded 4 year.natAbs
  else "+" ++ padded 4 year.toNat

/-- The text of an instant.  Milliseconds are left out when they are zero. -/
def text (milliseconds : Int) : String :=
  let date := dateOfDays (milliseconds.fdiv 86400000)
  let within := (milliseconds.fmod 86400000).toNat
  let fraction := within % 1000
  let shown := if fraction = 0 then "" else "." ++ padded 3 fraction
  yearText date.year ++ "-" ++ padded 2 date.month ++ "-" ++ padded 2 date.day ++ "T" ++
    padded 2 (within / 3600000) ++ ":" ++ padded 2 (within / 60000 % 60) ++ ":" ++
    padded 2 (within / 1000 % 60) ++ shown ++ "Z"

end EditorLaunch.Timestamp
