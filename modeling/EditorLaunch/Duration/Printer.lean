import EditorLaunch.Duration.Basic

/-!
# Durations as text

A duration is written as the counts of nine units from years down to
nanoseconds, those that are zero being left out.  A year has 365.25 days and a
month a twelfth of that, rounded to whole seconds.  The units from the day on
have a plural.
-/

namespace EditorLaunch.Duration

/-- The seconds of a year. -/
def yearSeconds : Nat := 31557600

/-- The seconds of a month. -/
def monthSeconds : Nat := 2630016

/-- The seconds of a day. -/
def daySeconds : Nat := 86400

/-- One unit with its count, unless the count is zero. -/
def item (count : Nat) (one many : String) : List String :=
  if count = 0 then []
  else if count = 1 then [toString count ++ one]
  else [toString count ++ many]

/-- The units of a duration. -/
def items (duration : Duration) : List String :=
  let inYear := duration.seconds % yearSeconds
  let inMonth := inYear % monthSeconds
  let inDay := inMonth % daySeconds
  let below := duration.subsecond
  item (duration.seconds / yearSeconds) "year" "years" ++
    item (inYear / monthSeconds) "month" "months" ++
    item (inMonth / daySeconds) "day" "days" ++
    item (inDay / 3600) "h" "h" ++
    item (inDay % 3600 / 60) "m" "m" ++
    item (inDay % 60) "s" "s" ++
    item (below / 1000000) "ms" "ms" ++
    item (below / 1000 % 1000) "us" "us" ++
    item (below % 1000) "ns" "ns"

def text (duration : Duration) : String :=
  if duration.nanoseconds = 0 then "0s"
  else " ".intercalate duration.items

end EditorLaunch.Duration
