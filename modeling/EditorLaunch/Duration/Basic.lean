/-!
# Durations

A duration is a whole number of nanoseconds whose seconds fit 64 bits.  Sums and
multiples that would leave this range stop at the longest duration.
-/

namespace EditorLaunch

/-- A span of time of at most 2 to the 64 seconds, less a nanosecond. -/
structure Duration where
  nanoseconds : Nat
  fits : nanoseconds < 0x10000000000000000 * 1000000000 := by decide
deriving DecidableEq, Repr

namespace Duration

/-- The number of nanoseconds in a second. -/
def perSecond : Nat := 1000000000

/-- No time at all. -/
def zero : Duration := { nanoseconds := 0 }

instance : Inhabited Duration := ⟨zero⟩

def longest : Duration := { nanoseconds := 0x10000000000000000 * 1000000000 - 1 }

/-- The duration of so many nanoseconds, or the longest one. -/
def saturating (nanoseconds : Nat) : Duration :=
  if fits : nanoseconds < 0x10000000000000000 * 1000000000 then ⟨nanoseconds, fits⟩
  else longest

/-- The duration of so many seconds, or the longest one. -/
def ofSeconds (seconds : Nat) : Duration :=
  saturating (seconds * perSecond)

/-- The duration of so many milliseconds, or the longest one. -/
def ofMilliseconds (milliseconds : Nat) : Duration :=
  saturating (milliseconds * 1000000)

/-- Whole seconds. -/
def seconds (duration : Duration) : Nat :=
  duration.nanoseconds / perSecond

/-- The nanoseconds beyond the whole seconds. -/
def subsecond (duration : Duration) : Nat :=
  duration.nanoseconds % perSecond

/-- Whole milliseconds. -/
def milliseconds (duration : Duration) : Nat :=
  duration.nanoseconds / 1000000

/-- The nanoseconds after which a timer that is set to a duration goes off.  Timers count
whole milliseconds, and a part of one is a whole one to them. -/
def timer (duration : Duration) : Nat :=
  (duration.nanoseconds + 999999) / 1000000 * 1000000

def plus (left right : Duration) : Duration :=
  saturating (left.nanoseconds + right.nanoseconds)

def times (duration : Duration) (count : Nat) : Duration :=
  saturating (duration.nanoseconds * count)

/-- A quarter of a duration, rounded down to a nanosecond. -/
def quarter (duration : Duration) : Duration :=
  saturating (duration.nanoseconds / 4)

/-- The digits of a fraction with so many places, without zeros at the end. -/
def fractionDigits (value places : Nat) : List Char :=
  let digits := Nat.toDigits 10 value
  let padded := List.replicate (places - digits.length) '0' ++ digits
  (padded.reverse.dropWhile (· == '0')).reverse

/-- A number of units of `size` nanoseconds, with its fraction. -/
def inUnits (nanoseconds size places : Nat) (unit : String) : String :=
  let fraction := fractionDigits (nanoseconds % size) places
  let point := if fraction.isEmpty then [] else '.' :: fraction
  s!"{nanoseconds / size}{String.ofList point}{unit}"

/-- The text in log messages: one number in the largest unit that fits. -/
def brief (duration : Duration) : String :=
  let count := duration.nanoseconds
  if 1000000000 ≤ count then inUnits count 1000000000 9 "s"
  else if 1000000 ≤ count then inUnits count 1000000 6 "ms"
  else if 1000 ≤ count then inUnits count 1000 3 "µs"
  else s!"{count}ns"

end Duration

end EditorLaunch
