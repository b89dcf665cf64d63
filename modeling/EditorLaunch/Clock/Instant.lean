/-!
# Readings of the clock

The clock counts from the start of 1970 and within the calendar: asked at any other time
it gives no reading, and nothing else happens.  A request may read it twice.
-/

namespace EditorLaunch

/-- What the clock may show. -/
structure Instant where
  /-- How long ago 1970 began. -/
  milliseconds : Nat
  onCalendar : milliseconds ≤ 8210266876799999 := by decide
deriving DecidableEq, Repr

/-- The start of 1970. -/
def Instant.epoch : Instant := { milliseconds := 0 }

/-- The whole seconds since the start of 1970. -/
def Instant.seconds (instant : Instant) : Nat :=
  instant.milliseconds / 1000

/-- What the clock shows while a request is answered: first when a token is minted or a
report is written, and again when a link is put together.  Clocks may be set back, so the
second reading need not be the later one. -/
structure Clock where
  first : Instant
  second : Instant
deriving DecidableEq, Repr

/-- A clock that stands still at the start of 1970. -/
def Clock.stopped : Clock :=
  ⟨.epoch, .epoch⟩

end EditorLaunch
