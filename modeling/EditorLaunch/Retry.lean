import EditorLaunch.Number.Rounding
import EditorLaunch.Settings.Basic
import EditorLaunch.Trace

/-!
# Repeated attempts

An operation that fails for a transient reason is attempted again, up to a bound
and after pauses that grow by a factor up to a limit.  Anything else, a result or
a final failure, ends the attempts.  With jitter a pause is lengthened by up to a
quarter; `draw` tells by how much.
-/

namespace EditorLaunch

namespace RetrySettings

/-- The milliseconds that the pause behind an attempt has grown to. -/
def grownDelay (settings : RetrySettings) (attempt : Nat) : Float :=
  floatOfNat settings.initialDelay.milliseconds *
    wrappedPower settings.multiplier (attempt - 1)

/-- The limit of pauses in milliseconds, as floating point keeps it. -/
def delayLimit (settings : RetrySettings) : Nat :=
  min (roundedToDouble settings.maxDelay.milliseconds) (0x10000000000000000 - 1)

/-- The milliseconds of the pause behind an attempt, without jitter. -/
def plannedDelay (settings : RetrySettings) (attempt : Nat) : Nat :=
  let grown := settings.grownDelay attempt
  if grown.isNaN then settings.delayLimit
  else min grown.toUInt64.toNat settings.delayLimit

/-- The pause behind an attempt.  `draw` picks what jitter adds, and the sum is one of
64 bits. -/
def pause (settings : RetrySettings) (draw : Nat) (attempt : Nat) : Duration :=
  let planned := settings.plannedDelay attempt
  let added := if settings.jitter then draw % (planned / 4 + 1) else 0
  .ofMilliseconds ((planned + added) % 0x10000000000000000)

end RetrySettings

namespace Retry

/-- Ends the attempts with the outcome of the last one. -/
def conclude (settings : RetrySettings) (name : String) (attempt : Nat) :
    Except Failure α → Traced κ (Except Failure α)
  | .ok result => do
      if 1 < attempt then
        Traced.log .debug
          s!"Operation '{name}' succeeded on attempt {attempt}/{settings.attempts}"
      return .ok result
  | .error failure => do
      if failure.isTransient then
        Traced.log .warn (s!"Operation '{name}' failed after {settings.attempts} " ++
          s!"attempts: {failure.message}")
      else
        Traced.log .debug
          s!"Operation '{name}' failed with non-retryable error: {failure.message}"
      return .error failure

/-- Pauses behind an attempt that failed for a transient reason. -/
def pauseBehind (settings : RetrySettings) (draw : Nat → Nat) (name : String)
    (attempt : Nat) (failure : Failure) : Traced κ Unit := do
  let pause := settings.pause (draw attempt) attempt
  Traced.log .warn (s!"Operation '{name}' failed on attempt " ++
    s!"{attempt}/{settings.attempts}, retrying in {pause.brief}: {failure.message}")
  Traced.sleep pause

/-- Attempts an operation, and up to `left` times more if need be. -/
def attemptFrom (settings : RetrySettings) (draw : Nat → Nat) (name : String)
    (operation : Nat → Action κ α) (attempt : Nat) :
    (left : Nat) → Traced κ (Except Failure α)
  | 0 => do
      conclude settings name attempt (← (operation attempt).run)
  | left + 1 => do
      match ← (operation attempt).run with
      | .ok result => conclude settings name attempt (.ok result)
      | .error failure =>
          if failure.isTransient then do
            pauseBehind settings draw name attempt failure
            attemptFrom settings draw name operation (attempt + 1) left
          else conclude settings name attempt (.error failure)

end Retry

/-- Attempts an operation as often as the settings allow.  The operation is told
the number of its attempt, from one. -/
def withRetry (settings : RetrySettings) (draw : Nat → Nat) (name : String)
    (operation : Nat → Action κ α) : Action κ α :=
  ExceptT.mk (Retry.attemptFrom settings draw name operation 1 (settings.attempts - 1))

end EditorLaunch
