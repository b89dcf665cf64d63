import EditorLaunch.Duration.Basic
import EditorLaunch.Failure

/-!
# Traces

What a computation does to the world is written down step by step: calls that it
starts, messages that it logs, and time that passes.  The result stands behind
the steps.  A deadline cuts a trace: steps that begin by then are kept, and the
result is lost if the steps take longer.

A wait is the time that passes, whatever for.  Sleeping and deadlines are up to timers,
which go off in whole milliseconds; at the one of a deadline the computation comes
first, so that what ends in the same millisecond is not cut.
-/

namespace EditorLaunch

/-- How much a log message matters. -/
inductive Level where
  | error
  | warn
  | info
  | debug
  | trace
deriving DecidableEq, Repr

/-- A log message. -/
structure Event where
  level : Level
  message : String
deriving DecidableEq, Repr

/-- One step of a computation. -/
inductive Step (κ : Type) where
  | started (call : κ)
  | logged (event : Event)
  | waited (time : Duration)
deriving DecidableEq, Repr

/-- The time that a step takes, in nanoseconds. -/
def Step.nanoseconds : Step κ → Nat
  | waited time => time.nanoseconds
  | _ => 0

/-- The same step, with its call taken for another one. -/
def Step.mapCall (view : κ → ι) : Step κ → Step ι
  | started call => .started (view call)
  | logged event => .logged event
  | waited time => .waited time

/-- A result and the steps that led to it. -/
structure Traced (κ : Type) (α : Type) where
  steps : List (Step κ)
  result : α

namespace Traced

instance : Monad (Traced κ) where
  pure result := ⟨[], result⟩
  bind before next :=
    let after := next before.result
    ⟨before.steps ++ after.steps, after.result⟩

def start (call : κ) : Traced κ Unit :=
  ⟨[.started call], ()⟩

def log (level : Level) (message : String) : Traced κ Unit :=
  ⟨[.logged ⟨level, message⟩], ()⟩

def wait (time : Duration) : Traced κ Unit :=
  ⟨[.waited time], ()⟩

/-- Waits until a timer goes off. -/
def sleep (time : Duration) : Traced κ Unit :=
  wait (.saturating time.timer)

/-- The same trace, with its calls taken for others. -/
def mapCalls (view : κ → ι) (traced : Traced κ α) : Traced ι α :=
  ⟨traced.steps.map (Step.mapCall view), traced.result⟩

def calls (traced : Traced κ α) : List κ :=
  traced.steps.filterMap fun
    | .started call => some call
    | _ => none

def events (traced : Traced κ α) : List Event :=
  traced.steps.filterMap fun
    | .logged event => some event
    | _ => none

/-- The time that a trace takes, in nanoseconds. -/
def nanoseconds (traced : Traced κ α) : Nat :=
  traced.steps.foldr (fun step rest => step.nanoseconds + rest) 0

/-- The steps that begin within the time that is left.  A wait that ends exactly
with the time is kept, and so is what follows it at once. -/
def stepsWithin (left : Nat) : List (Step κ) → List (Step κ)
  | [] => []
  | step :: rest =>
      if step.nanoseconds ≤ left then step :: stepsWithin (left - step.nanoseconds) rest
      else []

/-- The trace up to the timer of a deadline, with no result if it takes longer. -/
def within (deadline : Duration) (traced : Traced κ α) : Traced κ (Option α) :=
  if traced.nanoseconds ≤ deadline.timer then ⟨traced.steps, some traced.result⟩
  else ⟨stepsWithin deadline.timer traced.steps, none⟩

end Traced

/-- A traced computation that may fail. -/
abbrev Action (κ : Type) (α : Type) : Type :=
  ExceptT Failure (Traced κ) α

namespace Action

def start (call : κ) : Action κ Unit :=
  ExceptT.lift (Traced.start call)

def log (level : Level) (message : String) : Action κ Unit :=
  ExceptT.lift (Traced.log level message)

def sleep (time : Duration) : Action κ Unit :=
  ExceptT.lift (Traced.sleep time)

/-- The same computation, with its calls taken for others. -/
def mapCalls (view : κ → ι) (action : Action κ α) : Action ι α :=
  ExceptT.mk (action.run.mapCalls view)

/-- An outcome that is known already. -/
def settle (outcome : Except Failure α) : Action κ α :=
  ExceptT.mk (pure outcome)

/-- Rewords the failure of a computation. -/
def mapFailure (reword : Failure → Failure) (action : Action κ α) : Action κ α :=
  ExceptT.mk do
    match ← action.run with
    | .ok result => return .ok result
    | .error failure => return .error (reword failure)

end Action

end EditorLaunch
