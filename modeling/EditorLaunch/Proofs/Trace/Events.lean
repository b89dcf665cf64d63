import EditorLaunch.Proofs.Trace

/-!
# What traces log

The messages of two computations one after the other are those of the first and then
those of the second, so that what holds of all messages of both holds of all there are.
A deadline keeps no message that stands behind a time which is over later.
-/

namespace EditorLaunch

variable {κ ι α β : Type}

namespace Traced

theorem events_eq_filterMap (traced : Traced κ α) :
    traced.events = traced.steps.filterMap Step.event? :=
  rfl

@[simp]
theorem events_pure (result : α) : (pure result : Traced κ α).events = [] :=
  rfl

@[simp]
theorem events_bind (before : Traced κ α) (next : α → Traced κ β) :
    (before >>= next).events = before.events ++ (next before.result).events := by
  simp [events]

@[simp]
theorem events_log (level : Level) (message : String) :
    (log level message : Traced κ Unit).events = [⟨level, message⟩] :=
  rfl

@[simp]
theorem events_mapCalls (view : κ → ι) (traced : Traced κ α) :
    (traced.mapCalls view).events = traced.events := by
  obtain ⟨steps, result⟩ := traced
  simp only [events, mapCalls]
  induction steps with
  | nil => rfl
  | cons step rest ih => cases step <;> simp [Step.mapCall, ih]

/-- All messages that are logged have a property. -/
def Logs (holds : Event → Prop) (traced : Traced κ α) : Prop :=
  ∀ event ∈ traced.events, holds event

variable {holds : Event → Prop}

theorem logs_pure (result : α) : (pure result : Traced κ α).Logs holds := by
  rintro event ⟨⟩

theorem logs_log {level : Level} {message : String} (one : holds ⟨level, message⟩) :
    (log level message : Traced κ Unit).Logs holds := by
  intro event member
  rw [List.mem_singleton.mp member]
  exact one

theorem Logs.bind {before : Traced κ α} {next : α → Traced κ β} (first : before.Logs holds)
    (second : (next before.result).Logs holds) : (before >>= next).Logs holds := by
  intro event member
  rw [events_bind, List.mem_append] at member
  exact member.elim (first event) (second event)

theorem Logs.mapCalls {traced : Traced κ α} (logs : traced.Logs holds) (view : κ → ι) :
    (traced.mapCalls view).Logs holds := by
  rw [Logs, events_mapCalls]
  exact logs

theorem Logs.imp {traced : Traced κ α} {other : Event → Prop} (logs : traced.Logs holds)
    (implies : ∀ event, holds event → other event) : traced.Logs other :=
  fun event member => implies event (logs event member)

/-- Nothing is kept behind steps that take longer than the time that is left. -/
theorem stepsWithin_append_of_lt {left : Nat} {first : List (Step κ)} (second : List (Step κ))
    (late : left < (Traced.mk first ()).nanoseconds) :
    stepsWithin left (first ++ second) = stepsWithin left first := by
  induction first generalizing left with
  | nil => exact absurd late (Nat.not_lt_zero left)
  | cons step rest ih =>
      have takes : (Traced.mk (step :: rest) ()).nanoseconds =
          step.nanoseconds + (Traced.mk rest ()).nanoseconds := rfl
      rw [List.cons_append, stepsWithin, stepsWithin]
      by_cases begins : step.nanoseconds ≤ left
      · rw [if_pos begins, if_pos begins, ih (by omega)]
      · rw [if_neg begins, if_neg begins]

end Traced

namespace Action

variable {holds : Event → Prop}

@[simp]
theorem events_log (level : Level) (message : String) :
    (log level message : Action κ Unit).run.events = [⟨level, message⟩] :=
  rfl

@[simp]
theorem events_start (call : κ) : (start call).run.events = [] :=
  rfl

@[simp]
theorem events_settle (outcome : Except Failure α) :
    (settle outcome : Action κ α).run.events = [] :=
  rfl

@[simp]
theorem events_mapCalls (view : κ → ι) (action : Action κ α) :
    (action.mapCalls view).run.events = action.run.events :=
  Traced.events_mapCalls view action.run

@[simp]
theorem events_mapFailure (reword : Failure → Failure) (action : Action κ α) :
    (mapFailure reword action).run.events = action.run.events := by
  simp only [mapFailure, ExceptT.run, ExceptT.mk, Traced.events_bind]
  split <;> simp

theorem events_bind_of_ok {action : Action κ α} {value : α} (next : α → Action κ β)
    (succeeded : action.run.result = .ok value) :
    (action >>= next).run.events = action.run.events ++ (next value).run.events := by
  simp [run_bind_of_ok next succeeded, Traced.events]

theorem events_bind_of_error {action : Action κ α} {failure : Failure}
    (next : α → Action κ β) (failed : action.run.result = .error failure) :
    (action >>= next).run.events = action.run.events := by
  simp [run_bind_of_error next failed, Traced.events]

theorem logs_pure (value : α) : (pure value : Action κ α).run.Logs holds :=
  Traced.logs_pure _

theorem logs_throw (failure : Failure) : (throw failure : Action κ α).run.Logs holds :=
  Traced.logs_pure _

theorem logs_settle (outcome : Except Failure α) :
    (settle outcome : Action κ α).run.Logs holds :=
  Traced.logs_pure _

theorem logs_log {level : Level} {message : String} (one : holds ⟨level, message⟩) :
    (log level message : Action κ Unit).run.Logs holds :=
  Traced.logs_log one

theorem logs_bind {action : Action κ α} {next : α → Action κ β}
    (first : action.run.Logs holds)
    (second : ∀ value, action.run.result = .ok value → (next value).run.Logs holds) :
    (action >>= next).run.Logs holds := by
  intro event member
  cases outcome : action.run.result with
  | ok value =>
      rw [events_bind_of_ok next outcome, List.mem_append] at member
      exact member.elim (first event) (second value outcome event)
  | error failure =>
      rw [events_bind_of_error next outcome] at member
      exact first event member

theorem logs_mapFailure (reword : Failure → Failure) {action : Action κ α}
    (logs : action.run.Logs holds) : (mapFailure reword action).run.Logs holds := by
  rw [Traced.Logs, events_mapFailure]
  exact logs

end Action

end EditorLaunch
