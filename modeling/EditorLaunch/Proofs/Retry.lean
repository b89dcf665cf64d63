import EditorLaunch.Proofs.Trace
import EditorLaunch.Retry

/-!
# What repeated attempts come to

Attempts go on as long as they fail for a transient reason and more of them are
allowed.  The result is that of the last attempt, each one before it failed for a
transient reason, and the steps are those of all attempts, one after the other, with
a warning and a pause behind each but the last.
-/

namespace EditorLaunch

variable {κ α : Type}

/-- A failure behind which it is worth while to attempt once more. -/
def FailsTransiently (action : Action κ α) : Prop :=
  ∃ failure, action.run.result = .error failure ∧ failure.isTransient = true

/-- Attempts that begin with `first`, and of which `left` more are allowed behind it,
end with `last`: all before it failed for a transient reason, and it did not or no
other is allowed. -/
structure Retry.EndsAt (operation : Nat → Action κ α) (first left last : Nat) : Prop where
  notBefore : first ≤ last
  bounded : last ≤ first + left
  earlierFail : ∀ earlier, first ≤ earlier → earlier < last →
    FailsTransiently (operation earlier)
  ends : last = first + left ∨ ¬ FailsTransiently (operation last)

theorem RetrySettings.attempts_sub_one_add_one (settings : RetrySettings) :
    settings.attempts - 1 + 1 = settings.attempts :=
  Nat.sub_add_cancel (Nat.le_max_right _ 1)

namespace Retry

variable (settings : RetrySettings) (draw : Nat → Nat) (name : String)
variable (operation : Nat → Action κ α)

/-- What is noted behind an attempt that another one follows: a warning with its
failure, and the pause. -/
def stepsBehind (attempt : Nat) : Except Failure α → List (Step κ)
  | .ok _ => []
  | .error failure =>
      let pause := settings.pause (draw attempt) attempt
      [.logged ⟨.warn, s!"Operation '{name}' failed on attempt " ++
          s!"{attempt}/{settings.attempts}, retrying in {pause.brief}: {failure.message}"⟩,
        .waited pause]

/-- What is noted behind the last attempt: a warning only if it failed for a transient
reason. -/
def closingEvents (attempt : Nat) : Except Failure α → List Event
  | .ok _ =>
      if 1 < attempt then
        [⟨.debug,
          s!"Operation '{name}' succeeded on attempt {attempt}/{settings.attempts}"⟩]
      else []
  | .error failure =>
      if failure.isTransient then
        [⟨.warn, s!"Operation '{name}' failed after {settings.attempts} " ++
          s!"attempts: {failure.message}"⟩]
      else
        [⟨.debug,
          s!"Operation '{name}' failed with non-retryable error: {failure.message}"⟩]

/-- The steps of an attempt that another one follows. -/
def stepsOfAttempt (operation : Nat → Action κ α) (attempt : Nat) : List (Step κ) :=
  (operation attempt).run.steps ++
    stepsBehind settings draw name attempt (operation attempt).run.result

@[simp]
theorem result_conclude (attempt : Nat) (outcome : Except Failure α) :
    (conclude settings name attempt outcome : Traced κ _).result = outcome := by
  cases outcome with
  | ok value =>
      simp only [conclude]
      split <;> rfl
  | error failure =>
      simp only [conclude]
      split <;> rfl

theorem steps_conclude (attempt : Nat) (outcome : Except Failure α) :
    (conclude settings name attempt outcome : Traced κ _).steps =
      (closingEvents settings name attempt outcome).map .logged := by
  cases outcome with
  | ok value =>
      rw [conclude, closingEvents]
      split <;> rfl
  | error failure =>
      rw [conclude, closingEvents]
      split <;> rfl

theorem onlyLogs_conclude (attempt : Nat) (outcome : Except Failure α) :
    (conclude settings name attempt outcome : Traced κ _).OnlyLogs := by
  intro step member
  rw [steps_conclude, List.mem_map] at member
  obtain ⟨event, -, rfl⟩ := member
  exact ⟨event, rfl⟩

@[simp]
theorem nanoseconds_conclude (attempt : Nat) (outcome : Except Failure α) :
    (conclude settings name attempt outcome : Traced κ _).nanoseconds = 0 :=
  (onlyLogs_conclude settings name attempt outcome).nanoseconds_eq

/-- Pauses are whole milliseconds, so that timers keep them exactly. -/
theorem sleep_pause (drawn attempt : Nat) :
    (Traced.sleep (settings.pause drawn attempt) : Traced κ Unit) =
      Traced.wait (settings.pause drawn attempt) :=
  Traced.sleep_of_dvd (Duration.dvd_ofMilliseconds (Nat.mod_lt _ (by decide)))

theorem steps_pauseBehind (attempt : Nat) (failure : Failure) :
    (pauseBehind settings draw name attempt failure : Traced κ Unit).steps =
      stepsBehind settings draw name attempt (.error failure : Except Failure α) := by
  simp only [pauseBehind, sleep_pause]
  rfl

@[simp]
theorem nanoseconds_pauseBehind (attempt : Nat) (failure : Failure) :
    (pauseBehind settings draw name attempt failure : Traced κ Unit).nanoseconds =
      (settings.pause (draw attempt) attempt).nanoseconds := by
  rw [pauseBehind, Traced.nanoseconds_bind, Traced.nanoseconds_log, Nat.zero_add, sleep_pause,
    Traced.nanoseconds_wait]

theorem calls_stepsOfAttempt (attempt : Nat) :
    (stepsOfAttempt settings draw name operation attempt).filterMap Step.call? =
      (operation attempt).run.calls := by
  rw [stepsOfAttempt, List.filterMap_append, Traced.calls_eq_filterMap]
  cases (operation attempt).run.result with
  | ok value => exact List.append_nil _
  | error failure => exact List.append_nil _

theorem calls_closingEvents (attempt : Nat) (outcome : Except Failure α) :
    ((closingEvents settings name attempt outcome).map Step.logged).filterMap
      (Step.call? (κ := κ)) = [] := by
  rw [List.filterMap_map, List.filterMap_eq_nil_iff]
  exact fun _ _ => rfl

/-- Behind an attempt that failed for a transient reason there are a pause and the
attempts that are left. -/
theorem attemptFrom_of_transient {attempt : Nat} {failure : Failure}
    (outcome : (operation attempt).run.result = .error failure)
    (transient : failure.isTransient = true) (left : Nat) :
    attemptFrom settings draw name operation attempt (left + 1) =
      (operation attempt).run >>= fun _ =>
        pauseBehind settings draw name attempt failure >>= fun _ =>
          attemptFrom settings draw name operation (attempt + 1) left := by
  rw [attemptFrom]
  apply Traced.bind_eq_of_eq
  rw [outcome]
  simp only [transient, if_true]

/-- An attempt that is the last one or does not fail for a transient reason ends it
all. -/
theorem attemptFrom_of_final {attempt left : Nat}
    (final : left = 0 ∨ ¬ FailsTransiently (operation attempt)) :
    attemptFrom settings draw name operation attempt left =
      (operation attempt).run >>= conclude settings name attempt := by
  cases left with
  | zero => rfl
  | succ left =>
      have settled := final.resolve_left (Nat.succ_ne_zero left)
      rw [attemptFrom]
      apply Traced.bind_eq_of_eq
      cases outcome : (operation attempt).run.result with
      | ok value => rfl
      | error failure =>
          have lasting : ¬ failure.isTransient = true := fun transient =>
            settled ⟨failure, outcome, transient⟩
          simp only [if_neg lasting]

variable {operation}

theorem EndsAt.refl {first left : Nat}
    (final : left = 0 ∨ ¬ FailsTransiently (operation first)) :
    EndsAt operation first left first where
  notBefore := Nat.le_refl _
  bounded := Nat.le_add_right _ _
  earlierFail := fun _ notBefore before => absurd before (Nat.not_lt.mpr notBefore)
  ends := final.imp_left fun none => by rw [none, Nat.add_zero]

theorem EndsAt.before {first left last : Nat}
    (later : EndsAt operation (first + 1) left last)
    (failed : FailsTransiently (operation first)) :
    EndsAt operation first (left + 1) last where
  notBefore := by have := later.notBefore; omega
  bounded := by have := later.bounded; omega
  earlierFail := by
    intro earlier notBefore before
    by_cases isFirst : earlier = first
    · exact isFirst ▸ failed
    · exact later.earlierFail earlier (by omega) before
  ends := later.ends.imp_left fun isLast => by omega

theorem EndsAt.range'_eq {left last : Nat} (endsAt : EndsAt operation 1 left last) :
    List.range' 1 last = List.range' 1 (last - 1) ++ [last] := by
  have notBefore := endsAt.notBefore
  have divided : List.range' 1 (last - 1 + 1) = List.range' 1 (last - 1) ++ [1 + (last - 1)] :=
    List.range'_1_concat
  rwa [Nat.sub_add_cancel notBefore, Nat.add_sub_cancel' notBefore] at divided

variable (operation)

/-- The result is that of the attempt with which they end, and the steps are those of
all attempts up to it. -/
theorem exists_last_attempt (first left : Nat) :
    ∃ last, EndsAt operation first left last ∧
      (attemptFrom settings draw name operation first left).result =
        (operation last).run.result ∧
      (attemptFrom settings draw name operation first left).steps =
        (List.range' first (last - first)).flatMap
            (stepsOfAttempt settings draw name operation) ++
          ((operation last).run.steps ++
            (closingEvents settings name last (operation last).run.result).map .logged) := by
  -- each attempt that is left begins a record of its own, one attempt later
  induction left generalizing first with
  | zero =>
      refine ⟨first, .refl (.inl rfl), ?_⟩
      rw [attemptFrom_of_final settings draw name operation (.inl rfl)]
      simp [steps_conclude]
  | succ left ih =>
      by_cases failed : FailsTransiently (operation first)
      · obtain ⟨last, endsAt, resultEq, stepsEq⟩ := ih (first + 1)
        have count : last - first = last - (first + 1) + 1 := by
          have := endsAt.notBefore
          omega
        obtain ⟨failure, outcome, transient⟩ := failed
        have unfolded :=
          attemptFrom_of_transient settings draw name operation outcome transient left
        refine ⟨last, endsAt.before ⟨failure, outcome, transient⟩, ?_, ?_⟩
        · rw [unfolded]
          exact resultEq
        · rw [unfolded, count, List.range'_succ, List.flatMap_cons, List.append_assoc, ← stepsEq,
            stepsOfAttempt, outcome, ← steps_pauseBehind]
          simp
      · refine ⟨first, .refl (.inr failed), ?_⟩
        rw [attemptFrom_of_final settings draw name operation (.inr failed)]
        simp [steps_conclude]

/-- Attempts that each take at most `longest`, with pauses of at most `pause`
between them, take no longer than all of them together. -/
theorem nanoseconds_attemptFrom_le {longest pause : Nat}
    (prompt : ∀ attempt, (operation attempt).run.nanoseconds ≤ longest)
    (pauses : ∀ attempt, (settings.pause (draw attempt) attempt).nanoseconds ≤ pause)
    (first left : Nat) :
    (attemptFrom settings draw name operation first left).nanoseconds ≤
      longest * (left + 1) + pause * left := by
  induction left generalizing first with
  | zero =>
      rw [attemptFrom_of_final settings draw name operation (.inl rfl)]
      simpa using prompt first
  | succ left ih =>
      have attempted := prompt first
      by_cases failed : FailsTransiently (operation first)
      · obtain ⟨failure, outcome, transient⟩ := failed
        have unfolded :=
          attemptFrom_of_transient settings draw name operation outcome transient left
        have paused := pauses first
        have later := ih (first + 1)
        rw [unfolded]
        simp only [Traced.nanoseconds_bind, nanoseconds_pauseBehind]
        rw [Nat.mul_succ longest, Nat.mul_succ pause]
        omega
      · rw [attemptFrom_of_final settings draw name operation (.inr failed)]
        simp only [Traced.nanoseconds_bind, nanoseconds_conclude, Nat.add_zero]
        rw [Nat.mul_succ longest]
        omega

end Retry

/-- The attempts of a repeated operation end with one of those that are allowed, and
they are counted from one. -/
theorem exists_last_attempt_withRetry (settings : RetrySettings) (draw : Nat → Nat)
    (name : String) (operation : Nat → Action κ α) :
    ∃ last, Retry.EndsAt operation 1 (settings.attempts - 1) last ∧
      (withRetry settings draw name operation).run.result =
        (operation last).run.result ∧
      (withRetry settings draw name operation).run.calls =
        (List.range' 1 last).flatMap fun attempt => (operation attempt).run.calls := by
  obtain ⟨last, endsAt, resultEq, stepsEq⟩ :=
    Retry.exists_last_attempt settings draw name operation 1 (settings.attempts - 1)
  refine ⟨last, endsAt, resultEq, ?_⟩
  change (Retry.attemptFrom settings draw name operation 1 _).calls = _
  rw [Traced.calls_eq_filterMap, stepsEq, endsAt.range'_eq, List.filterMap_append,
    List.filterMap_flatMap, List.filterMap_append, Retry.calls_closingEvents,
    List.append_nil, List.flatMap_append, List.flatMap_singleton]
  simp only [Retry.calls_stepsOfAttempt]
  rfl

end EditorLaunch
