import EditorLaunch.Proofs.Retry

/-!
# The record of repeated attempts

The outcomes alone settle which attempt is the last: the first one with a final
outcome, or the last that is allowed.  Everything before it failed for a transient
reason, and what is recorded follows attempt by attempt: its own steps, and then a
warning and one pause, or for the last attempt at most a message.
-/

namespace EditorLaunch

variable {κ α β : Type}

/-- The warnings that a trace logs. -/
def Traced.warnings (traced : Traced κ α) : List Event :=
  traced.events.filter (·.level = .warn)

namespace Retry

/-- Whether no other attempt follows an outcome: it is a result, or a failure that is
not transient. -/
def isFinal : Except Failure α → Bool
  | .ok _ => true
  | .error failure => !failure.isTransient

/-- The first of so many attempts whose outcome is final, or the last of them if there
is none. -/
def lastAttempt (outcomes : Nat → Except Failure α) (allowed : Nat) : Nat :=
  ((List.range' 1 allowed).find? fun attempt => isFinal (outcomes attempt)).getD allowed

/-- An operation that does nothing but note the attempt, with the outcome of its turn. -/
def noted (outcomes : Nat → Except Failure α) (attempt : Nat) : Action Nat α := do
  Action.start attempt
  Action.settle (outcomes attempt)

variable {settings : RetrySettings} {draw : Nat → Nat} {name : String}
variable {operation : Nat → Action κ α}

theorem isFinal_eq_false_iff {action : Action κ α} :
    isFinal action.run.result = false ↔ FailsTransiently action := by
  cases outcome : action.run.result with
  | ok value => simp [isFinal, FailsTransiently, outcome]
  | error failure => simp [isFinal, FailsTransiently, outcome]

theorem lastAttempt_of_isFinal {outcomes : Nat → Except Failure α} {allowed last : Nat}
    (notBefore : 1 ≤ last) (bounded : last ≤ allowed)
    (earlier : ∀ attempt, 1 ≤ attempt → attempt < last → isFinal (outcomes attempt) = false)
    (final : isFinal (outcomes last) = true) : lastAttempt outcomes allowed = last := by
  have found : (List.range' 1 allowed).find? (fun attempt => isFinal (outcomes attempt)) =
      some last := by
    rw [List.find?_range'_eq_some]
    refine ⟨final, List.mem_range'_1.mpr (by omega), fun attempt fromOne before => ?_⟩
    rw [earlier attempt fromOne before]
    rfl
  rw [lastAttempt, found]
  rfl

theorem lastAttempt_of_unsettled {outcomes : Nat → Except Failure α} {allowed : Nat}
    (unsettled : ∀ attempt, 1 ≤ attempt → attempt ≤ allowed →
      isFinal (outcomes attempt) = false) :
    lastAttempt outcomes allowed = allowed := by
  have missing : (List.range' 1 allowed).find? (fun attempt => isFinal (outcomes attempt)) =
      none := by
    rw [List.find?_range'_eq_none]
    intro attempt fromOne before
    rw [unsettled attempt fromOne (by omega)]
    rfl
  rw [lastAttempt, missing]
  rfl

/-- The attempt with which others end is settled by the outcomes. -/
theorem EndsAt.eq_lastAttempt {left last : Nat} (endsAt : EndsAt operation 1 left last) :
    last = lastAttempt (fun attempt => (operation attempt).run.result) (left + 1) := by
  have notBefore := endsAt.notBefore
  have bounded := endsAt.bounded
  have earlier : ∀ attempt, 1 ≤ attempt → attempt < last →
      isFinal (operation attempt).run.result = false := fun attempt fromOne before =>
    isFinal_eq_false_iff.mpr (endsAt.earlierFail attempt fromOne before)
  cases final : isFinal (operation last).run.result with
  | true => exact (lastAttempt_of_isFinal notBefore (by omega) earlier final).symm
  | false =>
      have isBound : last = 1 + left :=
        endsAt.ends.resolve_right fun ended => ended (isFinal_eq_false_iff.mp final)
      have unsettled : ∀ attempt, 1 ≤ attempt → attempt ≤ left + 1 →
          isFinal (operation attempt).run.result = false := by
        intro attempt fromOne upTo
        rcases Nat.lt_or_eq_of_le (show attempt ≤ last by omega) with before | rfl
        · exact earlier attempt fromOne before
        · exact final
      rw [lastAttempt_of_unsettled unsettled]
      omega

/-- The attempts of a repeated operation end with the one that its outcomes settle, and
its record is that of all attempts up to it. -/
theorem record_withRetry (settings : RetrySettings) (draw : Nat → Nat) (name : String)
    (operation : Nat → Action κ α) :
    let last := lastAttempt (fun attempt => (operation attempt).run.result) settings.attempts
    EndsAt operation 1 (settings.attempts - 1) last ∧
    (withRetry settings draw name operation).run.result = (operation last).run.result ∧
    (withRetry settings draw name operation).run.steps =
      (List.range' 1 (last - 1)).flatMap (stepsOfAttempt settings draw name operation) ++
        ((operation last).run.steps ++
          (closingEvents settings name last (operation last).run.result).map .logged) := by
  obtain ⟨last, endsAt, resultEq, stepsEq⟩ :=
    exists_last_attempt settings draw name operation 1 (settings.attempts - 1)
  have lastEq := endsAt.eq_lastAttempt
  rw [settings.attempts_sub_one_add_one] at lastEq
  rw [← lastEq]
  exact ⟨endsAt, resultEq, stepsEq⟩

/-- The calls are those of all attempts up to the last. -/
theorem calls_withRetry (settings : RetrySettings) (draw : Nat → Nat) (name : String)
    (operation : Nat → Action κ α) :
    (withRetry settings draw name operation).run.calls =
      (List.range' 1
        (lastAttempt (fun attempt => (operation attempt).run.result) settings.attempts)).flatMap
        fun attempt => (operation attempt).run.calls := by
  obtain ⟨last, endsAt, -, callsEq⟩ :=
    exists_last_attempt_withRetry settings draw name operation
  have lastEq := endsAt.eq_lastAttempt
  rw [settings.attempts_sub_one_add_one] at lastEq
  rw [callsEq, lastEq]

@[simp]
theorem result_noted (outcomes : Nat → Except Failure α) (attempt : Nat) :
    (noted outcomes attempt).run.result = outcomes attempt :=
  rfl

@[simp]
theorem calls_noted (outcomes : Nat → Except Failure α) (attempt : Nat) :
    (noted outcomes attempt).run.calls = [attempt] := by
  rw [noted, Action.calls_bind_of_ok _ (Action.result_start attempt), Action.calls_settle]
  rfl

/-- The warnings among the steps of a trace. -/
def warningsAmong (steps : List (Step κ)) : List Event :=
  (steps.filterMap Step.event?).filter (·.level = .warn)

theorem warnings_eq_warningsAmong (traced : Traced κ β) :
    traced.warnings = warningsAmong traced.steps :=
  rfl

@[simp]
theorem warningsAmong_append (first second : List (Step κ)) :
    warningsAmong (first ++ second) = warningsAmong first ++ warningsAmong second := by
  simp [warningsAmong]

theorem length_warningsAmong_stepsOfAttempt {attempt : Nat}
    (failed : FailsTransiently (operation attempt)) :
    (warningsAmong (stepsOfAttempt settings draw name operation attempt)).length =
      (operation attempt).run.warnings.length + 1 := by
  obtain ⟨failure, outcome, -⟩ := failed
  rw [stepsOfAttempt, warningsAmong_append, List.length_append, outcome]
  rfl

theorem length_warningsAmong_closingEvents (attempt : Nat) (outcome : Except Failure α) :
    (warningsAmong (κ := κ)
      ((closingEvents settings name attempt outcome).map .logged)).length =
      if isFinal outcome then 0 else 1 := by
  cases outcome with
  | ok value =>
      rw [closingEvents]
      split <;> rfl
  | error failure =>
      rw [closingEvents, isFinal]
      cases failure.isTransient <;> rfl

/-- Behind attempts that all fail for a transient reason there is one warning each. -/
theorem length_warningsAmong_flatMap {attempts : List Nat}
    (failed : ∀ attempt ∈ attempts, FailsTransiently (operation attempt)) :
    (warningsAmong (attempts.flatMap (stepsOfAttempt settings draw name operation))).length =
      (attempts.flatMap fun attempt => (operation attempt).run.warnings).length +
        attempts.countP fun attempt => !isFinal (operation attempt).run.result := by
  induction attempts with
  | nil => rfl
  | cons attempt rest ih =>
      have first := failed attempt List.mem_cons_self
      have later := ih fun other member => failed other (List.mem_cons_of_mem _ member)
      have counted : (!isFinal (operation attempt).run.result) = true := by
        rw [isFinal_eq_false_iff.mpr first]
        rfl
      rw [List.flatMap_cons, List.flatMap_cons, warningsAmong_append, List.length_append,
        List.length_append, length_warningsAmong_stepsOfAttempt first, later,
        List.countP_cons, counted, if_pos rfl]
      omega

/-- A trace with the record of attempts up to the last one has one warning for each of
them that failed for a transient reason, besides their own. -/
theorem length_warnings_of_steps {left last : Nat} {traced : Traced κ (Except Failure α)}
    (endsAt : EndsAt operation 1 left last)
    (stepsEq : traced.steps =
      (List.range' 1 (last - 1)).flatMap (stepsOfAttempt settings draw name operation) ++
        ((operation last).run.steps ++
          (closingEvents settings name last (operation last).run.result).map .logged)) :
    traced.warnings.length =
      ((List.range' 1 last).flatMap fun attempt => (operation attempt).run.warnings).length +
        (List.range' 1 last).countP
          fun attempt => !isFinal (operation attempt).run.result := by
  have earlier : ∀ attempt ∈ List.range' 1 (last - 1),
      FailsTransiently (operation attempt) := by
    intro attempt member
    have between := List.mem_range'_1.mp member
    exact endsAt.earlierFail attempt between.1 (by omega)
  have countAtLast : [last].countP (fun attempt => !isFinal (operation attempt).run.result) =
      if isFinal (operation last).run.result then 0 else 1 := by
    cases final : isFinal (operation last).run.result <;> simp [final]
  rw [warnings_eq_warningsAmong, stepsEq, warningsAmong_append, warningsAmong_append,
    List.length_append, List.length_append, length_warningsAmong_flatMap earlier,
    ← warnings_eq_warningsAmong, length_warningsAmong_closingEvents, endsAt.range'_eq,
    List.flatMap_append, List.flatMap_singleton, List.length_append, List.countP_append,
    countAtLast]
  omega

end Retry

/-- A repeated operation is attempted up to the first outcome that is a result or a
final failure, or as often as is allowed, at least once, if there is no such outcome.
The result is that of the last attempt.  Every attempt before it failed for a transient
reason and is followed by one warning and one pause, and nothing but a message stands
behind the last.  For each transient failure there is exactly one warning. -/
theorem attempts_of_withRetry (settings : RetrySettings) (draw : Nat → Nat) (name : String)
    (operation : Nat → Action κ α) :
    let outcome := fun attempt => (operation attempt).run.result
    let allowed := max 1 settings.maxAttempts.toNat
    let last := Retry.lastAttempt outcome allowed
    let run := (withRetry settings draw name operation).run
    (1 ≤ last ∧ last ≤ allowed) ∧
    (∀ attempt, 1 ≤ attempt → attempt < last →
      ∃ failure, outcome attempt = .error failure ∧ failure.isTransient = true) ∧
    (last < allowed → Retry.isFinal (outcome last) = true) ∧
    run.result = outcome last ∧
    run.steps =
      (List.range' 1 (last - 1)).flatMap (fun attempt =>
          (operation attempt).run.steps ++
            Retry.stepsBehind settings draw name attempt (outcome attempt)) ++
        ((operation last).run.steps ++
          (Retry.closingEvents settings name last (outcome last)).map .logged) ∧
    (withRetry settings draw name (Retry.noted outcome)).run.calls = List.range' 1 last ∧
    run.warnings.length =
      ((List.range' 1 last).flatMap fun attempt => (operation attempt).run.warnings).length +
        (List.range' 1 last).countP fun attempt => !Retry.isFinal (outcome attempt) := by
  intro outcome allowed last run
  have allowedEq : allowed = settings.attempts := Nat.max_comm _ _
  have lastEq : last = Retry.lastAttempt outcome settings.attempts := by
    rw [← allowedEq]
  obtain ⟨endsAt, resultEq, stepsEq⟩ :=
    Retry.record_withRetry settings draw name operation
  change Retry.EndsAt operation 1 _ (Retry.lastAttempt outcome _) at endsAt
  rw [← lastEq] at endsAt
  have notBefore := endsAt.notBefore
  have bounded := endsAt.bounded
  have counted := settings.attempts_sub_one_add_one
  refine ⟨⟨notBefore, by omega⟩, endsAt.earlierFail, ?final, ?result, ?steps, ?calls,
    ?warnings⟩
  case final =>
    intro below
    have ended := endsAt.ends.resolve_left (by omega)
    exact Bool.of_not_eq_false fun goesOn =>
      ended (Retry.isFinal_eq_false_iff.mp goesOn)
  case result =>
    rw [lastEq]
    exact resultEq
  case steps =>
    rw [lastEq]
    exact stepsEq
  case calls =>
    rw [Retry.calls_withRetry, lastEq]
    simp only [Retry.result_noted, Retry.calls_noted]
    exact List.flatMap_singleton' _
  case warnings =>
    rw [← lastEq] at stepsEq
    exact Retry.length_warnings_of_steps endsAt stepsEq

end EditorLaunch
