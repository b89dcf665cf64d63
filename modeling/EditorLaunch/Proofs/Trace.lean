import EditorLaunch.Proofs.Duration
import EditorLaunch.Trace

/-!
# Reasoning about traces

Two computations one after the other leave the steps of the first and then those
of the second, and the second does not begin if the first one fails.  Everything
that later files say about calls, messages and time is read off these equations;
nothing there opens the monad again.
-/

namespace EditorLaunch

variable {κ ι α β : Type}

@[simp]
theorem Step.nanoseconds_mapCall (view : κ → ι) (step : Step κ) :
    (step.mapCall view).nanoseconds = step.nanoseconds := by
  cases step <;> rfl

/-- The call that a step starts. -/
def Step.call? : Step κ → Option κ
  | started call => some call
  | _ => none

/-- The message that a step logs. -/
def Step.event? : Step κ → Option Event
  | logged event => some event
  | _ => none

namespace Traced

theorem calls_eq_filterMap (traced : Traced κ α) :
    traced.calls = traced.steps.filterMap Step.call? :=
  rfl

@[simp]
theorem steps_pure (result : α) : (pure result : Traced κ α).steps = [] :=
  rfl

@[simp]
theorem result_pure (result : α) : (pure result : Traced κ α).result = result :=
  rfl

@[simp]
theorem steps_bind (before : Traced κ α) (next : α → Traced κ β) :
    (before >>= next).steps = before.steps ++ (next before.result).steps :=
  rfl

@[simp]
theorem result_bind (before : Traced κ α) (next : α → Traced κ β) :
    (before >>= next).result = (next before.result).result :=
  rfl

@[simp]
theorem calls_pure (result : α) : (pure result : Traced κ α).calls = [] :=
  rfl

@[simp]
theorem calls_bind (before : Traced κ α) (next : α → Traced κ β) :
    (before >>= next).calls = before.calls ++ (next before.result).calls := by
  simp [calls]

@[simp]
theorem calls_start (call : κ) : (start call).calls = [call] :=
  rfl

@[simp]
theorem calls_log (level : Level) (message : String) :
    (log level message : Traced κ Unit).calls = [] :=
  rfl

@[simp]
theorem calls_wait (time : Duration) : (wait time : Traced κ Unit).calls = [] :=
  rfl

/-- Whole milliseconds are slept through to the nanosecond. -/
theorem sleep_of_dvd {time : Duration} (whole : 1000000 ∣ time.nanoseconds) :
    (sleep time : Traced κ Unit) = wait time := by
  rw [sleep, Duration.timer_of_dvd whole, Duration.saturating_nanoseconds]

@[simp]
theorem result_mapCalls (view : κ → ι) (traced : Traced κ α) :
    (traced.mapCalls view).result = traced.result :=
  rfl

@[simp]
theorem calls_mapCalls (view : κ → ι) (traced : Traced κ α) :
    (traced.mapCalls view).calls = traced.calls.map view := by
  obtain ⟨steps, result⟩ := traced
  simp only [calls, mapCalls]
  induction steps with
  | nil => rfl
  | cons step rest ih => cases step <;> simp [Step.mapCall, ih]

/-- What stands behind a computation matters only at its result. -/
theorem bind_eq_of_eq {before : Traced κ α} {next other : α → Traced κ β}
    (same : next before.result = other before.result) :
    before >>= next = before >>= other := by
  change Traced.mk _ _ = Traced.mk _ _
  rw [same]

theorem nanoseconds_append (first second : List (Step κ)) (base : Nat) :
    (first ++ second).foldr (fun step rest => step.nanoseconds + rest) base =
      first.foldr (fun step rest => step.nanoseconds + rest) 0 +
        second.foldr (fun step rest => step.nanoseconds + rest) base := by
  induction first with
  | nil => simp
  | cons step rest ih =>
      simp only [List.cons_append, List.foldr_cons, ih]
      omega

@[simp]
theorem nanoseconds_pure (result : α) : (pure result : Traced κ α).nanoseconds = 0 :=
  rfl

@[simp]
theorem nanoseconds_bind (before : Traced κ α) (next : α → Traced κ β) :
    (before >>= next).nanoseconds =
      before.nanoseconds + (next before.result).nanoseconds :=
  nanoseconds_append before.steps (next before.result).steps 0

@[simp]
theorem nanoseconds_log (level : Level) (message : String) :
    (log level message : Traced κ Unit).nanoseconds = 0 :=
  rfl

@[simp]
theorem nanoseconds_wait (time : Duration) :
    (wait time : Traced κ Unit).nanoseconds = time.nanoseconds :=
  rfl

@[simp]
theorem nanoseconds_mapCalls (view : κ → ι) (traced : Traced κ α) :
    (traced.mapCalls view).nanoseconds = traced.nanoseconds := by
  simp only [nanoseconds, mapCalls, List.foldr_map, Step.nanoseconds_mapCall]

/-- Nothing is called and no time passes; at most messages are logged. -/
def OnlyLogs (traced : Traced κ α) : Prop :=
  ∀ step ∈ traced.steps, ∃ event, step = .logged event

theorem OnlyLogs.calls_eq {traced : Traced κ α} (quiet : traced.OnlyLogs) :
    traced.calls = [] := by
  rw [calls, List.filterMap_eq_nil_iff]
  intro step member
  obtain ⟨event, rfl⟩ := quiet step member
  rfl

theorem OnlyLogs.nanoseconds_eq {traced : Traced κ α} (quiet : traced.OnlyLogs) :
    traced.nanoseconds = 0 := by
  obtain ⟨steps, result⟩ := traced
  simp only [OnlyLogs, nanoseconds] at quiet ⊢
  induction steps with
  | nil => rfl
  | cons step rest ih =>
      obtain ⟨event, rfl⟩ := quiet step List.mem_cons_self
      rw [List.foldr_cons, ih fun later member => quiet later (List.mem_cons_of_mem _ member)]
      rfl

theorem onlyLogs_pure (result : α) : (pure result : Traced κ α).OnlyLogs := by
  rintro step ⟨⟩

theorem onlyLogs_log (level : Level) (message : String) :
    (log level message : Traced κ Unit).OnlyLogs := by
  intro step member
  exact ⟨_, List.mem_singleton.mp member⟩

theorem OnlyLogs.bind {before : Traced κ α} {next : α → Traced κ β}
    (quiet : before.OnlyLogs) (nextQuiet : (next before.result).OnlyLogs) :
    (before >>= next).OnlyLogs := by
  intro step member
  rw [steps_bind, List.mem_append] at member
  exact member.elim (quiet step) (nextQuiet step)

end Traced

namespace Action

/-- A computation that succeeds hands its result to the next one. -/
theorem run_bind_of_ok {action : Action κ α} {value : α} (next : α → Action κ β)
    (succeeded : action.run.result = .ok value) :
    (action >>= next).run =
      ⟨action.run.steps ++ (next value).run.steps, (next value).run.result⟩ := by
  change Traced.mk _ _ = _
  simp only [ExceptT.run] at succeeded ⊢
  rw [succeeded]
  rfl

/-- Nothing comes behind a computation that fails. -/
theorem run_bind_of_error {action : Action κ α} {failure : Failure}
    (next : α → Action κ β) (failed : action.run.result = .error failure) :
    (action >>= next).run = ⟨action.run.steps, .error failure⟩ := by
  change Traced.mk _ _ = _
  simp only [ExceptT.run] at failed ⊢
  rw [failed]
  simp [ExceptT.bindCont]

theorem result_bind (action : Action κ α) (next : α → Action κ β) :
    (action >>= next).run.result =
      action.run.result >>= fun value => (next value).run.result := by
  cases outcome : action.run.result with
  | ok value => simp only [run_bind_of_ok next outcome]; rfl
  | error failure => simp only [run_bind_of_error next outcome]; rfl

theorem result_bind_eq_ok_iff {action : Action κ α} {next : α → Action κ β} {result : β} :
    (action >>= next).run.result = .ok result ↔
      ∃ value, action.run.result = .ok value ∧ (next value).run.result = .ok result := by
  rw [result_bind]
  cases action.run.result with
  | ok value => simp [bind, Except.bind]
  | error failure => simp [bind, Except.bind]

theorem result_bind_eq_error_iff {action : Action κ α} {next : α → Action κ β}
    {failure : Failure} :
    (action >>= next).run.result = .error failure ↔
      action.run.result = .error failure ∨
        ∃ value, action.run.result = .ok value ∧
          (next value).run.result = .error failure := by
  rw [result_bind]
  cases action.run.result with
  | ok value => simp [bind, Except.bind]
  | error failure => simp [bind, Except.bind]

@[simp]
theorem result_pure (value : α) : (pure value : Action κ α).run.result = .ok value :=
  rfl

@[simp]
theorem result_throw (failure : Failure) :
    (throw failure : Action κ α).run.result = .error failure :=
  rfl

@[simp]
theorem result_settle (outcome : Except Failure α) :
    (settle outcome : Action κ α).run.result = outcome :=
  rfl

@[simp]
theorem result_start (call : κ) : (start call).run.result = .ok () :=
  rfl

@[simp]
theorem result_log (level : Level) (message : String) :
    (log level message : Action κ Unit).run.result = .ok () :=
  rfl

@[simp]
theorem result_mapFailure (reword : Failure → Failure) (action : Action κ α) :
    (mapFailure reword action).run.result = action.run.result.mapError reword := by
  simp only [mapFailure, ExceptT.run, ExceptT.mk, Traced.result_bind]
  split <;> rename_i outcome <;> rw [outcome] <;> rfl

@[simp]
theorem calls_settle (outcome : Except Failure α) :
    (settle outcome : Action κ α).run.calls = [] :=
  rfl

@[simp]
theorem calls_log (level : Level) (message : String) :
    (log level message : Action κ Unit).run.calls = [] :=
  rfl

@[simp]
theorem calls_mapFailure (reword : Failure → Failure) (action : Action κ α) :
    (mapFailure reword action).run.calls = action.run.calls := by
  simp only [mapFailure, ExceptT.run, ExceptT.mk, Traced.calls_bind]
  split <;> simp

theorem calls_bind_of_ok {action : Action κ α} {value : α} (next : α → Action κ β)
    (succeeded : action.run.result = .ok value) :
    (action >>= next).run.calls = action.run.calls ++ (next value).run.calls := by
  simp [run_bind_of_ok next succeeded, Traced.calls]

theorem calls_bind_of_error {action : Action κ α} {failure : Failure}
    (next : α → Action κ β) (failed : action.run.result = .error failure) :
    (action >>= next).run.calls = action.run.calls := by
  simp [run_bind_of_error next failed, Traced.calls]

@[simp]
theorem nanoseconds_mapCalls (view : κ → ι) (action : Action κ α) :
    (action.mapCalls view).run.nanoseconds = action.run.nanoseconds :=
  Traced.nanoseconds_mapCalls view action.run

@[simp]
theorem nanoseconds_mapFailure (reword : Failure → Failure) (action : Action κ α) :
    (mapFailure reword action).run.nanoseconds = action.run.nanoseconds := by
  simp only [mapFailure, ExceptT.run, ExceptT.mk, Traced.nanoseconds_bind]
  split <;> simp

theorem onlyLogs_pure (value : α) : (pure value : Action κ α).run.OnlyLogs :=
  Traced.onlyLogs_pure _

theorem onlyLogs_throw (failure : Failure) :
    (throw failure : Action κ α).run.OnlyLogs :=
  Traced.onlyLogs_pure _

theorem onlyLogs_settle (outcome : Except Failure α) :
    (settle outcome : Action κ α).run.OnlyLogs :=
  Traced.onlyLogs_pure _

theorem onlyLogs_log (level : Level) (message : String) :
    (log level message : Action κ Unit).run.OnlyLogs :=
  Traced.onlyLogs_log level message

theorem onlyLogs_bind {action : Action κ α} {next : α → Action κ β}
    (quiet : action.run.OnlyLogs) (nextQuiet : ∀ value, (next value).run.OnlyLogs) :
    (action >>= next).run.OnlyLogs := by
  cases outcome : action.run.result with
  | ok value =>
      rw [run_bind_of_ok next outcome]
      intro step member
      exact (List.mem_append.mp member).elim (quiet step) (nextQuiet value step)
  | error failure =>
      rw [run_bind_of_error next outcome]
      exact quiet

theorem calls_bind_of_onlyLogs (action : Action κ α) {next : α → Action κ β}
    (quiet : ∀ value, (next value).run.OnlyLogs) :
    (action >>= next).run.calls = action.run.calls := by
  cases outcome : action.run.result with
  | ok value =>
      rw [calls_bind_of_ok next outcome, (quiet value).calls_eq, List.append_nil]
  | error failure => exact calls_bind_of_error next outcome

theorem nanoseconds_bind_of_ok {action : Action κ α} {value : α} (next : α → Action κ β)
    (succeeded : action.run.result = .ok value) :
    (action >>= next).run.nanoseconds =
      action.run.nanoseconds + (next value).run.nanoseconds := by
  rw [run_bind_of_ok next succeeded]
  exact Traced.nanoseconds_append _ _ 0

theorem nanoseconds_bind_of_error {action : Action κ α} {failure : Failure}
    (next : α → Action κ β) (failed : action.run.result = .error failure) :
    (action >>= next).run.nanoseconds = action.run.nanoseconds := by
  rw [run_bind_of_error next failed]
  rfl

theorem nanoseconds_bind_of_onlyLogs (action : Action κ α) {next : α → Action κ β}
    (quiet : ∀ value, (next value).run.OnlyLogs) :
    (action >>= next).run.nanoseconds = action.run.nanoseconds := by
  cases outcome : action.run.result with
  | ok value =>
      rw [nanoseconds_bind_of_ok next outcome, (quiet value).nanoseconds_eq, Nat.add_zero]
  | error failure => exact nanoseconds_bind_of_error next outcome

/-- Two computations one after the other take no longer than both may take. -/
theorem nanoseconds_bind_le {action : Action κ α} {next : α → Action κ β}
    {first second : Nat} (firstLe : action.run.nanoseconds ≤ first)
    (secondLe : ∀ value, (next value).run.nanoseconds ≤ second) :
    (action >>= next).run.nanoseconds ≤ first + second := by
  cases outcome : action.run.result with
  | ok value =>
      rw [nanoseconds_bind_of_ok next outcome]
      exact Nat.add_le_add firstLe (secondLe value)
  | error failure =>
      rw [nanoseconds_bind_of_error next outcome]
      exact Nat.le_trans firstLe (Nat.le_add_right first second)

/-- What only logs takes no time in front of another computation. -/
theorem nanoseconds_bind_le_of_onlyLogs {action : Action κ α} {next : α → Action κ β}
    {bound : Nat} (quiet : action.run.OnlyLogs)
    (nextLe : ∀ value, (next value).run.nanoseconds ≤ bound) :
    (action >>= next).run.nanoseconds ≤ bound := by
  have both := nanoseconds_bind_le (Nat.le_of_eq quiet.nanoseconds_eq) nextLe
  rwa [Nat.zero_add] at both

end Action

end EditorLaunch
