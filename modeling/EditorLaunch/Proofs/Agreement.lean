import EditorLaunch.Proofs.Retry
import Mathlib.Data.List.Forall2

/-!
# Computations that agree

Two computations agree if they take the same steps, one for one: the same messages
are logged, the same time passes, and the calls are alike in a sense that is given.
What begins alike and goes on alike agrees as a whole, so that it is enough to look
at single steps.
-/

namespace EditorLaunch

variable {κ ι α β γ δ : Type}

/-- Two outcomes are the same: results that are alike, or one failure. -/
inductive SameOutcome (alike : α → β → Prop) : Except Failure α → Except Failure β → Prop where
  | ok {first : α} {second : β} (same : alike first second) :
      SameOutcome alike (.ok first) (.ok second)
  | error (failure : Failure) : SameOutcome alike (.error failure) (.error failure)

theorem sameOutcome_self (outcome : Except Failure α) : SameOutcome Eq outcome outcome := by
  cases outcome with
  | ok result => exact .ok rfl
  | error failure => exact .error failure

theorem SameOutcome.eq {first second : Except Failure α} (same : SameOutcome Eq first second) :
    first = second := by
  cases same with
  | ok same => rw [same]
  | error failure => rfl

/-- Two steps are alike up to their calls. -/
inductive Step.Alike (alike : κ → κ → Prop) : Step κ → Step κ → Prop where
  | started {call other : κ} (same : alike call other) :
      Alike alike (.started call) (.started other)
  | logged (event : Event) : Alike alike (.logged event) (.logged event)
  | waited (time : Duration) : Alike alike (.waited time) (.waited time)

/-- Two traces with the same steps, up to their calls, and results that are alike. -/
structure Traced.Agree (alike : κ → κ → Prop) (sameResult : α → β → Prop)
    (first : Traced κ α) (second : Traced κ β) : Prop where
  steps : List.Forall₂ (Step.Alike alike) first.steps second.steps
  result : sameResult first.result second.result

theorem Step.Alike.nanoseconds_eq {alike : κ → κ → Prop} {step other : Step κ}
    (same : Step.Alike alike step other) : step.nanoseconds = other.nanoseconds := by
  cases same <;> rfl

namespace Traced

variable {alike : κ → κ → Prop} {sameResult : α → β → Prop}

namespace Agree

theorem pure {first : α} {second : β} (same : sameResult first second) :
    Agree alike sameResult (Pure.pure first : Traced κ α) (Pure.pure second) :=
  ⟨.nil, same⟩

theorem start {call other : κ} (same : alike call other) :
    Agree alike Eq (Traced.start call) (Traced.start other) :=
  ⟨.cons (.started same) .nil, rfl⟩

theorem log (level : Level) (message : String) :
    Agree alike Eq (Traced.log level message) (Traced.log level message) :=
  ⟨.cons (.logged _) .nil, rfl⟩

theorem wait (time : Duration) :
    Agree alike Eq (Traced.wait time) (Traced.wait time) :=
  ⟨.cons (.waited _) .nil, rfl⟩

theorem bind {nextResult : γ → δ → Prop} {first : Traced κ α} {second : Traced κ β}
    {next : α → Traced κ γ} {other : β → Traced κ δ}
    (agree : Agree alike sameResult first second)
    (goesOn : ∀ value otherValue, sameResult value otherValue →
      Agree alike nextResult (next value) (other otherValue)) :
    Agree alike nextResult (first >>= next) (second >>= other) := by
  have behind := goesOn _ _ agree.result
  exact ⟨List.rel_append agree.steps behind.steps, behind.result⟩

/-- What only logs agrees with itself. -/
theorem of_onlyLogs {traced : Traced κ α} (quiet : traced.OnlyLogs) :
    Agree alike Eq traced traced := by
  refine ⟨List.forall₂_same.mpr fun step member => ?_, rfl⟩
  obtain ⟨event, rfl⟩ := quiet step member
  exact .logged event

theorem mapCalls {other : ι → ι → Prop} {view : κ → ι} {first : Traced κ α}
    {second : Traced κ β} (agree : Agree alike sameResult first second)
    (views : ∀ call otherCall, alike call otherCall → other (view call) (view otherCall)) :
    Agree other sameResult (first.mapCalls view) (second.mapCalls view) := by
  refine ⟨?_, agree.result⟩
  refine List.forall₂_map_left_iff.mpr (List.forall₂_map_right_iff.mpr ?_)
  refine agree.steps.imp fun step otherStep same => ?_
  cases same with
  | started same => exact .started (views _ _ same)
  | logged event => exact .logged event
  | waited time => exact .waited time

end Agree

theorem nanoseconds_eq_of_alike {steps others : List (Step κ)}
    (same : List.Forall₂ (Step.Alike alike) steps others) :
    steps.foldr (fun step rest => step.nanoseconds + rest) 0 =
      others.foldr (fun step rest => step.nanoseconds + rest) 0 := by
  induction same with
  | nil => rfl
  | cons same _ ih => simp only [List.foldr_cons, same.nanoseconds_eq, ih]

theorem alike_stepsWithin {steps others : List (Step κ)}
    (same : List.Forall₂ (Step.Alike alike) steps others) (left : Nat) :
    List.Forall₂ (Step.Alike alike) (stepsWithin left steps) (stepsWithin left others) := by
  induction same generalizing left with
  | nil => exact .nil
  | cons same _ ih =>
      unfold stepsWithin
      rw [same.nanoseconds_eq]
      split
      · exact .cons same (ih _)
      · exact .nil

namespace Agree

variable {first : Traced κ α} {second : Traced κ β}

theorem calls (agree : Agree alike sameResult first second) :
    List.Forall₂ alike first.calls second.calls := by
  refine List.rel_filterMap ?_ agree.steps
  intro step other sameStep
  cases sameStep with
  | started same => exact .some same
  | logged event => exact .none
  | waited time => exact .none

theorem events_eq (agree : Agree alike sameResult first second) :
    first.events = second.events := by
  have same : List.Forall₂ Eq first.events second.events := by
    refine List.rel_filterMap ?_ agree.steps
    intro step other sameStep
    cases sameStep with
    | started same => exact .none
    | logged event => exact .some rfl
    | waited time => exact .none
  rwa [List.forall₂_eq_eq_eq] at same

/-- A deadline cuts both traces at the same place. -/
theorem within (deadline : Duration) (agree : Agree alike sameResult first second) :
    Agree alike (Option.Rel sameResult) (first.within deadline) (second.within deadline) := by
  have sameTime : first.nanoseconds = second.nanoseconds :=
    nanoseconds_eq_of_alike agree.steps
  unfold Traced.within
  rw [sameTime]
  split
  · exact ⟨agree.steps, .some agree.result⟩
  · exact ⟨alike_stepsWithin agree.steps _, .none⟩

end Agree

end Traced

namespace Action

variable {alike : κ → κ → Prop} {same : α → β → Prop}

/-- Two computations that agree, with results that are alike or with one failure. -/
def Agree (alike : κ → κ → Prop) (same : α → β → Prop) (first : Action κ α)
    (second : Action κ β) : Prop :=
  Traced.Agree alike (SameOutcome same) first.run second.run

namespace Agree

theorem pure {first : α} {second : β} (result : same first second) :
    Agree alike same (Pure.pure first : Action κ α) (Pure.pure second) :=
  Traced.Agree.pure (.ok result)

theorem settle {first : Except Failure α} {second : Except Failure β}
    (outcome : SameOutcome same first second) :
    Agree alike same (Action.settle first : Action κ α) (Action.settle second) :=
  Traced.Agree.pure outcome

theorem throw (failure : Failure) :
    Agree alike same (MonadExcept.throw failure : Action κ α) (MonadExcept.throw failure) :=
  Traced.Agree.pure (.error failure)

theorem start {call other : κ} (sameCall : alike call other) :
    Agree alike Eq (Action.start call) (Action.start other) :=
  ⟨.cons (.started sameCall) .nil, .ok rfl⟩

theorem log (level : Level) (message : String) :
    Agree alike Eq (Action.log level message) (Action.log level message) :=
  ⟨.cons (.logged _) .nil, .ok rfl⟩

theorem of_onlyLogs {action : Action κ α} (quiet : action.run.OnlyLogs) :
    Agree alike Eq action action :=
  ⟨(Traced.Agree.of_onlyLogs quiet).steps, sameOutcome_self _⟩

theorem bind {nextSame : γ → δ → Prop} {first : Action κ α} {second : Action κ β}
    {next : α → Action κ γ} {other : β → Action κ δ} (agree : Agree alike same first second)
    (goesOn : ∀ value otherValue, same value otherValue →
      Agree alike nextSame (next value) (other otherValue)) :
    Agree alike nextSame (first >>= next) (second >>= other) := by
  refine Traced.Agree.bind agree fun outcome otherOutcome sameOutcome => ?_
  cases sameOutcome with
  | ok result => exact goesOn _ _ result
  | error failure => exact Traced.Agree.pure (.error failure)

theorem mapCalls {other : ι → ι → Prop} {view : κ → ι} {first : Action κ α}
    {second : Action κ β} (agree : Agree alike same first second)
    (views : ∀ call otherCall, alike call otherCall → other (view call) (view otherCall)) :
    Agree other same (first.mapCalls view) (second.mapCalls view) :=
  Traced.Agree.mapCalls agree views

theorem mapFailure (reword : Failure → Failure) {first : Action κ α}
    {second : Action κ β} (agree : Agree alike same first second) :
    Agree alike same (first.mapFailure reword) (second.mapFailure reword) := by
  refine Traced.Agree.bind agree fun outcome otherOutcome sameOutcome => ?_
  cases sameOutcome with
  | ok result => exact Traced.Agree.pure (.ok result)
  | error failure => exact Traced.Agree.pure (.error _)

end Agree

end Action

namespace Retry

variable {alike : κ → κ → Prop} {same : α → β → Prop}

theorem agree_conclude (settings : RetrySettings) (name : String) (attempt : Nat)
    {outcome : Except Failure α} {other : Except Failure β}
    (sameOutcome : SameOutcome same outcome other) :
    Traced.Agree alike (SameOutcome same) (conclude settings name attempt outcome)
      (conclude settings name attempt other) := by
  cases sameOutcome with
  | ok result =>
      simp only [conclude]
      split
      · exact (Traced.Agree.log _ _).bind fun _ _ _ => Traced.Agree.pure (.ok result)
      · exact Traced.Agree.pure (.ok result)
  | error failure =>
      simp only [conclude]
      split
      · exact (Traced.Agree.log _ _).bind fun _ _ _ => Traced.Agree.pure (.error failure)
      · exact (Traced.Agree.log _ _).bind fun _ _ _ => Traced.Agree.pure (.error failure)

theorem agree_pauseBehind (settings : RetrySettings) (draw : Nat → Nat) (name : String)
    (attempt : Nat) (failure : Failure) :
    Traced.Agree alike Eq (pauseBehind settings draw name attempt failure)
      (pauseBehind settings draw name attempt failure) :=
  (Traced.Agree.log _ _).bind fun _ _ _ => Traced.Agree.wait _

/-- Attempts that agree one by one are repeated equally often. -/
theorem agree_attemptFrom (settings : RetrySettings) (draw : Nat → Nat) (name : String)
    {operation : Nat → Action κ α} {other : Nat → Action κ β}
    (agree : ∀ attempt, Action.Agree alike same (operation attempt) (other attempt))
    (attempt left : Nat) :
    Traced.Agree alike (SameOutcome same)
      (attemptFrom settings draw name operation attempt left)
      (attemptFrom settings draw name other attempt left) := by
  induction left generalizing attempt with
  | zero =>
      exact Traced.Agree.bind (agree attempt) fun _ _ sameOutcome =>
        agree_conclude settings name attempt sameOutcome
  | succ left ih =>
      refine Traced.Agree.bind (agree attempt) fun outcome otherOutcome sameOutcome => ?_
      cases sameOutcome with
      | ok result => exact agree_conclude settings name attempt (.ok result)
      | error failure =>
          dsimp only
          split
          · exact (agree_pauseBehind settings draw name attempt failure).bind fun _ _ _ =>
              ih (attempt + 1)
          · exact agree_conclude settings name attempt (.error failure)

end Retry

theorem agree_withRetry {alike : κ → κ → Prop} {same : α → β → Prop}
    (settings : RetrySettings) (draw : Nat → Nat) (name : String)
    {operation : Nat → Action κ α} {other : Nat → Action κ β}
    (agree : ∀ attempt, Action.Agree alike same (operation attempt) (other attempt)) :
    Action.Agree alike same (withRetry settings draw name operation)
      (withRetry settings draw name other) :=
  Retry.agree_attemptFrom settings draw name agree 1 _

end EditorLaunch
