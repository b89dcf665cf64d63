import EditorLaunch.Outbound.Network
import EditorLaunch.Proofs.Outbound.Finality
import EditorLaunch.Proofs.Settings.Budget
import Mathlib.Algebra.Group.Nat.Defs

/-!
# The time that requests to other services take

A pause is never longer than the longest one that the settings reckon with, and a
repeated request makes no more attempts and no more pauses than they do.  What the
pauses grow by does not matter for this: whatever floating point makes of it, it is
cut off at the limit.
-/

namespace EditorLaunch

theorem roundedToDouble_of_le {number : Nat} (small : number ≤ 2 ^ 53) :
    roundedToDouble number = number := by
  have power : 2 ^ 53 = 0x20000000000000 := by decide
  rw [power] at small
  rcases Nat.lt_or_eq_of_le small with below | rfl
  · rw [roundedToDouble, if_pos below]
  · decide

namespace RetrySettings

variable {settings : RetrySettings}

theorem plannedDelay_le_delayLimit (attempt : Nat) :
    settings.plannedDelay attempt ≤ settings.delayLimit := by
  unfold plannedDelay
  dsimp only
  split
  · exact Nat.le_refl _
  · exact Nat.min_le_right _ _

theorem delayLimit_le (small : settings.maxDelay.milliseconds ≤ 2 ^ 53) :
    settings.delayLimit ≤ settings.maxDelay.milliseconds := by
  rw [delayLimit, roundedToDouble_of_le small]
  exact Nat.min_le_left _ _

/-- No pause is longer than the settings reckon with. -/
theorem nanoseconds_pause_le (small : settings.maxDelay.milliseconds ≤ 2 ^ 53)
    (draw attempt : Nat) :
    (settings.pause draw attempt).nanoseconds ≤ settings.exactPause := by
  have planned : settings.plannedDelay attempt ≤ settings.maxDelay.nanoseconds / 1000000 :=
    Nat.le_trans (plannedDelay_le_delayLimit attempt) (delayLimit_le small)
  have drawn : draw % (settings.plannedDelay attempt / 4 + 1) ≤
      settings.plannedDelay attempt / 4 :=
    Nat.le_of_lt_succ (Nat.mod_lt _ (Nat.succ_pos _))
  rw [pause, Duration.ofMilliseconds, Duration.nanoseconds_saturating, exactPause]
  refine Nat.le_trans (Nat.min_le_left _ _) ?_
  by_cases jitters : settings.jitter = true
  · simp only [if_pos jitters]
    omega
  · simp only [if_neg jitters]
    omega

end RetrySettings

/-- A repeated operation takes no longer than the settings reckon with. -/
theorem nanoseconds_withRetry_le {settings : RetrySettings} {draw : Nat → Nat} {name : String}
    {operation : Nat → Action κ α} {timeout : Duration}
    (small : settings.maxDelay.milliseconds ≤ 2 ^ 53)
    (prompt : ∀ attempt, (operation attempt).run.nanoseconds ≤ timeout.nanoseconds) :
    (withRetry settings draw name operation).run.nanoseconds ≤
      settings.exactWorstCase timeout := by
  have bounded := Retry.nanoseconds_attemptFrom_le settings draw name operation prompt
    (fun attempt => RetrySettings.nanoseconds_pause_le small (draw attempt) attempt) 1
    (settings.attempts - 1)
  rw [settings.attempts_sub_one_add_one] at bounded
  exact bounded

namespace Outbound

/-- The time that an attempt takes, with all requests that replies lead to. -/
def Journey.nanoseconds (journey : Journey) : Nat :=
  (journey.first :: journey.hops).foldr (fun leg rest => leg.elapsed.nanoseconds + rest) 0

theorem Journey.nanoseconds_of_stay (leg : Leg) (outcome : Except TransportFailure Reply) :
    Journey.nanoseconds ⟨leg, [], outcome⟩ = leg.elapsed.nanoseconds :=
  Nat.add_zero _

/-- A line repeats requests as settings say, and each attempt keeps to a timeout. -/
structure Line.Keeps (line : Line) (retry : RetrySettings) (timeout : Duration) : Prop where
  repeats : line.retry = retry
  prompt : ∀ attempt request,
    (line.journey attempt request).nanoseconds ≤ timeout.nanoseconds

theorem Journey.nanoseconds_travel (journey : Journey) :
    journey.travel.run.nanoseconds = journey.nanoseconds := by
  have behind (hops : List Leg) :
      (hops.flatMap (Leg.steps .followed)).foldr (fun step rest => step.nanoseconds + rest) 0 =
        hops.foldr (fun leg rest => leg.elapsed.nanoseconds + rest) 0 := by
    induction hops with
    | nil => rfl
    | cons hop others ih =>
        rw [List.flatMap_cons, Traced.nanoseconds_append, ih, List.foldr_cons]
        simp [Leg.steps, Step.nanoseconds]
  rw [Journey.nanoseconds, List.foldr_cons, ← behind]
  exact (Traced.nanoseconds_append _ _ 0).trans (by simp [Leg.steps, Step.nanoseconds])

theorem Line.Keeps.nanoseconds_sendOnce_le {line : Line} {retry : RetrySettings}
    {timeout : Duration} (keeps : line.Keeps retry timeout) (draft : Draft) (attempt : Nat) :
    (line.sendOnce draft attempt).run.nanoseconds ≤ timeout.nanoseconds := by
  cases built : draft.build with
  | error cause =>
      rw [Traced.nanoseconds, steps_sendOnce_of_unbuilt built]
      exact Nat.zero_le _
  | ok request =>
      rw [Traced.nanoseconds, steps_sendOnce_of_built built]
      exact Nat.le_trans (Nat.le_of_eq (Journey.nanoseconds_travel _))
        (keeps.prompt attempt request)

section

variable {retry : RetrySettings} {timeout : Duration}

theorem Line.Keeps.nanoseconds_send_le {line : Line} (keeps : line.Keeps retry timeout)
    (small : retry.maxDelay.milliseconds ≤ 2 ^ 53) (name : String) (draft : Draft)
    {read : Reply → Action Outgoing α} (reads : ∀ reply, (read reply).run.OnlyLogs) :
    (line.send name draft read).run.nanoseconds ≤ retry.exactWorstCase timeout := by
  have prompt := keeps.nanoseconds_sendOnce_le draft
  obtain ⟨rfl, -⟩ := keeps
  refine nanoseconds_withRetry_le small fun attempt => ?_
  exact Action.nanoseconds_bind_le (prompt attempt)
    fun reply => Nat.le_of_eq (reads reply).nanoseconds_eq

theorem GatewayClient.nanoseconds_stat_le {client : GatewayClient}
    (keeps : client.line.Keeps retry timeout)
    (small : retry.maxDelay.milliseconds ≤ 2 ^ 53) (reference : Reference)
    (token : String) :
    (client.stat reference token).run.nanoseconds ≤ retry.exactWorstCase timeout := by
  refine Action.nanoseconds_bind_le_of_onlyLogs (Action.onlyLogs_log _ _) fun _ => ?_
  rw [Action.nanoseconds_bind_of_onlyLogs _ fun _ => Action.onlyLogs_settle _,
    Action.nanoseconds_mapFailure]
  exact keeps.nanoseconds_send_le small _ _ (onlyLogs_readStat reference)

theorem BridgeClient.nanoseconds_fetchCatalogue_le {client : BridgeClient}
    (keeps : client.line.Keeps retry timeout)
    (small : retry.maxDelay.milliseconds ≤ 2 ^ 53) :
    client.fetchCatalogue.run.nanoseconds ≤ retry.exactWorstCase timeout := by
  rw [fetchCatalogue, Action.nanoseconds_bind_of_onlyLogs _ fun _ =>
    Action.onlyLogs_bind (Action.onlyLogs_log _ _) fun _ => Action.onlyLogs_pure _,
    Action.nanoseconds_mapFailure]
  exact keeps.nanoseconds_send_le small _ _ onlyLogs_readCatalogue

theorem BridgeClient.nanoseconds_openSession_le {client : BridgeClient}
    (keeps : client.line.Keeps retry timeout)
    (small : retry.maxDelay.milliseconds ≤ 2 ^ 53) (request : SessionRequest)
    (token : String) :
    (client.openSession request token).run.nanoseconds ≤ retry.exactWorstCase timeout := by
  refine Action.nanoseconds_bind_le_of_onlyLogs (Action.onlyLogs_log _ _) fun _ => ?_
  rw [Action.nanoseconds_mapFailure]
  exact keeps.nanoseconds_send_le small _ _ onlyLogs_readSession

end

/-- A line to each of the calls that a request for a file may make. -/
structure Lines where
  stat : Line
  catalogue : Line
  session : Line

/-- The services behind this one, where each call has a line of its own. -/
def backendOver (settings : Settings) (lines : Lines) : Backend :=
  let bridge (line : Line) : BridgeClient :=
    ⟨settings.bridge.host, settings.bridge.secret, line⟩
  { stat := (⟨settings.gateway.address, lines.stat⟩ : GatewayClient).stat
    fetchCatalogue := (bridge lines.catalogue).fetchCatalogue
    openSession := (bridge lines.session).openSession }

theorem backend_eq_backendOver (settings : Settings) (draw : Nat → Nat)
    (redirection : Redirection) (scripts : Scripts) :
    backend settings draw redirection scripts =
      backendOver settings
        { stat := ⟨settings.retry, draw, redirection, scripts.stat⟩
          catalogue := ⟨settings.retry, draw, redirection, scripts.catalogue⟩
          session := ⟨settings.retry, draw, redirection, scripts.session⟩ } :=
  rfl

/-- All lines repeat requests as the settings say, and their attempts keep to the
timeouts of the settings. -/
structure Lines.Keep (lines : Lines) (settings : Settings) : Prop where
  stat : lines.stat.Keeps settings.retry settings.gateway.requestTimeout
  catalogue : lines.catalogue.Keeps settings.retry settings.bridge.requestTimeout
  session : lines.session.Keeps settings.retry settings.bridge.requestTimeout

end Outbound

end EditorLaunch
