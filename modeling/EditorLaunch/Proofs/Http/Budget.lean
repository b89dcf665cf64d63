import EditorLaunch.Proofs.Http.Deadline
import EditorLaunch.Proofs.Outbound.Budget
import EditorLaunch.Proofs.Settings.Workable

/-!
# Requests that end in time

Opening a file takes no longer than the three calls that it makes.  With sound
settings these end before the service gives up on the request, as long as each attempt
keeps to the time that it may take: then no request is ever cut off.
-/

namespace EditorLaunch

/-- Asking a service takes the time that the service takes. -/
theorem Action.nanoseconds_start_relay (call : Call) (relayed : Action Outgoing α) :
    (start call >>= fun _ => relayed.mapCalls Call.send).run.nanoseconds =
      relayed.run.nanoseconds := by
  rw [nanoseconds_bind_of_ok _ (result_start call), nanoseconds_mapCalls]
  exact Nat.zero_add _

namespace Opener

variable {opener : Opener} {clock : Clock} {target : FileTarget} {caller : Caller}

/-- Opening a file takes no longer than its three calls may take. -/
theorem nanoseconds_openFile_le {statTime catalogueTime sessionTime : Nat}
    (statLe : ∀ reference token,
      (opener.backend.stat reference token).run.nanoseconds ≤ statTime)
    (catalogueLe : opener.backend.fetchCatalogue.run.nanoseconds ≤ catalogueTime)
    (sessionLe : ∀ request token,
      (opener.backend.openSession request token).run.nanoseconds ≤ sessionTime) :
    (opener.openFile clock target caller).run.nanoseconds ≤
      statTime + (catalogueTime + sessionTime) := by
  have connects (token metadata mode address) :
      (opener.connect clock caller token metadata mode address).run.nanoseconds ≤
        sessionTime := by
    rw [connect, Action.nanoseconds_bind_of_onlyLogs _ fun _ =>
      Action.onlyLogs_bind (Action.onlyLogs_settle _) fun _ => Action.onlyLogs_pure _,
      openSession, Action.nanoseconds_start_relay]
    exact sessionLe _ token
  have launches (token metadata mode kind) :
      (opener.launch clock caller token metadata mode kind).run.nanoseconds ≤
        catalogueTime + sessionTime := by
    refine Action.nanoseconds_bind_le_of_onlyLogs (Action.onlyLogs_log _ _) fun _ =>
      Action.nanoseconds_bind_le ?_ fun catalogue =>
        Action.nanoseconds_bind_le_of_onlyLogs (Action.onlyLogs_settle _) fun address =>
          connects token metadata mode address
    rw [fetchCatalogue, Action.nanoseconds_start_relay]
    exact catalogueLe
  have opens (token metadata) :
      (opener.openFound clock caller token metadata).run.nanoseconds ≤
        catalogueTime + sessionTime := by
    refine Action.nanoseconds_bind_le_of_onlyLogs (Action.onlyLogs_settle _) fun _ => ?_
    split
    · exact Action.nanoseconds_bind_le_of_onlyLogs (Action.onlyLogs_log _ _) fun _ =>
        Nat.zero_le _
    · exact launches token metadata _ _
  refine Action.nanoseconds_bind_le_of_onlyLogs (Action.onlyLogs_settle _) fun reference =>
    Action.nanoseconds_bind_le_of_onlyLogs (opener.tokens.onlyLogs_tokenFor clock.first caller)
      fun token => Action.nanoseconds_bind_le ?_ fun metadata => opens token metadata
  rw [stat, Action.nanoseconds_start_relay]
  exact statLe reference token

end Opener

namespace Http

namespace Service

variable {service : Service} {clock : Clock} {request : Request}

theorem nanoseconds_openTarget (caller : Caller) (target : FileTarget) :
    (service.openTarget clock caller target).nanoseconds =
      (service.opener.openFile clock target caller).run.nanoseconds := by
  unfold openTarget
  simp only [Traced.nanoseconds_bind, Traced.nanoseconds_log, Nat.zero_add]
  split
  · exact Nat.add_zero _
  · exact Nat.add_zero _
  · rw [(onlyLogs_reject _).nanoseconds_eq, Nat.add_zero]

theorem nanoseconds_dispatch_le {bound : Nat}
    (opens : ∀ caller target,
      (service.opener.openFile clock target caller).run.nanoseconds ≤ bound) :
    (service.dispatch clock request).nanoseconds ≤ bound := by
  rcases dispatch_cases service clock request with quiet | ⟨caller, target, -, handled⟩
  · rw [quiet.nanoseconds_eq]
    exact Nat.zero_le _
  · rw [handled, nanoseconds_openTarget]
    exact opens caller target

/-- The requests for one file take no longer than the settings reckon with. -/
theorem nanoseconds_dispatch_le_exactBudget {settings : Settings} {lines : Outbound.Lines}
    (reached : service.opener.backend = Outbound.backendOver settings lines)
    (small : settings.retry.maxDelay.milliseconds ≤ 2 ^ 53)
    (keep : lines.Keep settings) :
    (service.dispatch clock request).nanoseconds ≤ settings.exactBudget := by
  refine nanoseconds_dispatch_le fun caller target => ?_
  rw [Settings.exactBudget, Nat.mul_two]
  refine Opener.nanoseconds_openFile_le ?_ ?_ ?_
  · rw [reached]
    exact Outbound.GatewayClient.nanoseconds_stat_le keep.stat small
  · rw [reached]
    exact Outbound.BridgeClient.nanoseconds_fetchCatalogue_le keep.catalogue small
  · rw [reached]
    exact Outbound.BridgeClient.nanoseconds_openSession_le keep.session small

/-- A line on which nothing is ever answered: each attempt takes the four seconds that
it may take, and jitter adds as much as it can. -/
def silentLine : Outbound.Line where
  retry := {}
  draw := fun attempt => RetrySettings.plannedDelay {} attempt / 4
  redirection := .absolute
  script := fun _ _ => ⟨.ofSeconds 4, .silent .timedOut⟩

/-- A request that is not answered leads to no other. -/
theorem nanoseconds_journey_silentLine (attempt : Nat) (request : OutboundRequest) :
    (silentLine.journey attempt request).nanoseconds = 4000000000 := by
  rw [Outbound.Line.journey, Outbound.Redirection.journey_of_silent 0 rfl]
  rfl

def silentLines : Outbound.Lines :=
  ⟨silentLine, silentLine, silentLine⟩

end Service

end Http

end EditorLaunch
