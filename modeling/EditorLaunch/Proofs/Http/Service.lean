import EditorLaunch.Http.Service
import EditorLaunch.Proofs.Trace

/-!
# What the service adds to an answer

Around the answer of a route the service keeps a log, watches the time and adds
headers.  None of this makes a call, and in time it leaves the status and the body
alone.
-/

namespace EditorLaunch

namespace Traced

theorem within_of_le {deadline : Duration} {traced : Traced κ α}
    (inTime : traced.nanoseconds ≤ deadline.timer) :
    traced.within deadline = ⟨traced.steps, some traced.result⟩ := by
  rw [within, if_pos inTime]

end Traced

namespace Http

namespace Response

@[simp]
theorem status_withHeaders (response : Response) (headers : List (String × String)) :
    (response.withHeaders headers).status = response.status :=
  rfl

@[simp]
theorem body_withHeaders (response : Response) (headers : List (String × String)) :
    (response.withHeaders headers).body = response.body :=
  rfl

/-- The form in which a response leaves the service: with the headers of every
answer, and without its body if only its head was asked for. -/
def leaving (response : Response) (method : String) : Response :=
  let shared := (response.withHeaders labels).withHeaders sharing
  if method = "HEAD" then shared.withoutBody else shared

@[simp]
theorem status_leaving (response : Response) (method : String) :
    (response.leaving method).status = response.status := by
  unfold leaving
  split
  · rfl
  · rfl

@[simp]
theorem body_leaving (response : Response) (method : String) :
    (response.leaving method).body = if method = "HEAD" then "" else response.body := by
  unfold leaving
  split
  · rfl
  · rfl

theorem status_ofFailure_ne_ok (failure : Failure) : (ofFailure failure).status ≠ 200 := by
  cases failure <;> simp [ofFailure, plain, statusOf]

/-- The response to what comes of opening a file. -/
def ofOutcome : Except Failure Outcome → Response
  | .ok (.opened link) => .json 200 link.toJson
  | .ok (.denied _) => .empty 200
  | .error failure => .ofFailure failure

theorem body_ofOutcome_opened_ne_empty (link : EditorLink) :
    (ofOutcome (.ok (.opened link))).body ≠ "" := by
  intro empty
  have written : Json.Printer.value link.toJson = [] :=
    String.ofList_eq_empty_iff.mp empty
  simp [EditorLink.toJson, Json.record, Json.Printer.value] at written

end Response

namespace Service

variable {service : Service} {clock : Clock} {request : Request}

theorem onlyLogs_reject (failure : Failure) :
    (reject failure : Traced κ Response).OnlyLogs := by
  unfold reject
  dsimp only
  split
  · exact (Traced.onlyLogs_log _ _).bind (Traced.onlyLogs_pure _)
  · exact (Traced.onlyLogs_log _ _).bind (Traced.onlyLogs_pure _)

@[simp]
theorem calls_reject (failure : Failure) : (reject failure : Traced κ Response).calls = [] :=
  (onlyLogs_reject failure).calls_eq

@[simp]
theorem result_reject (failure : Failure) :
    (reject failure : Traced κ Response).result = .ofFailure failure := by
  unfold reject
  by_cases severe : 500 ≤ (Response.ofFailure failure).status
  · simp [severe]
  · simp [severe]

theorem onlyLogs_logCompletion (response : Response) :
    (logCompletion response : Traced κ Unit).OnlyLogs := by
  unfold logCompletion
  split
  · exact Traced.onlyLogs_log _ _
  · exact Traced.onlyLogs_log _ _

@[simp]
theorem calls_logCompletion (response : Response) :
    (logCompletion response : Traced κ Unit).calls = [] :=
  (onlyLogs_logCompletion response).calls_eq

theorem calls_openTarget (caller : Caller) (target : FileTarget) :
    (service.openTarget clock caller target).calls =
      (service.opener.openFile clock target caller).run.calls := by
  unfold openTarget
  simp only [Traced.calls_bind, Traced.calls_log, List.nil_append]
  split
  · simp
  · simp
  · simp

theorem result_openTarget (caller : Caller) (target : FileTarget) :
    (service.openTarget clock caller target).result =
      .ofOutcome (service.opener.openFile clock target caller).run.result := by
  unfold openTarget
  simp only [Traced.result_bind]
  split
  · rename_i link outcome
    rw [outcome]
    rfl
  · rename_i reason outcome
    rw [outcome]
    rfl
  · rename_i failure outcome
    rw [outcome, result_reject]
    rfl

/-- A request does nothing but log, or it is one of a known caller to open a file. -/
theorem handleOpen_cases (service : Service) (clock : Clock) (request : Request) :
    (service.handleOpen clock request).OnlyLogs ∨
      ∃ caller target, callerOf request.headers service.settings.auth = .ok caller ∧
        service.handleOpen clock request = service.openTarget clock caller target := by
  unfold handleOpen
  split
  · exact .inl (onlyLogs_reject _)
  · rename_i caller known
    split
    · exact .inl (Traced.onlyLogs_pure _)
    · split
      · exact .inl (onlyLogs_reject _)
      · exact .inr ⟨caller, _, known, rfl⟩

theorem dispatch_cases (service : Service) (clock : Clock) (request : Request) :
    (service.dispatch clock request).OnlyLogs ∨
      ∃ caller target, callerOf request.headers service.settings.auth = .ok caller ∧
        service.dispatch clock request = service.openTarget clock caller target := by
  unfold dispatch
  split
  · exact .inl (Traced.onlyLogs_pure _)
  · rename_i route routed
    split
    · cases route with
      | openFile => exact handleOpen_cases service clock request
      | health => exact .inl (Traced.onlyLogs_pure _)
      | live => exact .inl (Traced.onlyLogs_pure _)
    · exact .inl (Traced.onlyLogs_pure _)

/-- What stands around the answer of a route: messages in front of it and behind it,
and the headers with which it leaves. -/
def surround (method : String) (inner : Traced Call Response) : Traced Call Response := do
  Traced.log .info "HTTP request started"
  let response ← inner
  logCompletion (response.withHeaders Response.labels)
  return response.leaving method

theorem serve_of_ne_options (notOptions : request.method ≠ "OPTIONS") :
    service.serve clock request =
      surround request.method (service.dispatchInTime clock request) := by
  rw [serve, if_neg notOptions]
  rfl

@[simp]
theorem calls_surround (method : String) (inner : Traced Call Response) :
    (surround method inner).calls = inner.calls := by
  simp [surround]

@[simp]
theorem result_surround (method : String) (inner : Traced Call Response) :
    (surround method inner).result = inner.result.leaving method :=
  rfl

/-- An answer that comes in time is passed on. -/
theorem dispatchInTime_of_le
    (inTime : (service.dispatch clock request).nanoseconds ≤
      service.settings.web.requestTimeout.timer) :
    service.dispatchInTime clock request = service.dispatch clock request := by
  unfold dispatchInTime
  generalize service.dispatch clock request = traced at inTime ⊢
  simp only [Traced.within_of_le inTime]
  change Traced.mk (traced.steps ++ []) traced.result = traced
  rw [List.append_nil]

theorem serve_get_eq (get : request.method = "GET")
    (inTime : (service.dispatch clock request).nanoseconds ≤
      service.settings.web.requestTimeout.timer) :
    (service.serve clock request).calls = (service.dispatch clock request).calls ∧
      (service.serve clock request).result =
        ((service.dispatch clock request).result.withHeaders Response.labels).withHeaders
          Response.sharing := by
  have notOptions : request.method ≠ "OPTIONS" := by rw [get]; decide
  have notHead : request.method ≠ "HEAD" := by rw [get]; decide
  rw [serve_of_ne_options notOptions, dispatchInTime_of_le inTime]
  simp [Response.leaving, notHead]

theorem dispatch_of_asked {route : Route} (routed : service.route? request = some route)
    (asked : asks request.method = true) :
    service.dispatch clock request = service.handle clock route request := by
  rw [dispatch, routed]
  exact if_pos asked

theorem dispatch_of_unasked {route : Route} (routed : service.route? request = some route)
    (unasked : asks request.method = false) :
    service.dispatch clock request =
      pure ((Response.empty 405).withHeaders [Response.allowHeader]) := by
  rw [dispatch, routed]
  simp only [unasked, Bool.false_eq_true, if_false]

theorem dispatch_of_unrouted (unrouted : service.route? request = none) :
    service.dispatch clock request = pure (.empty 404) := by
  rw [dispatch, unrouted]

theorem dispatch_get_openFile (get : request.method = "GET")
    (routed : service.route? request = some .openFile) :
    service.dispatch clock request = service.handleOpen clock request := by
  have asked : asks request.method = true := by rw [get]; decide
  exact dispatch_of_asked routed asked

end Service

end Http

end EditorLaunch
