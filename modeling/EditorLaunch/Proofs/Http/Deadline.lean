import EditorLaunch.Proofs.Http.Admission

/-!
# The deadline of a request

A request that takes too long is cut off.  Compared with the same request without
a deadline, nothing changes if it ends by then, and if it does not, exactly the
calls that it starts by then are made.  The comparison is read off the times at
which calls start: cutting a trace keeps the calls up to a time and no others.
-/

namespace EditorLaunch

namespace Traced

variable {κ α : Type}

/-- The calls among steps, each with the time at which it starts. -/
def timedCalls (elapsed : Nat) : List (Step κ) → List (Nat × κ)
  | [] => []
  | .started call :: rest => (elapsed, call) :: timedCalls elapsed rest
  | .logged _ :: rest => timedCalls elapsed rest
  | .waited time :: rest => timedCalls (elapsed + time.nanoseconds) rest

/-- The calls that a trace starts at a deadline at the latest. -/
def callsBy (deadline : Duration) (traced : Traced κ α) : List κ :=
  ((timedCalls 0 traced.steps).filter fun call => call.1 ≤ deadline.timer).map
    Prod.snd

theorem calls_eq_map_timedCalls (elapsed : Nat) (traced : Traced κ α) :
    traced.calls = (timedCalls elapsed traced.steps).map Prod.snd := by
  obtain ⟨steps, result⟩ := traced
  simp only [calls]
  induction steps generalizing elapsed with
  | nil => rfl
  | cons step rest ih =>
      cases step with
      | started call => simp [timedCalls, ← ih elapsed]
      | logged event => simp [timedCalls, ← ih elapsed]
      | waited time => simp [timedCalls, ← ih (elapsed + time.nanoseconds)]

theorem le_of_mem_timedCalls {elapsed : Nat} {steps : List (Step κ)} {call : Nat × κ}
    (member : call ∈ timedCalls elapsed steps) : elapsed ≤ call.1 := by
  induction steps generalizing elapsed with
  | nil => simp [timedCalls] at member
  | cons step rest ih =>
      cases step with
      | started other =>
          rcases List.mem_cons.mp member with rfl | later
          · exact le_rfl
          · exact ih later
      | logged event => exact ih member
      | waited time => exact (Nat.le_add_right elapsed time.nanoseconds).trans (ih member)

theorem timedCalls_append (elapsed : Nat) (first second : List (Step κ)) :
    timedCalls elapsed (first ++ second) =
      timedCalls elapsed first ++
        timedCalls (elapsed + (Traced.mk first ()).nanoseconds) second := by
  induction first generalizing elapsed with
  | nil => rfl
  | cons step rest ih =>
      have passed : (Traced.mk (step :: rest) ()).nanoseconds =
          step.nanoseconds + (Traced.mk rest ()).nanoseconds := rfl
      rw [List.cons_append, passed, ← Nat.add_assoc]
      cases step with
      | started call => simpa [timedCalls, Step.nanoseconds] using ih elapsed
      | logged event => simpa [timedCalls, Step.nanoseconds] using ih elapsed
      | waited time =>
          simpa [timedCalls, Step.nanoseconds] using ih (elapsed + time.nanoseconds)

/-- Cutting steps keeps the calls that start by then, and no others. -/
theorem timedCalls_stepsWithin (elapsed left : Nat) (steps : List (Step κ)) :
    timedCalls elapsed (stepsWithin left steps) =
      (timedCalls elapsed steps).filter fun call => call.1 ≤ elapsed + left := by
  induction steps generalizing elapsed left with
  | nil => rfl
  | cons step rest ih =>
      cases step with
      | started call => simp [stepsWithin, Step.nanoseconds, timedCalls, ih]
      | logged event => simp [stepsWithin, Step.nanoseconds, timedCalls, ih]
      | waited time =>
          by_cases short : time.nanoseconds ≤ left
          · have regained : elapsed + time.nanoseconds + (left - time.nanoseconds) =
                elapsed + left := by omega
            simp [stepsWithin, Step.nanoseconds, timedCalls, short, ih, regained]
          · -- The wait outlasts the deadline, so every later call is too late.
            have late : ∀ call ∈ timedCalls (elapsed + time.nanoseconds) rest,
                ¬ call.1 ≤ elapsed + left := by
              intro call member
              have := le_of_mem_timedCalls member
              omega
            have cut : stepsWithin left (.waited time :: rest) = [] := if_neg short
            rw [cut, timedCalls]
            refine (List.filter_eq_nil_iff.mpr fun call member => ?_).symm
            simpa using late call member

theorem stepsWithin_isPrefix (left : Nat) (steps : List (Step κ)) :
    stepsWithin left steps <+: steps := by
  induction steps generalizing left with
  | nil => exact List.prefix_rfl
  | cons step rest ih =>
      unfold stepsWithin
      split
      · exact List.cons_prefix_cons.mpr ⟨rfl, ih _⟩
      · exact List.nil_prefix

theorem within_of_lt {deadline : Duration} {traced : Traced κ α}
    (late : deadline.timer < traced.nanoseconds) :
    traced.within deadline = ⟨stepsWithin deadline.timer traced.steps, none⟩ := by
  rw [within, if_neg (Nat.not_le.mpr late)]

theorem calls_within_of_lt {deadline : Duration} {traced : Traced κ α}
    (late : deadline.timer < traced.nanoseconds) :
    (traced.within deadline).calls = traced.callsBy deadline := by
  rw [within_of_lt late, calls_eq_map_timedCalls 0, timedCalls_stepsWithin, Nat.zero_add]
  rfl

theorem calls_within_isPrefix (deadline : Duration) (traced : Traced κ α) :
    (traced.within deadline).calls <+: traced.calls := by
  unfold within
  split
  · exact List.prefix_rfl
  · exact (stepsWithin_isPrefix _ traced.steps).filterMap _

end Traced

namespace Http

namespace Service

variable {service : Service} {clock : Clock} {request : Request}

theorem nanoseconds_surround (method : String) (inner : Traced Call Response) :
    (surround method inner).nanoseconds = inner.nanoseconds := by
  simp [surround, (onlyLogs_logCompletion _).nanoseconds_eq]

theorem callsBy_surround (deadline : Duration) (method : String)
    (inner : Traced Call Response) :
    (surround method inner).callsBy deadline = inner.callsBy deadline := by
  have behind (elapsed : Nat) (response : Response) :
      Traced.timedCalls (κ := Call) elapsed (logCompletion response).steps = [] := by
    have := Traced.calls_eq_map_timedCalls elapsed (logCompletion response : Traced Call Unit)
    rw [calls_logCompletion] at this
    exact List.map_eq_nil_iff.mp this.symm
  have same : Traced.timedCalls 0 (surround method inner).steps =
      Traced.timedCalls 0 inner.steps := by
    simp [surround, Traced.timedCalls_append, Traced.timedCalls, Traced.log, behind]
  rw [Traced.callsBy, same]
  rfl

/-- Being told that a request took too long takes no further calls. -/
theorem calls_dispatchInTime (service : Service) (clock : Clock) (request : Request) :
    (service.dispatchInTime clock request).calls =
      ((service.dispatch clock request).within
        service.settings.web.requestTimeout).calls := by
  unfold dispatchInTime
  rw [Traced.calls_bind]
  split
  · rw [Traced.calls_pure, List.append_nil]
  · simp only [Traced.calls_bind, Traced.calls_log, Traced.calls_pure, List.append_nil]

theorem result_dispatchInTime_of_lt
    (late : service.settings.web.requestTimeout.timer <
      (service.dispatch clock request).nanoseconds) :
    (service.dispatchInTime clock request).result = .plain 408 "Request timed out" := by
  unfold dispatchInTime
  simp only [Traced.result_bind, Traced.within_of_lt late, Traced.result_pure]

/-- A request makes no calls that its route does not make. -/
theorem calls_serve_isPrefix (service : Service) (clock : Clock) (request : Request) :
    (service.serve clock request).calls <+: (service.dispatch clock request).calls := by
  by_cases options : request.method = "OPTIONS"
  · rw [serve, if_pos options]
    exact List.nil_prefix
  · rw [serve_of_ne_options options, calls_surround, calls_dispatchInTime]
    exact Traced.calls_within_isPrefix _ _

/-- Answers a request as `serve` does, however long it takes. -/
def serveUntimed (service : Service) (clock : Clock) (request : Request) :
    Traced Call Response :=
  if request.method = "OPTIONS" then pure (service.preflight request)
  else surround request.method (service.dispatch clock request)

theorem serve_of_le
    (inTime : (service.dispatch clock request).nanoseconds ≤
      service.settings.web.requestTimeout.timer) :
    service.serve clock request = service.serveUntimed clock request := by
  by_cases options : request.method = "OPTIONS"
  · rw [serve, serveUntimed, if_pos options, if_pos options]
  · rw [serve_of_ne_options options, serveUntimed, if_neg options,
      dispatchInTime_of_le inTime]

/-- A service whose gateway takes a time to find nothing, and that is to answer requests
within a time. -/
def waitingService (limit time : Duration) : Service :=
  { settings := { forwardingService.settings with web := { requestTimeout := limit } }
    opener := { forwardingService.opener with
      backend := { forwardingService.opener.backend with
        stat := fun _ _ => do
          Action.sleep time
          throw (.notFound "nothing is there") } } }

/-- A service whose gateway takes longer than requests may take. -/
def slowService : Service :=
  waitingService (.ofSeconds 60) (.ofSeconds 90)

/-- A service that is to answer in the middle of the millisecond in which it does. -/
def hastyService : Service :=
  waitingService { nanoseconds := 1500000 } (.ofMilliseconds 2)

/-- A request for a file by its path that asks for the head of the response alone. -/
def headRequest : Request :=
  { method := "HEAD"
    target := ⟨"/api/v0/wopi/open".toList, some "filePath=/x".toList⟩
    headers := [⟨"x-remote-user", [0x61]⟩, ⟨"x-access-token", [0x74]⟩] }

end Service

end Http

end EditorLaunch
