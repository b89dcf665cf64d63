import EditorLaunch.Proofs.Http.Deadline
import EditorLaunch.Proofs.Http.Routing

/-!
# What every answer says about itself

An answer comes from a handler, from the timeout, from a route that is not asked for
something, or from nowhere in particular if no route is found.  None of these says how
long the answer may be kept, how it may be shown, or which version gave it, and all of them
stand behind what does.  So every answer is labelled, and each label has one value.
Browsers that only ask what they may request are answered in front of all this, without
labels and whatever handlers there are.
-/

namespace EditorLaunch

namespace Http

namespace Response

/-- The values of a header in a response.  The case of its name does not matter. -/
def valuesOf (response : Response) (name : String) : List String :=
  (response.headers.filter fun header => foldName header.1 == foldName name).map (·.2)

/-- A response that has each label once. -/
structure Labelled (response : Response) : Prop where
  version : response.valuesOf "x-wopiserver-version" = ["0.1.0"]
  cacheControl : response.valuesOf "cache-control" =
    ["no-cache, no-store, must-revalidate, max-age=0"]
  pragma : response.valuesOf "pragma" = ["no-cache"]
  expires : response.valuesOf "expires" = ["0"]
  contentTypeOptions : response.valuesOf "x-content-type-options" = ["nosniff"]
  frameOptions : response.valuesOf "x-frame-options" = ["DENY"]
  referrerPolicy : response.valuesOf "referrer-policy" = ["strict-origin-when-cross-origin"]

/-- The names of headers that answers have before they are labelled. -/
def ownNames : List String :=
  ["content-type", "content-length", "allow"]

/-- A response without labels. -/
def Unlabelled (response : Response) : Prop :=
  ∀ header ∈ response.headers, header.1 ∈ ownNames

theorem unlabelled_empty (status : Nat) : (empty status).Unlabelled := by
  simp [Unlabelled, empty, lengthHeader, ownNames]

theorem unlabelled_plain (status : Nat) (body : String) : (plain status body).Unlabelled := by
  simp [Unlabelled, plain, lengthHeader, ownNames]

theorem unlabelled_json (status : Nat) (value : Json) : (json status value).Unlabelled := by
  simp [Unlabelled, json, lengthHeader, ownNames]

theorem Unlabelled.withHeaders {response : Response} {headers : List (String × String)}
    (unlabelled : response.Unlabelled) (own : ∀ header ∈ headers, header.1 ∈ ownNames) :
    (response.withHeaders headers).Unlabelled :=
  List.forall_mem_append.mpr ⟨unlabelled, own⟩

theorem unlabelled_ofOutcome (outcome : Except Failure Outcome) :
    (ofOutcome outcome).Unlabelled := by
  rcases outcome with failure | (link | reason)
  · exact unlabelled_plain _ _
  · exact unlabelled_json _ _
  · exact unlabelled_empty _

theorem valuesOf_withHeaders (response : Response) (headers : List (String × String))
    (name : String) :
    (response.withHeaders headers).valuesOf name =
      response.valuesOf name ++ valuesOf ⟨0, headers, ""⟩ name := by
  simp [valuesOf, withHeaders]

theorem valuesOf_leaving (response : Response) (method name : String) :
    (response.leaving method).valuesOf name =
      response.valuesOf name ++ valuesOf ⟨0, labels ++ sharing, ""⟩ name := by
  have shared : (response.leaving method).valuesOf name =
      ((response.withHeaders labels).withHeaders sharing).valuesOf name := by
    unfold leaving
    split
    · rfl
    · rfl
  rw [shared, ← valuesOf_withHeaders]
  simp [withHeaders]

theorem Unlabelled.valuesOf_eq_nil {response : Response} {name : String}
    (unlabelled : response.Unlabelled)
    (other : ∀ own ∈ ownNames, foldName own ≠ foldName name) : response.valuesOf name = [] := by
  rw [valuesOf, List.map_eq_nil_iff, List.filter_eq_nil_iff]
  intro header member
  simpa using other _ (unlabelled header member)

/-- Labels are put on once. -/
theorem Unlabelled.labelled_leaving {response : Response} (unlabelled : response.Unlabelled)
    (method : String) : (response.leaving method).Labelled := by
  have only {name : String} (other : ∀ own ∈ ownNames, foldName own ≠ foldName name) :
      (response.leaving method).valuesOf name = valuesOf ⟨0, labels ++ sharing, ""⟩ name := by
    rw [valuesOf_leaving, unlabelled.valuesOf_eq_nil other, List.nil_append]
  constructor
  · exact (only (by decide)).trans (by decide)
  · exact (only (by decide)).trans (by decide)
  · exact (only (by decide)).trans (by decide)
  · exact (only (by decide)).trans (by decide)
  · exact (only (by decide)).trans (by decide)
  · exact (only (by decide)).trans (by decide)
  · exact (only (by decide)).trans (by decide)

end Response

namespace Service

variable {service : Service} {clock : Clock} {request : Request}

/-- Who answers a request, and with what: the handler of its route in time, the timeout in
its place, a route that is not asked for something, or what stands in for missing routes. -/
inductive Produces (service : Service) (clock : Clock) (request : Request) : Response → Prop where
  | handled {route : Route} (routed : service.route? request = some route)
      (asked : asks request.method = true)
      (inTime : (service.handle clock route request).nanoseconds ≤
        service.settings.web.requestTimeout.timer) :
      Produces service clock request (service.handle clock route request).result
  | timedOut {route : Route} (routed : service.route? request = some route)
      (asked : asks request.method = true)
      (late : service.settings.web.requestTimeout.timer <
        (service.handle clock route request).nanoseconds) :
      Produces service clock request (.plain 408 "Request timed out")
  | notAsked {route : Route} (routed : service.route? request = some route)
      (unasked : asks request.method = false) :
      Produces service clock request ((Response.empty 405).withHeaders [Response.allowHeader])
  | notFound (unrouted : service.route? request = none) :
      Produces service clock request (.empty 404)

/-- Every request is answered by one of them, and only by one. -/
theorem produces_iff {response : Response} :
    service.Produces clock request response ↔
      (service.dispatchInTime clock request).result = response := by
  constructor
  · rintro (⟨routed, asked, inTime⟩ | ⟨routed, asked, late⟩ | ⟨routed, unasked⟩ | unrouted)
    · rw [← dispatch_of_asked routed asked] at inTime ⊢
      rw [dispatchInTime_of_le inTime]
    · rw [← dispatch_of_asked routed asked] at late
      exact result_dispatchInTime_of_lt late
    · rw [dispatchInTime_eq_cutOff, dispatch_of_unasked routed unasked, cutOff_pure]
      rfl
    · rw [dispatchInTime_eq_cutOff, dispatch_of_unrouted unrouted, cutOff_pure]
      rfl
  · rintro rfl
    cases routed : service.route? request with
    | none =>
        rw [dispatchInTime_eq_cutOff, dispatch_of_unrouted routed, cutOff_pure]
        exact .notFound routed
    | some route =>
        cases asked : asks request.method with
        | false =>
            rw [dispatchInTime_eq_cutOff, dispatch_of_unasked routed asked, cutOff_pure]
            exact .notAsked routed asked
        | true =>
            have handled : service.dispatch clock request = service.handle clock route request :=
              dispatch_of_asked routed asked
            by_cases inTime : (service.handle clock route request).nanoseconds ≤
                service.settings.web.requestTimeout.timer
            · rw [dispatchInTime_of_le (handled ▸ inTime), handled]
              exact .handled routed asked inTime
            · have late := Nat.not_le.mp inTime
              rw [result_dispatchInTime_of_lt (handled ▸ late)]
              exact .timedOut routed asked late

theorem unlabelled_handleOpen (service : Service) (clock : Clock) (request : Request) :
    (service.handleOpen clock request).result.Unlabelled := by
  unfold handleOpen
  split
  · rw [result_reject]
    exact Response.unlabelled_plain _ _
  · split
    · exact Response.unlabelled_plain _ _
    · split
      · rw [result_reject]
        exact Response.unlabelled_plain _ _
      · rw [result_openTarget]
        exact Response.unlabelled_ofOutcome _

theorem unlabelled_handle (service : Service) (clock : Clock) (route : Route) (request : Request) :
    (service.handle clock route request).result.Unlabelled := by
  cases route with
  | openFile => exact unlabelled_handleOpen service clock request
  | health => exact Response.unlabelled_json _ _
  | live => exact Response.unlabelled_json _ _

theorem Produces.unlabelled {response : Response}
    (produced : service.Produces clock request response) : response.Unlabelled := by
  cases produced with
  | handled routed asked inTime => exact unlabelled_handle service clock _ request
  | timedOut routed asked late => exact Response.unlabelled_plain _ _
  | notAsked routed unasked =>
      apply (Response.unlabelled_empty 405).withHeaders
      simp [Response.allowHeader, Response.ownNames]
  | notFound unrouted => exact Response.unlabelled_empty _

/-- Whoever answers a request, its answer leaves with its status and, unless only its head
was asked for, with its body, and each label is on it once.  A browser that asks what it may
request is answered without any of this: nothing is called, logged or waited for, whatever
handlers stand behind the routes. -/
theorem serve_labels (service : Service) (clock : Clock) (request : Request) :
    if request.method = "OPTIONS" then
      (service.serve clock request).steps = [] ∧
        (service.serve clock request).result = service.preflight request ∧
        ∀ handlers, service.serveBy handlers request = service.serve clock request
    else
      ∃ response, service.Produces clock request response ∧
        (∀ other, service.Produces clock request other → other = response) ∧
        (service.serve clock request).result.Labelled ∧
        (service.serve clock request).result.status = response.status ∧
        (service.serve clock request).result.body =
          if request.method = "HEAD" then "" else response.body := by
  split
  · rename_i options
    have answered : service.serve clock request = pure (service.preflight request) :=
      if_pos options
    rw [answered]
    refine ⟨Traced.steps_pure _, Traced.result_pure _, fun handlers => ?_⟩
    rw [serveBy, if_pos options]
  · rename_i notOptions
    rw [serve_of_ne_options notOptions, result_surround]
    generalize answered : (service.dispatchInTime clock request).result = response
    have produced : service.Produces clock request response := produces_iff.mpr answered
    refine ⟨response, produced, fun other otherProduced => ?_,
      produced.unlabelled.labelled_leaving request.method, response.status_leaving _,
      response.body_leaving _⟩
    exact (produces_iff.mp otherProduced).symm.trans answered

/-- A request for the head of a response alone, by someone unknown. -/
def unknownHeadRequest : Request :=
  { method := "HEAD"
    target := ⟨"/api/v0/wopi/open".toList, some "filePath=/x".toList⟩
    headers := [] }

/-- Who asks for the head of a response alone does not get the body that the handler gave. -/
theorem unknown_head_has_no_text :
    ∃ response, forwardingService.Produces .stopped unknownHeadRequest response ∧
      response.body = "Unauthenticated: missing x-remote-user header" ∧
      (forwardingService.serve .stopped unknownHeadRequest).result.status = response.status ∧
      (forwardingService.serve .stopped unknownHeadRequest).result.body ≠ response.body := by
  have produced := produces_iff.mpr
    (Eq.refl (forwardingService.dispatchInTime .stopped unknownHeadRequest).result)
  exact ⟨_, produced, by decide +kernel, by decide +kernel, by decide +kernel⟩

end Service

end Http

end EditorLaunch
