import EditorLaunch.Proofs.Http.Budget
import EditorLaunch.Proofs.Http.Deadline
import EditorLaunch.Proofs.Http.Routing
import EditorLaunch.Proofs.Outbound.Messages

/-!
# The log of a request

The log of a request has a message in front and one at the end, which tells whether the
request went well.  Between them stand messages aside, and at most one verdict: the last
one, behind a failure that the response tells too.  A failure of the service is an error,
and any other rejects the request.  Requests that are cut off get no verdict, since it
would stand behind everything that takes time.
-/

namespace EditorLaunch

namespace Opener

variable {opener : Opener} {settings : RetrySettings} {clock : Clock} {target : FileTarget}
variable {caller : Caller}

theorem logs_tokenFor (source : TokenSource) (now : Instant) (caller : Caller) :
    (source.tokenFor now caller : Action Call String).run.Logs
      fun event => event.IsAside ∧ event.level = .debug := by
  cases source with
  | minted secret lifetime =>
      refine Action.logs_bind (Action.logs_log ⟨?_, rfl⟩) fun _ _ => Action.logs_pure _
      exact Event.isAside_of_head? 'M' (by simp [toString]) (by decide) (by decide)
  | forwarded =>
      simp only [TokenSource.tokenFor]
      split
      · exact Action.logs_pure _
      · exact Action.logs_throw _

section

variable (discreet : opener.backend.IsDiscreet settings)

include discreet

theorem logs_stat (reference : Reference) (token : String) :
    (opener.stat reference token).run.Logs Event.IsDetail := by
  refine Action.logs_bind (by simp [Traced.Logs]) fun _ _ => ?_
  exact (discreet.stat reference token).mapCalls _

theorem logs_launch (token : String) (metadata : Metadata) (mode : ViewMode)
    (kind : EditorKind) :
    (opener.launch clock caller token metadata mode kind).run.Logs Event.IsAside := by
  refine Action.logs_bind (Action.logs_log ?_) fun _ _ => ?_
  · exact Event.isAside_of_head? 'O' (by simp [toString]) (by decide) (by decide)
  refine Action.logs_bind ?_ fun _ _ => ?_
  · refine Action.logs_bind (by simp [Traced.Logs]) fun _ _ => ?_
    exact (discreet.fetchCatalogue.mapCalls _).imp fun _ detail => detail.toIsAside
  refine Action.logs_bind (Action.logs_settle _) fun _ _ => ?_
  refine Action.logs_bind ?_ fun _ _ => ?_
  · refine Action.logs_bind (by simp [Traced.Logs]) fun _ _ => ?_
    exact ((discreet.openSession _ _).mapCalls _).imp fun _ detail => detail.toIsAside
  · exact Action.logs_bind (Action.logs_settle _) fun _ _ => Action.logs_pure _

theorem logs_openFile (clock : Clock) (target : FileTarget) (caller : Caller) :
    (opener.openFile clock target caller).run.Logs Event.IsAside := by
  refine Action.logs_bind (Action.logs_settle _) fun reference _ => ?_
  refine Action.logs_bind ((logs_tokenFor _ _ _).imp fun _ aside => aside.1) fun token _ => ?_
  refine Action.logs_bind ?_ fun metadata _ => ?_
  · exact (logs_stat discreet reference token).imp fun _ detail => detail.toIsAside
  refine Action.logs_bind (Action.logs_settle _) fun _ _ => ?_
  split
  · refine Action.logs_bind (Action.logs_log ?_) fun _ _ => Action.logs_pure _
    exact Event.isAside_of_head? 'N' (by simp [toString]) (by decide) (by decide)
  · exact logs_launch discreet token metadata _ _

end

/-- The message of a refusal. -/
def refusal (metadata : Metadata) (caller : Caller) (reason : DenyReason) : Event :=
  ⟨.info, s!"Not opening {metadata.path} for {caller.principal.userId}: {reason.text}"⟩

theorem events_stat (opener : Opener) (reference : Reference) (token : String) :
    (opener.stat reference token).run.events =
      (opener.backend.stat reference token).run.events := by
  rw [stat, Action.events_bind_of_ok _ (Action.result_start _), Action.events_start,
    Action.events_mapCalls, List.nil_append]

theorem events_openFound_of_denied {token : String} {metadata : Metadata} {reason : DenyReason}
    (file : metadata.kind = .file) (refused : metadata.decide = .denied reason) :
    (opener.openFound clock caller token metadata).run.events =
      [refusal metadata caller reason] := by
  have isFile : (Action.settle metadata.ensureFile : Action Call Unit).run.result = .ok () := by
    simp [Metadata.ensureFile, file]
  rw [openFound, Action.events_bind_of_ok _ isFile, refused]
  rfl

/-- A refusal is logged once, at the end, and what stands before it warns only of attempts
that are repeated. -/
theorem exists_refusal (discreet : opener.backend.IsDiscreet settings) {reason : DenyReason}
    (denied : (opener.openFile clock target caller).run.result = .ok (.denied reason)) :
    ∃ reference token metadata before,
      opener.Finds clock target caller reference token metadata ∧
      metadata.decide = .denied reason ∧
      (opener.openFile clock target caller).run.events =
        before ++ [refusal metadata caller reason] ∧
      ∀ event ∈ before, event.level ≠ .info ∧
        (event.level = .warn → event.TellsOfRetry settings) := by
  obtain ⟨calls, outcome, run⟩ := exists_run opener clock target caller
  obtain rfl : .ok (.denied reason) = outcome :=
    denied.symm.trans (congrArg Prod.snd run.observed_eq)
  cases run with
  | @denied reference token metadata _ finds file refused =>
      refine ⟨reference, token, metadata,
        (opener.tokens.tokenFor (κ := Call) clock.first caller).run.events ++
          (opener.backend.stat reference token).run.events, finds, refused, ?_, ?_⟩
      · have named : (Action.settle target.reference : Action Call Reference).run.result =
            .ok reference := FileTarget.reference_eq_ok_iff.mpr finds.named
        have found : (opener.stat reference token).run.result = .ok metadata := by
          rw [stat, Action.result_bind_eq_ok_iff]
          exact ⟨(), rfl, finds.found⟩
        rw [openFile, Action.events_bind_of_ok _ named, Action.events_bind_of_ok _ finds.granted,
          Action.events_bind_of_ok _ found, events_openFound_of_denied file refused, events_stat]
        simp
      · intro event member
        rcases List.mem_append.mp member with inToken | inStat
        · have isDebug := (logs_tokenFor _ _ _ event inToken).2
          simp [isDebug]
        · exact ⟨(discreet.stat reference token event inStat).detailed,
            discreet.found reference token metadata finds.found event inStat⟩

end Opener

namespace Http

/-- The message with which the log of a request begins. -/
def opening : Event :=
  ⟨.info, "HTTP request started"⟩

/-- The message with which the log of a request ends. -/
def closing (status : Nat) : Event :=
  if status < 400 then ⟨.info, "HTTP request completed"⟩
  else ⟨.warn, "HTTP request completed with error"⟩

/-- The message behind a failure. -/
def verdict (failure : Failure) : Event :=
  if 500 ≤ Response.statusOf failure then ⟨.error, "Request failed: " ++ failure.message⟩
  else ⟨.warn, "Request rejected: " ++ failure.message⟩

namespace Service

variable {service : Service} {clock : Clock} {request : Request} {failure : Failure}

/-- A request to open a file fails: nobody is known to ask, no file is named, or the file
that is sought is not opened. -/
inductive FailsWith (service : Service) (clock : Clock) (request : Request) : Failure → Prop where
  | unidentified
      (unknown : ¬ request.headers.HasText service.settings.auth.userIdHeader) :
      FailsWith service clock request
        (.unauthenticated s!"missing {service.settings.auth.userIdHeader} header")
  | unnamed (identified : request.headers.HasText service.settings.auth.userIdHeader)
      (readable : OpenQuery.Readable request.pairs)
      (nameless : ∀ target, ¬ OpenQuery.Chooses request.pairs target) :
      FailsWith service clock request (.missingParameter "fileID parameter missing in request")
  | unopened {failure : Failure} (settles : service.Settles clock request (.error failure)) :
      FailsWith service clock request failure

/-- A request to open a file fails by the deadline. -/
structure FailsInTime (service : Service) (clock : Clock) (request : Request)
    (failure : Failure) : Prop where
  routed : service.route? request = some .openFile
  inTime : (service.dispatch clock request).nanoseconds ≤
    service.settings.web.requestTimeout.timer
  fails : service.FailsWith clock request failure

/-- A computation logs messages aside, and behind a failure a verdict in the end. -/
inductive Concludes (traced : Traced Call Response) : Option Failure → Prop where
  | well (aside : traced.Logs Event.IsAside) (sound : traced.result.status ≠ 500) :
      Concludes traced none
  | failing {failure : Failure} {front : Traced Call Unit} (aside : front.Logs Event.IsAside)
      (stepsEq : traced.steps = front.steps ++ [.logged (verdict failure)])
      (told : traced.result = .ofFailure failure) : Concludes traced (some failure)

theorem Seeks.unique {caller other : Caller} {target otherTarget : FileTarget}
    (seeks : service.Seeks request caller target)
    (otherSeeks : service.Seeks request other otherTarget) :
    caller = other ∧ target = otherTarget := by
  have sameCaller := seeks.known.symm.trans otherSeeks.known
  exact ⟨Except.ok.inj sameCaller, seeks.chosen.unique seeks.readable otherSeeks.chosen⟩

theorem settles_iff {caller : Caller} {target : FileTarget} {outcome : Except Failure Outcome}
    (seeks : service.Seeks request caller target) :
    service.Settles clock request outcome ↔
      (service.opener.openFile clock target caller).run.result = outcome := by
  constructor
  · rintro ⟨other, otherTarget, otherSeeks, settled⟩
    obtain ⟨rfl, rfl⟩ := seeks.unique otherSeeks
    exact settled
  · exact fun settled => ⟨caller, target, seeks, settled⟩

theorem steps_reject (failure : Failure) :
    (reject failure : Traced κ Response).steps = [.logged (verdict failure)] := by
  unfold reject verdict
  dsimp only
  change Traced.steps (if 500 ≤ Response.statusOf failure then _ else _) = _
  split
  · rfl
  · rfl

theorem concludes_reject (failure : Failure) : Concludes (reject failure) (some failure) :=
  .failing (Traced.logs_pure ()) (steps_reject failure) (result_reject failure)

theorem concludes_pure {response : Response} (sound : response.status ≠ 500) :
    Concludes (pure response) none :=
  .well (Traced.logs_pure response) sound

theorem failsWith_iff_of_unknown
    (unknown : ¬ request.headers.HasText service.settings.auth.userIdHeader) :
    service.FailsWith clock request failure ↔
      some (.unauthenticated s!"missing {service.settings.auth.userIdHeader} header") =
        some failure := by
  constructor
  · rintro (unknown | ⟨identified, -, -⟩ | ⟨caller, target, seeks, -⟩)
    · rfl
    · exact absurd identified unknown
    · exact absurd seeks.identified unknown
  · rintro ⟨⟩
    exact .unidentified unknown

theorem not_failsWith_of_unreadable
    (identified : request.headers.HasText service.settings.auth.userIdHeader)
    (unreadable : ¬ OpenQuery.Readable request.pairs) :
    ¬ service.FailsWith clock request failure := by
  rintro (unknown | ⟨-, readable, -⟩ | ⟨caller, target, seeks, -⟩)
  · exact unknown identified
  · exact unreadable readable
  · exact unreadable seeks.readable

theorem failsWith_iff_of_nameless
    (identified : request.headers.HasText service.settings.auth.userIdHeader)
    (readable : OpenQuery.Readable request.pairs)
    (nameless : ∀ target, ¬ OpenQuery.Chooses request.pairs target) :
    service.FailsWith clock request failure ↔
      some (.missingParameter "fileID parameter missing in request") = some failure := by
  constructor
  · rintro (unknown | ⟨-, -, -⟩ | ⟨caller, target, seeks, -⟩)
    · exact absurd identified unknown
    · rfl
    · exact absurd seeks.chosen (nameless target)
  · rintro ⟨⟩
    exact .unnamed identified readable nameless

theorem failsWith_iff_of_seeks {caller : Caller} {target : FileTarget}
    (seeks : service.Seeks request caller target) :
    service.FailsWith clock request failure ↔
      (service.opener.openFile clock target caller).run.result = .error failure := by
  constructor
  · rintro (unknown | ⟨-, -, nameless⟩ | settles)
    · exact absurd seeks.identified unknown
    · exact absurd seeks.chosen (nameless target)
    · exact (settles_iff seeks).mp settles
  · exact fun failed => .unopened ((settles_iff seeks).mpr failed)

/-- What opening a file ends with, if it fails. -/
def failureOf : Except Failure Outcome → Option Failure
  | .error failure => some failure
  | .ok _ => none

/-- What opening a file ends with is all that matters behind it. -/
theorem openTarget_eq (clock : Clock) (caller : Caller) (target : FileTarget) :
    service.openTarget clock caller target =
      (do
        Traced.log .debug ("Open request for " ++ target.label)
        let _ ← (service.opener.openFile clock target caller).run
        match service.opener.openFile clock target caller |>.run.result with
        | .ok outcome => pure (.ofOutcome (.ok outcome))
        | .error failure => reject failure) := by
  unfold openTarget
  apply Traced.bind_eq_of_eq
  apply Traced.bind_eq_of_eq
  rcases (service.opener.openFile clock target caller).run.result with
    failure | (link | reason)
  · rfl
  · rfl
  · rfl

theorem concludes_openTarget {settings : RetrySettings}
    (discreet : service.opener.backend.IsDiscreet settings) (clock : Clock) (caller : Caller)
    (target : FileTarget) :
    Concludes (service.openTarget clock caller target)
      (failureOf (service.opener.openFile clock target caller).run.result) := by
  have front : (Traced.log .debug ("Open request for " ++ target.label) :
      Traced Call Unit).Logs Event.IsAside :=
    Traced.logs_log (Event.isAside_of_head? 'O' (by simp) (by decide) (by decide))
  have opens := Opener.logs_openFile discreet clock target caller
  rw [openTarget_eq]
  cases (service.opener.openFile clock target caller).run.result with
  | ok outcome =>
      refine .well (front.bind (opens.bind (Traced.logs_pure _))) ?_
      cases outcome with
      | opened link => simp [Response.ofOutcome, Response.json]
      | denied reason => simp [Response.ofOutcome, Response.empty]
  | error failure =>
      have before : (do
          Traced.log .debug ("Open request for " ++ target.label)
          let _ ← (service.opener.openFile clock target caller).run
          pure () : Traced Call Unit).Logs Event.IsAside :=
        front.bind (opens.bind (Traced.logs_pure ()))
      refine .failing before ?_ (result_reject failure)
      simp [steps_reject]

theorem exists_concludes_handleOpen {settings : RetrySettings}
    (discreet : service.opener.backend.IsDiscreet settings) (clock : Clock) (request : Request) :
    ∃ failure?, Concludes (service.handleOpen clock request) failure? ∧
      ∀ failure, service.FailsWith clock request failure ↔ failure? = some failure := by
  by_cases identified : request.headers.HasText service.settings.auth.userIdHeader
  · obtain ⟨caller, known⟩ := exists_callerOf identified
    rcases handleOpen_of_known clock known with
      ⟨name, repeats, handled⟩ | ⟨readable, ⟨nameless, handled⟩ | ⟨target, chosen, handled⟩⟩
    · rw [handled]
      refine ⟨none, concludes_pure (by simp [Response.plain]), fun failure => ?_⟩
      simp [not_failsWith_of_unreadable identified repeats.not_readable]
    · rw [handled]
      exact ⟨_, concludes_reject _, fun failure =>
        failsWith_iff_of_nameless identified readable nameless⟩
    · rw [handled]
      refine ⟨_, concludes_openTarget discreet clock caller target, fun failure => ?_⟩
      rw [failsWith_iff_of_seeks ⟨identified, known, readable, chosen⟩]
      cases (service.opener.openFile clock target caller).run.result <;> simp [failureOf]
  · have handled : service.handleOpen clock request =
        reject (.unauthenticated s!"missing {service.settings.auth.userIdHeader} header") := by
      rw [handleOpen, callerOf_of_not_hasText identified]
    rw [handled]
    exact ⟨_, concludes_reject _, fun failure => failsWith_iff_of_unknown identified⟩

theorem exists_concludes_dispatch {settings : RetrySettings}
    (discreet : service.opener.backend.IsDiscreet settings) (clock : Clock)
    (get : request.method = "GET") :
    ∃ failure?, Concludes (service.dispatch clock request) failure? ∧
      ∀ failure, service.route? request = some .openFile ∧
        service.FailsWith clock request failure ↔ failure? = some failure := by
  have asked : asks request.method = true := by rw [get]; decide
  unfold dispatch
  cases routed : service.route? request with
  | none => exact ⟨none, concludes_pure (by simp [Response.empty]), by simp⟩
  | some route =>
      simp only [asked, if_true]
      cases route with
      | openFile => simpa [handle] using exists_concludes_handleOpen discreet clock request
      | health => exact ⟨none, concludes_pure (by simp [report, Response.json]), by simp⟩
      | live => exact ⟨none, concludes_pure (by simp [report, Response.json]), by simp⟩

/-- A verdict stands behind everything that takes time, so that it is cut off. -/
theorem Concludes.logs_within {traced : Traced Call Response} {failure? : Option Failure}
    (concludes : Concludes traced failure?) {limit : Duration}
    (late : limit.timer < traced.nanoseconds) :
    (traced.within limit).Logs Event.IsAside := by
  rw [Traced.within_of_lt late]
  have kept {α : Type} {front : Traced Call α} (aside : front.Logs Event.IsAside) :
      ∀ event ∈ (Traced.stepsWithin limit.timer front.steps).filterMap Step.event?,
        event.IsAside := by
    intro event member
    exact aside event (((Traced.stepsWithin_isPrefix _ front.steps).filterMap _).subset member)
  cases concludes with
  | well aside sound => exact kept aside
  | @failing failure front aside stepsEq told =>
      have takes : traced.nanoseconds = front.nanoseconds := by
        simp [Traced.nanoseconds, stepsEq, Step.nanoseconds]
      rw [stepsEq, Traced.stepsWithin_append_of_lt _ (takes ▸ late)]
      exact kept aside

theorem cutOff_of_lt {limit : Duration} {inner : Traced Call Response}
    (late : limit.timer < inner.nanoseconds) :
    cutOff limit inner =
      (do
        let _ ← inner.within limit
        Traced.log .warn ("Request timed out after " ++ limit.brief)
        return .plain 408 "Request timed out") := by
  unfold cutOff
  apply Traced.bind_eq_of_eq
  rw [Traced.within_of_lt late]

/-- A request that is cut off is logged without a verdict. -/
theorem Concludes.cutOff {inner : Traced Call Response} {failure? : Option Failure}
    (concludes : Concludes inner failure?) {limit : Duration}
    (late : limit.timer < inner.nanoseconds) : Concludes (cutOff limit inner) none := by
  have timedOut : Event.IsAside ⟨.warn, "Request timed out after " ++ limit.brief⟩ := by
    refine ⟨by simp, ?_, ?_⟩
    · rw [Event.begins, String.toList_append]
      rfl
    · rw [Event.begins, String.toList_append]
      rfl
  rw [cutOff_of_lt late]
  refine .well ((concludes.logs_within late).bind ?_) (by simp [Response.plain])
  exact (Traced.logs_log timedOut).bind (Traced.logs_pure _)

/-- A request to get something is logged with messages aside, and with a verdict if and
only if it fails by the deadline. -/
theorem exists_concludes {settings : RetrySettings}
    (discreet : service.opener.backend.IsDiscreet settings) (clock : Clock)
    (get : request.method = "GET") :
    ∃ failure?, Concludes (service.dispatchInTime clock request) failure? ∧
      ∀ failure, service.FailsInTime clock request failure ↔ failure? = some failure := by
  obtain ⟨failure?, concludes, fails⟩ := exists_concludes_dispatch discreet clock get
  by_cases inTime : (service.dispatch clock request).nanoseconds ≤
      service.settings.web.requestTimeout.timer
  · rw [dispatchInTime_of_le inTime]
    refine ⟨failure?, concludes, fun failure => ?_⟩
    rw [← fails failure]
    constructor
    · exact fun failed => ⟨failed.routed, failed.fails⟩
    · exact fun failed => ⟨failed.1, inTime, failed.2⟩
  · rw [dispatchInTime_eq_cutOff]
    refine ⟨none, concludes.cutOff (Nat.not_le.mp inTime), fun failure => ?_⟩
    simpa using fun failed : service.FailsInTime clock request failure =>
      inTime failed.inTime

theorem events_surround (method : String) (inner : Traced Call Response) :
    (surround method inner).events =
      opening :: (inner.events ++ [closing inner.result.status]) := by
  have completed : (logCompletion (inner.result.withHeaders Response.labels) :
      Traced Call Unit).events = [closing inner.result.status] := by
    unfold logCompletion closing
    rw [Response.status_withHeaders]
    by_cases refused : 400 ≤ inner.result.status
    · rw [if_pos refused, if_neg (Nat.not_lt.mpr refused)]
      rfl
    · rw [if_neg refused, if_pos (Nat.not_le.mp refused)]
      rfl
  simp [surround, completed, opening]

theorem statusOf_cases (failure : Failure) :
    Response.statusOf failure = 500 ∨
      400 ≤ Response.statusOf failure ∧ Response.statusOf failure < 500 := by
  cases failure <;> simp [Response.statusOf]

theorem verdict_of_severe (severe : Response.statusOf failure = 500) :
    verdict failure = ⟨.error, "Request failed: " ++ failure.message⟩ := by
  rw [verdict, if_pos (Nat.le_of_eq severe.symm)]

theorem verdict_of_mild (mild : Response.statusOf failure < 500) :
    verdict failure = ⟨.warn, "Request rejected: " ++ failure.message⟩ := by
  rw [verdict, if_neg (Nat.not_le.mpr mild)]

/-- A verdict is no message with which the log of a request begins or ends. -/
theorem begins_verdict (failure : Failure) :
    (verdict failure).begins "HTTP request " = false := by
  rcases statusOf_cases failure with severe | ⟨-, mild⟩
  · rw [verdict_of_severe severe, Event.begins, String.toList_append]
    rfl
  · rw [verdict_of_mild mild, Event.begins, String.toList_append]
    rfl

theorem begins_rejected_of_severe (severe : Response.statusOf failure = 500) :
    (verdict failure).begins "Request rejected: " = false := by
  rw [verdict_of_severe severe, Event.begins, String.toList_append]
  rfl

theorem begins_rejected_of_mild (mild : Response.statusOf failure < 500) :
    (verdict failure).begins "Request rejected: " = true := by
  rw [verdict_of_mild mild, Event.begins, String.toList_append]
  rfl

/-- Messages aside stand in front of the verdict, if there is one. -/
theorem Concludes.exists_front {traced : Traced Call Response} {failure? : Option Failure}
    (concludes : Concludes traced failure?) :
    ∃ front, traced.events = front ++ (failure?.map verdict).toList ∧
      ∀ event ∈ front, event.IsAside := by
  cases concludes with
  | well aside sound => exact ⟨traced.events, by simp, aside⟩
  | @failing failure front aside stepsEq told =>
      refine ⟨front.events, ?_, aside⟩
      simp [Traced.events, stepsEq]

/-- The log of a request between the messages in front and at the end. -/
structure LoggedAs (service : Service) (clock : Clock) (request : Request) (front : List Event)
    (failure? : Option Failure) : Prop where
  eventsEq : (service.serve clock request).events =
    opening :: (front ++ (failure?.map verdict).toList ++
      [closing (service.serve clock request).result.status])
  aside : ∀ event ∈ front, event.IsAside
  sound : failure? = none → (service.serve clock request).result.status ≠ 500
  told : ∀ failure ∈ failure?,
    (service.serve clock request).result.status = Response.statusOf failure ∧
      (service.serve clock request).result.body = failure.message
  fails : ∀ failure, service.FailsInTime clock request failure ↔ failure? = some failure

theorem exists_loggedAs {settings : RetrySettings}
    (discreet : service.opener.backend.IsDiscreet settings) (clock : Clock)
    (get : request.method = "GET") :
    ∃ front failure?, service.LoggedAs clock request front failure? := by
  have notOptions : request.method ≠ "OPTIONS" := by rw [get]; decide
  obtain ⟨failure?, concludes, fails⟩ := exists_concludes discreet clock get
  obtain ⟨front, eventsEq, aside⟩ := concludes.exists_front
  refine ⟨front, failure?, ?_⟩
  have served : service.serve clock request =
      surround request.method (service.dispatchInTime clock request) :=
    serve_of_ne_options notOptions
  generalize service.dispatchInTime clock request = inner at *
  have statusEq : (service.serve clock request).result.status = inner.result.status := by
    rw [served, result_surround, Response.status_leaving]
  have bodyEq : (service.serve clock request).result.body = inner.result.body := by
    rw [served, result_surround, Response.body_leaving, get]
    rfl
  refine ⟨?_, aside, ?_, ?_, fails⟩
  · rw [statusEq, served, events_surround, eventsEq]
  · rintro rfl
    cases concludes with
    | well aside sound => exact statusEq ▸ sound
  · rintro failure ⟨⟩
    cases concludes with
    | failing aside stepsEq told =>
        rw [statusEq, bodyEq, told]
        exact ⟨rfl, rfl⟩

namespace LoggedAs

variable {front : List Event} {failure? : Option Failure}

theorem filter_eq (logged : service.LoggedAs clock request front failure?) {chosen : Event → Bool}
    (notFront : ∀ event ∈ front, chosen event = false) (notOpening : chosen opening = false)
    (notClosing : ∀ status, chosen (closing status) = false) :
    (service.serve clock request).events.filter chosen =
      (failure?.map verdict).toList.filter chosen := by
  rw [logged.eventsEq, List.filter_cons_of_neg (by simp [notOpening]), List.filter_append,
    List.filter_append, List.filter_eq_nil_iff.mpr (by simpa using notFront)]
  simp [notClosing]

/-- There is an error exactly if the service fails. -/
theorem errors (logged : service.LoggedAs clock request front failure?) :
    (service.serve clock request).events.filter (·.level = .error) =
      if (service.serve clock request).result.status = 500 then
        [⟨.error, "Request failed: " ++ (service.serve clock request).result.body⟩]
      else [] := by
  have notClosing (status : Nat) : (closing status).level ≠ .error := by
    unfold closing
    split <;> simp
  rw [logged.filter_eq (by simpa using fun event member => (logged.aside event member).mild)
    (by decide) (by simpa using notClosing)]
  cases failed : failure? with
  | none => rw [if_neg (logged.sound failed)]; rfl
  | some failure =>
      obtain ⟨statusEq, bodyEq⟩ := logged.told failure failed
      rw [statusEq, bodyEq]
      rcases statusOf_cases failure with severe | ⟨-, mild⟩
      · rw [if_pos severe, Option.map_some, verdict_of_severe severe]
        rfl
      · rw [if_neg (Nat.ne_of_lt mild), Option.map_some, verdict_of_mild mild]
        rfl

/-- A request is rejected at most once, and exactly if it fails without the service
failing. -/
theorem rejections (logged : service.LoggedAs clock request front failure?) :
    let rejected := (service.serve clock request).events.filter (·.begins "Request rejected: ")
    (∃ failure, service.FailsInTime clock request failure ∧
        400 ≤ Response.statusOf failure ∧ Response.statusOf failure < 500) ∧
      rejected = [⟨.warn, "Request rejected: " ++ (service.serve clock request).result.body⟩] ∨
    (¬ ∃ failure, service.FailsInTime clock request failure ∧
        400 ≤ Response.statusOf failure ∧ Response.statusOf failure < 500) ∧
      rejected = [] := by
  intro rejected
  have notClosing (status : Nat) : (closing status).begins "Request rejected: " = false := by
    unfold closing
    split <;> decide
  have rejectedEq : rejected = (failure?.map verdict).toList.filter
      (·.begins "Request rejected: ") :=
    logged.filter_eq (fun event member => (logged.aside event member).verdict) (by decide)
      notClosing
  rw [rejectedEq]
  simp only [logged.fails]
  cases failed : failure? with
  | none => simp
  | some failure =>
      obtain ⟨-, bodyEq⟩ := logged.told failure failed
      rw [bodyEq]
      rcases statusOf_cases failure with severe | ⟨refused, mild⟩
      · refine .inr ⟨?_, ?_⟩
        · rintro ⟨other, ⟨⟩, -, mild⟩
          omega
        · simp [begins_rejected_of_severe severe]
      · refine .inl ⟨⟨failure, rfl, refused, mild⟩, ?_⟩
        rw [← verdict_of_mild mild]
        simp [begins_rejected_of_mild mild]

/-- Between the messages in front and at the end there is none like them. -/
theorem frame (logged : service.LoggedAs clock request front failure?) :
    ∃ between, (service.serve clock request).events =
        opening :: (between ++ [closing (service.serve clock request).result.status]) ∧
      ∀ event ∈ between, event.begins "HTTP request " = false := by
  refine ⟨_, logged.eventsEq, fun event member => ?_⟩
  rcases List.mem_append.mp member with inFront | isVerdict
  · exact (logged.aside event inFront).frame
  · obtain ⟨failure, -, rfl⟩ := by simpa using isVerdict
    exact begins_verdict failure

end LoggedAs

theorem events_openTarget_of_ok {caller : Caller} {target : FileTarget} {outcome : Outcome}
    (opened : (service.opener.openFile clock target caller).run.result = .ok outcome) :
    (service.openTarget clock caller target).events =
      ⟨.debug, "Open request for " ++ target.label⟩ ::
        (service.opener.openFile clock target caller).run.events := by
  rw [openTarget_eq, opened]
  simp

/-- A refusal that comes in time is one message in the log between the first and the last,
the details and the warnings of repeated attempts aside. -/
theorem exists_logged_refusal {settings : RetrySettings}
    (discreet : service.opener.backend.IsDiscreet settings) (get : request.method = "GET")
    (routed : service.route? request = some .openFile)
    (inTime : (service.dispatch clock request).nanoseconds ≤
      service.settings.web.requestTimeout.timer)
    {caller : Caller} {target : FileTarget} (seeks : service.Seeks request caller target)
    {reason : DenyReason}
    (denied : (service.opener.openFile clock target caller).run.result = .ok (.denied reason)) :
    ∃ reference token metadata,
      service.opener.Finds clock target caller reference token metadata ∧
      metadata.decide = .denied reason ∧ (service.serve clock request).result.status = 200 ∧
      (service.serve clock request).events.filter (·.level = .info) =
        [opening, Opener.refusal metadata caller reason, closing 200] ∧
      ∀ event ∈ (service.serve clock request).events,
        event.level = .warn → event.TellsOfRetry settings := by
  have notOptions : request.method ≠ "OPTIONS" := by rw [get]; decide
  obtain ⟨reference, token, metadata, before, finds, refused, eventsEq, details⟩ :=
    Opener.exists_refusal discreet denied
  have handled : service.dispatch clock request = service.openTarget clock caller target := by
    rw [dispatch_get_openFile get routed, handleOpen_of_seeks seeks]
  have status : (service.dispatch clock request).result.status = 200 := by
    rw [handled, result_openTarget, denied]
    rfl
  have served : service.serve clock request =
      surround request.method (service.dispatch clock request) := by
    rw [serve_of_ne_options notOptions, dispatchInTime_of_le inTime]
  have logged : (service.serve clock request).events =
      opening :: ⟨.debug, "Open request for " ++ target.label⟩ ::
        (before ++ [Opener.refusal metadata caller reason, closing 200]) := by
    rw [served, events_surround, status, handled, events_openTarget_of_ok denied, eventsEq]
    simp
  have noInfo : before.filter (·.level = .info) = [] := by
    simpa using fun event member => (details event member).1
  refine ⟨reference, token, metadata, finds, refused, ?_, ?_, ?_⟩
  · rw [served, result_surround, Response.status_leaving, status]
  · rw [logged]
    simp [noInfo, opening, closing, Opener.refusal]
  · intro event member warned
    rw [logged] at member
    simp only [List.mem_cons, List.mem_append, List.not_mem_nil, or_false] at member
    rcases member with rfl | rfl | inBefore | rfl | rfl
    · cases warned
    · cases warned
    · exact (details event inBefore).2 warned
    · cases warned
    · cases warned

/-- The other services are reached over the network, where look-ups are repeated as the
settings say, or they are any of which nothing is logged. -/
def Wired (service : Service) : Prop :=
  (∃ lines : Outbound.Lines, lines.stat.retry = service.settings.retry ∧
      service.opener.backend = Outbound.backendOver service.settings lines) ∨
    service.opener.backend.LogsNothing

theorem Wired.isDiscreet (wired : service.Wired) :
    service.opener.backend.IsDiscreet service.settings.retry := by
  rcases wired with ⟨lines, repeats, backendEq⟩ | silent
  · rw [backendEq, ← repeats]
    exact Outbound.isDiscreet_backendOver service.settings lines
  · exact silent.isDiscreet _

/-- Whatever the other services do, the log of a request to get something begins and ends
with one message each, the last of which tells whether the status is one of failure.  There
is an error exactly if the status is that of a failing service, and then one, with the text
of the response.  The request is rejected, once and with that text, exactly if it fails by
the deadline for another reason.  And a file that is refused in time leaves one message
with its path, the user and the reason, and no warning but those of repeated attempts. -/
theorem log_of_request {service : Service} (wired : service.Wired) {request : Request}
    (get : request.method = "GET") (clock : Clock) :
    let served := service.serve clock request
    let status := served.result.status
    let body := served.result.body
    let rejected := served.events.filter (·.begins "Request rejected: ")
    (∃ between, served.events =
        ⟨.info, "HTTP request started"⟩ :: (between ++
          [if status < 400 then ⟨.info, "HTTP request completed"⟩
            else ⟨.warn, "HTTP request completed with error"⟩]) ∧
      ∀ event ∈ between, event.begins "HTTP request " = false) ∧
    served.events.filter (·.level = .error) =
      (if status = 500 then [⟨.error, "Request failed: " ++ body⟩] else []) ∧
    (∀ failure, service.FailsInTime clock request failure →
      status = Response.statusOf failure ∧ body = failure.message) ∧
    ((∃ failure, service.FailsInTime clock request failure ∧
          400 ≤ Response.statusOf failure ∧ Response.statusOf failure < 500) ∧
        rejected = [⟨.warn, "Request rejected: " ++ body⟩] ∨
      (¬ ∃ failure, service.FailsInTime clock request failure ∧
          400 ≤ Response.statusOf failure ∧ Response.statusOf failure < 500) ∧
        rejected = []) ∧
    ∀ caller target reason, service.route? request = some .openFile →
      (service.dispatch clock request).nanoseconds ≤
        service.settings.web.requestTimeout.timer →
      service.Seeks request caller target →
      (service.opener.openFile clock target caller).run.result = .ok (.denied reason) →
      ∃ reference token metadata,
        service.opener.Finds clock target caller reference token metadata ∧
        metadata.decide = .denied reason ∧
        served.events.filter (·.level = .info) =
          [⟨.info, "HTTP request started"⟩,
            ⟨.info,
              s!"Not opening {metadata.path} for {caller.principal.userId}: {reason.text}"⟩,
            ⟨.info, "HTTP request completed"⟩] ∧
        served.events.filter (·.level = .error) = [] ∧
        ∀ event ∈ served.events,
          event.level = .warn → event.TellsOfRetry service.settings.retry := by
  intro served status body
  obtain ⟨front, failure?, logged⟩ := exists_loggedAs wired.isDiscreet clock get
  refine ⟨logged.frame, logged.errors, ?_, logged.rejections, ?_⟩
  · exact fun failure failed => logged.told failure ((logged.fails failure).mp failed)
  · intro caller target reason routed inTime seeks denied
    obtain ⟨reference, token, metadata, finds, refused, answered, infos, warnings⟩ :=
      exists_logged_refusal wired.isDiscreet get routed inTime seeks denied
    refine ⟨reference, token, metadata, finds, refused, infos, ?_, warnings⟩
    rw [logged.errors, answered]
    rfl

/-- A line on which the first attempt runs into its timeout and the second one finds a
file that nothing may be done with. -/
def hesitantLine : Outbound.Line :=
  { silentLine with
    script := fun attempt _ =>
      if attempt = 1 then ⟨.ofSeconds 4, .silent .timedOut⟩
      else
        ⟨.ofSeconds 1, .answered {
          status := 200
          body := Utf8.ofText
            ("\x7b\"status\":[\"CODE_OK\"],\"info\":[[\"s\",\"o\"],\"/x\",3," ++
              "\"RESOURCE_TYPE_FILE\"]\x7d")
          bodyEnd := .whole }⟩ }

/-- A service whose gateway hesitates. -/
def hesitantService : Service :=
  ⟨forwardingService.settings,
    ⟨Outbound.backendOver forwardingService.settings ⟨hesitantLine, silentLine, silentLine⟩,
      .forwarded, .ofSeconds 3600⟩⟩

theorem wired_hesitantService : hesitantService.Wired :=
  .inl ⟨⟨hesitantLine, silentLine, silentLine⟩, rfl, rfl⟩

/-- A refusal behind a repeated look-up leaves three messages besides its warning. -/
theorem log_of_refused_request :
    hesitantService.Wired ∧ tabbedRequest.method = "GET" ∧
      (hesitantService.serve .stopped tabbedRequest).events.filter (·.level = .error) = [] ∧
      ∃ path user reason : String,
        (hesitantService.serve .stopped tabbedRequest).events.filter (·.level = .info) =
          [⟨.info, "HTTP request started"⟩, ⟨.info, s!"Not opening {path} for {user}: {reason}"⟩,
            ⟨.info, "HTTP request completed"⟩] := by
  have get : tabbedRequest.method = "GET" := rfl
  have routed : hesitantService.route? tabbedRequest = some .openFile := by decide +kernel
  have answered : (hesitantService.dispatch .stopped tabbedRequest).nanoseconds ≤
        hesitantService.settings.web.requestTimeout.timer ∧
      (hesitantService.dispatch .stopped tabbedRequest).result.status = 200 ∧
      (hesitantService.dispatch .stopped tabbedRequest).result.body = "" := by
    decide +kernel
  rw [dispatch_get_openFile get routed] at answered
  obtain ⟨reason, caller, target, seeks, denied⟩ := handleOpen_denied_iff.mp answered.2
  obtain ⟨-, -, -, -, refusals⟩ := log_of_request wired_hesitantService get .stopped
  rw [dispatch_get_openFile get routed] at refusals
  obtain ⟨-, -, metadata, -, -, infos, errors, -⟩ :=
    refusals caller target reason routed answered.1 seeks denied
  exact ⟨wired_hesitantService, get, errors, metadata.path, caller.principal.userId,
    reason.text, infos⟩

end Service

end Http

end EditorLaunch
