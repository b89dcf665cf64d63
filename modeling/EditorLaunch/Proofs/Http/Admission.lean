import EditorLaunch.Proofs.Http.Identity
import EditorLaunch.Proofs.Http.OpenQuery
import EditorLaunch.Proofs.Http.Service
import EditorLaunch.Proofs.Opening.Stages
import EditorLaunch.Settings.Validation

/-!
# Which requests reach the other services

A request to open a file is turned away for the first thing that it lacks: a known
caller, a query that can be read, a file that the query names.  Only behind these a
file is opened, and nothing is called unless there are a reference to look up and a
token to do it with.
-/

namespace EditorLaunch

namespace Http

/-- The parameters of a request. -/
def Request.pairs (request : Request) : List Form.Pair :=
  Form.decode (String.ofList (request.target.query?.getD []))

namespace Service

variable {service : Service} {clock : Clock} {request : Request}

/-- A request says who is asking, and which file is to be opened. -/
structure Seeks (service : Service) (request : Request) (caller : Caller)
    (target : FileTarget) : Prop where
  identified : request.headers.HasText service.settings.auth.userIdHeader
  known : callerOf request.headers service.settings.auth = .ok caller
  readable : OpenQuery.Readable request.pairs
  chosen : OpenQuery.Chooses request.pairs target

/-- The calls for a request and the response to it, by the first thing that the
request lacks.  Nothing is said about a query before the caller is known. -/
inductive Answers (service : Service) (clock : Clock) (request : Request) :
    List Call → Response → Prop where
  | unidentified
      (unknown : ¬ request.headers.HasText service.settings.auth.userIdHeader) :
      Answers service clock request []
        (.ofFailure
          (.unauthenticated s!"missing {service.settings.auth.userIdHeader} header"))
  | unreadable (identified : request.headers.HasText service.settings.auth.userIdHeader)
      (repeats : OpenQuery.RepeatsFirst request.pairs name) :
      Answers service clock request [] (.plain 400 (OpenQuery.Duplicate.message ⟨name⟩))
  | unnamed (identified : request.headers.HasText service.settings.auth.userIdHeader)
      (readable : OpenQuery.Readable request.pairs)
      (nameless : ∀ target, ¬ OpenQuery.Chooses request.pairs target) :
      Answers service clock request []
        (.ofFailure (.missingParameter "fileID parameter missing in request"))
  | settled (seeks : service.Seeks request caller target) :
      Answers service clock request (service.opener.openFile clock target caller).run.calls
        (.ofOutcome (service.opener.openFile clock target caller).run.result)

/-- What comes of opening the file that a request seeks. -/
def Settles (service : Service) (clock : Clock) (request : Request)
    (outcome : Except Failure Outcome) : Prop :=
  ∃ caller target, service.Seeks request caller target ∧
    (service.opener.openFile clock target caller).run.result = outcome

theorem handleOpen_of_known (clock : Clock) {caller : Caller}
    (known : callerOf request.headers service.settings.auth = .ok caller) :
    (∃ name, OpenQuery.RepeatsFirst request.pairs name ∧
        service.handleOpen clock request =
          pure (.plain 400 (OpenQuery.Duplicate.message ⟨name⟩))) ∨
      OpenQuery.Readable request.pairs ∧
        ((∀ target, ¬ OpenQuery.Chooses request.pairs target) ∧
            service.handleOpen clock request =
              reject (.missingParameter "fileID parameter missing in request") ∨
          ∃ target, OpenQuery.Chooses request.pairs target ∧
            service.handleOpen clock request = service.openTarget clock caller target) := by
  unfold handleOpen
  rw [known]
  rcases OpenQuery.ofText_cases (String.ofList (request.target.query?.getD [])) with
    ⟨found, reads, collects⟩ | ⟨name, refuses, repeats⟩
  · refine .inr ⟨collects.readable, ?_⟩
    rcases collects.target_cases with ⟨target, chosen, chooses⟩ | ⟨missing, nameless⟩
    · exact .inr ⟨target, chooses, by simp only [reads, chosen]⟩
    · exact .inl ⟨nameless, by simp only [reads, missing]⟩
  · exact .inl ⟨name, repeats, by simp only [refuses]⟩

theorem answers_handleOpen (service : Service) (clock : Clock) (request : Request) :
    service.Answers clock request (service.handleOpen clock request).calls
      (service.handleOpen clock request).result := by
  by_cases identified : request.headers.HasText service.settings.auth.userIdHeader
  · obtain ⟨caller, known⟩ := exists_callerOf identified
    rcases handleOpen_of_known clock known with
      ⟨name, repeats, handled⟩ | ⟨readable, ⟨nameless, handled⟩ | ⟨target, chosen, handled⟩⟩
    · rw [handled]
      exact .unreadable identified repeats
    · rw [handled, calls_reject, result_reject]
      exact .unnamed identified readable nameless
    · rw [handled, calls_openTarget, result_openTarget]
      exact .settled ⟨identified, known, readable, chosen⟩
  · have unknown := callerOf_of_not_hasText identified
    have handled : service.handleOpen clock request =
        reject (.unauthenticated s!"missing {service.settings.auth.userIdHeader} header") := by
      rw [handleOpen, unknown]
    rw [handled, calls_reject, result_reject]
    exact .unidentified identified

theorem handleOpen_of_seeks {caller : Caller} {target : FileTarget}
    (seeks : service.Seeks request caller target) :
    service.handleOpen clock request = service.openTarget clock caller target := by
  rcases handleOpen_of_known clock seeks.known with
    ⟨name, repeats, -⟩ | ⟨-, ⟨nameless, -⟩ | ⟨other, chosen, handled⟩⟩
  · exact absurd seeks.readable repeats.not_readable
  · exact absurd seeks.chosen (nameless target)
  · rw [handled, chosen.unique seeks.readable seeks.chosen]

theorem result_handleOpen_of_settles {outcome : Except Failure Outcome}
    (settles : service.Settles clock request outcome) :
    (service.handleOpen clock request).result = .ofOutcome outcome := by
  obtain ⟨caller, target, seeks, rfl⟩ := settles
  rw [handleOpen_of_seeks seeks, result_openTarget]

theorem Answers.exists_settles {calls : List Call} {response : Response}
    (answers : service.Answers clock request calls response) (ok : response.status = 200) :
    ∃ outcome, service.Settles clock request (.ok outcome) ∧
      response = .ofOutcome (.ok outcome) := by
  cases answers with
  | unidentified unknown => exact absurd ok (Response.status_ofFailure_ne_ok _)
  | unreadable identified repeats => simp [Response.plain] at ok
  | unnamed identified readable nameless => exact absurd ok (Response.status_ofFailure_ne_ok _)
  | settled seeks =>
      rename_i caller target
      cases result : (service.opener.openFile clock target caller).run.result with
      | error failure =>
          rw [result] at ok
          exact absurd ok (Response.status_ofFailure_ne_ok failure)
      | ok outcome => exact ⟨outcome, ⟨caller, target, seeks, result⟩, rfl⟩

/-- Calls are made for nothing but a file that is sought. -/
theorem Answers.exists_seeks {calls : List Call} {response : Response}
    (answers : service.Answers clock request calls response) (called : calls ≠ []) :
    ∃ caller target, service.Seeks request caller target ∧
      calls = (service.opener.openFile clock target caller).run.calls := by
  cases answers with
  | unidentified unknown => exact absurd rfl called
  | unreadable identified repeats => exact absurd rfl called
  | unnamed identified readable nameless => exact absurd rfl called
  | settled seeks => exact ⟨_, _, seeks, rfl⟩

theorem exists_asks_of_handleOpen (called : (service.handleOpen clock request).calls ≠ []) :
    ∃ caller target reference token, service.Seeks request caller target ∧
      service.opener.Asks clock target caller reference token := by
  obtain ⟨caller, target, seeks, callsEq⟩ :=
    (answers_handleOpen service clock request).exists_seeks called
  rw [callsEq] at called
  obtain ⟨reference, token, asks⟩ := Opener.exists_asks_of_calls_ne_nil called
  exact ⟨caller, target, reference, token, seeks, asks⟩

theorem stat_mem_calls_handleOpen_iff {reference : Reference} {token : String} :
    .stat reference token ∈ (service.handleOpen clock request).calls ↔
      ∃ caller target, service.Seeks request caller target ∧
        service.opener.Asks clock target caller reference token := by
  constructor
  · intro member
    obtain ⟨caller, target, seeks, callsEq⟩ :=
      (answers_handleOpen service clock request).exists_seeks (List.ne_nil_of_mem member)
    rw [callsEq] at member
    exact ⟨caller, target, seeks, Opener.stat_mem_calls_iff.mp member⟩
  · rintro ⟨caller, target, seeks, asks⟩
    rw [handleOpen_of_seeks seeks, calls_openTarget]
    exact Opener.stat_mem_calls_iff.mpr asks

theorem handleOpen_denied_iff :
    (service.handleOpen clock request).result.status = 200 ∧
        (service.handleOpen clock request).result.body = "" ↔
      ∃ reason, service.Settles clock request (.ok (.denied reason)) := by
  constructor
  · rintro ⟨ok, empty⟩
    obtain ⟨outcome, settles, same⟩ :=
      (answers_handleOpen service clock request).exists_settles ok
    rw [same] at empty
    cases outcome with
    | opened link => exact absurd empty (Response.body_ofOutcome_opened_ne_empty link)
    | denied reason => exact ⟨reason, settles⟩
  · rintro ⟨reason, settles⟩
    rw [result_handleOpen_of_settles settles]
    exact ⟨rfl, rfl⟩

theorem handleOpen_opened_iff {content : String} :
    (service.handleOpen clock request).result.status = 200 ∧
        (service.handleOpen clock request).result.body = content ∧ content ≠ "" ↔
      ∃ link, service.Settles clock request (.ok (.opened link)) ∧
        content = link.toJson.print := by
  constructor
  · rintro ⟨ok, written, filled⟩
    obtain ⟨outcome, settles, same⟩ :=
      (answers_handleOpen service clock request).exists_settles ok
    rw [same] at written
    cases outcome with
    | opened link => exact ⟨link, settles, written.symm⟩
    | denied reason => exact absurd written.symm filled
  · rintro ⟨link, settles, rfl⟩
    rw [result_handleOpen_of_settles settles]
    exact ⟨rfl, rfl, Response.body_ofOutcome_opened_ne_empty link⟩

/-- A request to open a file that is answered in time makes calls only if it says
who is asking and which file is to be opened, and if there is a token for it.  The
file that is looked up is then the one that the request chooses.  The response is
that of the first thing that the request lacks, or of what comes of opening the
file: the link, nothing at all after a refusal, or the failure. -/
theorem serve_openFile (service : Service) (clock : Clock) (request : Request)
    (get : request.method = "GET") (routed : service.route? request = some .openFile)
    (inTime : (service.dispatch clock request).nanoseconds ≤
      service.settings.web.requestTimeout.timer) :
    let served := service.serve clock request
    (served.calls ≠ [] →
      ∃ caller target reference token, service.Seeks request caller target ∧
        service.opener.Asks clock target caller reference token) ∧
    (∀ reference token, .stat reference token ∈ served.calls ↔
      ∃ caller target, service.Seeks request caller target ∧
        service.opener.Asks clock target caller reference token) ∧
    (∃ response, service.Answers clock request served.calls response ∧
      served.result =
        (response.withHeaders Response.labels).withHeaders Response.sharing) ∧
    (served.result.status = 200 ∧ served.result.body = "" ↔
      ∃ reason, service.Settles clock request (.ok (.denied reason))) ∧
    (∀ content, served.result.status = 200 ∧ served.result.body = content ∧
        content ≠ "" ↔
      ∃ link, service.Settles clock request (.ok (.opened link)) ∧
        content = link.toJson.print) := by
  intro served
  obtain ⟨sameCalls, sameResult⟩ := serve_get_eq get inTime
  rw [dispatch_get_openFile get routed] at sameCalls sameResult
  refine ⟨?calls, ?lookup, ?response, ?denied, ?opened⟩
  case calls =>
    intro called
    rw [sameCalls] at called
    exact exists_asks_of_handleOpen called
  case lookup =>
    intro reference token
    rw [sameCalls]
    exact stat_mem_calls_handleOpen_iff
  case response =>
    refine ⟨(service.handleOpen clock request).result, ?_, sameResult⟩
    rw [sameCalls]
    exact answers_handleOpen service clock request
  case denied =>
    rw [sameResult]
    exact handleOpen_denied_iff
  case opened =>
    intro content
    rw [sameResult]
    exact handleOpen_opened_iff

/-- A service that takes tokens over from requests and whose gateway finds nothing. -/
def forwardingService : Service :=
  { settings := {
      auth := { mode := .forward }
      bridge := { host := "http://[::1]:8880" }
      gateway := { address := "http://[::1]:9142" } }
    opener := {
      backend := {
        stat := fun _ _ => throw (.notFound "nothing is there")
        fetchCatalogue := throw (.internal "nothing is listed")
        openSession := fun _ _ => throw (.internal "nothing is opened") }
      tokens := .forwarded
      lifetime := .ofSeconds 3600 } }

/-- A request for a file by its path, from a user with a tab in the identifier. -/
def tabbedRequest : Request :=
  { method := "GET"
    target := ⟨"/api/v0/wopi/open".toList, some "filePath=/x".toList⟩
    headers := [⟨"x-remote-user", [0x61, 0x09, 0x62]⟩, ⟨"x-access-token", [0x74]⟩] }

theorem validate_forwardingService
    (steady : ¬ forwardingService.settings.retry.multiplier < 1.0) :
    forwardingService.settings.validate = .ok () := by
  have noBlank : isBlankText forwardingService.settings.bridge.host = false := by
    decide +kernel
  have bridge : isAddress forwardingService.settings.bridge.host = true := by
    decide +kernel
  have gateway : isAddress forwardingService.settings.gateway.address = true := by
    decide +kernel
  have budget : ¬ forwardingService.settings.web.requestTimeout.nanoseconds ≤
      forwardingService.settings.outboundBudget.nanoseconds := by
    decide +kernel
  unfold Settings.validate
  rw [noBlank, bridge, gateway, decide_eq_false steady, decide_eq_false budget]
  rfl

/-- The request is for a file, which is looked up in time. -/
theorem looksUp_tabbedRequest :
    forwardingService.route? tabbedRequest = some .openFile ∧
      (forwardingService.dispatch .stopped tabbedRequest).nanoseconds ≤
        forwardingService.settings.web.requestTimeout.timer ∧
      .stat (.path "/x") "t" ∈ (forwardingService.serve .stopped tabbedRequest).calls := by
  decide +kernel

/-- The file of a request is looked up for a caller who is known. -/
theorem serve_openFile_by_path :
    .stat (.path "/x") "t" ∈ (forwardingService.serve .stopped tabbedRequest).calls ∧
      ∃ caller target, forwardingService.Seeks tabbedRequest caller target ∧
        forwardingService.opener.Asks .stopped target caller (.path "/x") "t" := by
  obtain ⟨routed, inTime, asked⟩ := looksUp_tabbedRequest
  obtain ⟨-, lookup, -⟩ :=
    serve_openFile forwardingService .stopped tabbedRequest rfl routed inTime
  exact ⟨asked, (lookup _ _).mp asked⟩

/-- Callers need not be identified by printable characters alone: the gateway is
also asked for a caller with a tab in the identifier. -/
theorem calls_for_tabbed_identity :
    (¬ forwardingService.settings.retry.multiplier < 1.0 →
      forwardingService.settings.validate = .ok ()) ∧
    tabbedRequest.method = "GET" ∧
    forwardingService.route? tabbedRequest = some .openFile ∧
    (forwardingService.dispatch .stopped tabbedRequest).nanoseconds ≤
      forwardingService.settings.web.requestTimeout.timer ∧
    (∃ value,
      tabbedRequest.headers.first? forwardingService.settings.auth.userIdHeader =
          some value ∧
        ¬ ∀ octet ∈ value, 0x20 ≤ octet ∧ octet ≤ 0x7E) ∧
    (forwardingService.serve .stopped tabbedRequest).calls ≠ [] := by
  have unprintable : ¬ ∀ octet ∈ ([0x61, 0x09, 0x62] : List UInt8),
      0x20 ≤ octet ∧ octet ≤ 0x7E := by
    decide
  have identity :
      tabbedRequest.headers.first? forwardingService.settings.auth.userIdHeader =
        some [0x61, 0x09, 0x62] := by
    rfl
  obtain ⟨routed, inTime, asked⟩ := looksUp_tabbedRequest
  exact ⟨validate_forwardingService, rfl, routed, inTime, ⟨_, identity, unprintable⟩,
    List.ne_nil_of_mem asked⟩

end Service

end Http

end EditorLaunch
