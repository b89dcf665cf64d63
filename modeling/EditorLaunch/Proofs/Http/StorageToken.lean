import EditorLaunch.Proofs.Http.Deadline

/-!
# Where the tokens of calls come from

Every call for one request that carries a token carries the same one.  Depending
on the mode it is the token that came with the request or one that is signed here
for the user behind it.  In the first case nothing is called without such a token;
in the second a token in the request makes no difference at all.
-/

namespace EditorLaunch

/-- The token that a call carries. -/
def Call.token? : Call → Option String
  | stat _ token => some token
  | openSession _ token => some token
  | fetchCatalogue => none
  | send _ => none

namespace TokenSource

variable {now : Instant} {caller : Caller}

theorem result_tokenFor_minted (secret : String) (lifetime : Duration) :
    ((minted secret lifetime).tokenFor (κ := κ) now caller).run.result =
      .ok (StorageToken.sign secret (.forPrincipal caller.principal lifetime now)) :=
  rfl

theorem tokenFor_forwarded_of_none (absent : caller.forwardedToken? = none) :
    (forwarded.tokenFor now caller : Action κ String) =
      throw (.unauthenticated "no storage token forwarded with request") := by
  rw [tokenFor, absent]
  rfl

theorem forwardedToken?_of_tokenFor {token : String}
    (granted : (forwarded.tokenFor (κ := κ) now caller).run.result = .ok token) :
    caller.forwardedToken? = some token := by
  simp only [tokenFor] at granted
  split at granted
  · rename_i other found
    obtain rfl := Except.ok.inj granted
    exact (Option.filter_eq_some_iff.mp found).1
  · cases granted

end TokenSource

namespace Opener

variable {opener : Opener} {clock : Clock} {target : FileTarget} {caller : Caller}

/-- Whatever call carries a token, it is the one for the caller. -/
theorem exists_asks_of_token {call : Call} {token : String}
    (member : call ∈ (opener.openFile clock target caller).run.calls)
    (carries : call.token? = some token) :
    ∃ reference, opener.Asks clock target caller reference token := by
  have reaches := reaches_asked opener clock target caller
  have asked (notSent : call.isSent = false) :
      call ∈ (opener.openFile clock target caller).run.asked :=
    List.mem_filter.mpr ⟨member, by rw [notSent]; rfl⟩
  cases call with
  | stat reference carried =>
      obtain rfl := Option.some.inj carries
      exact ⟨reference, reaches.asks (asked rfl)⟩
  | openSession request carried =>
      obtain rfl := Option.some.inj carries
      obtain ⟨reference, _, _, _, _, _, offers, -⟩ := reaches.offers (asked rfl)
      exact ⟨reference, offers.toAsks⟩
  | fetchCatalogue => exact absurd carries nofun
  | send request => exact absurd carries nofun

/-- Without a token, opening a file ends before anything is called. -/
theorem onlyLogs_openFile_of_tokenless {failure : Failure}
    (refused : (opener.tokens.tokenFor clock.first caller : Action Call String) = throw failure) :
    (opener.openFile clock target caller).run.OnlyLogs := by
  unfold openFile
  refine Action.onlyLogs_bind (Action.onlyLogs_settle _) fun reference => ?_
  rw [refused, Action.run_bind_of_error _ (Action.result_throw failure)]
  exact Action.onlyLogs_throw (α := String) failure

theorem result_openFile_of_tokenless {reference : Reference} {failure : Failure}
    (named : target.Names reference)
    (refused : (opener.tokens.tokenFor clock.first caller : Action Call String) = throw failure) :
    (opener.openFile clock target caller).run.result = .error failure := by
  have decoded : (Action.settle target.reference : Action Call Reference).run.result =
      .ok reference := FileTarget.reference_eq_ok_iff.mpr named
  rw [openFile, Action.run_bind_of_ok _ decoded, refused,
    Action.run_bind_of_error _ (Action.result_throw failure)]

/-- With minted tokens, opening a file depends on the caller only through the
principal. -/
theorem openFile_eq_of_principal_eq {other : Caller} {secret : String}
    {lifetime : Duration} (mints : opener.tokens = .minted secret lifetime)
    (same : other.principal = caller.principal) :
    opener.openFile clock target other = opener.openFile clock target caller := by
  obtain ⟨principal, token?⟩ := caller
  obtain ⟨otherPrincipal, otherToken?⟩ := other
  obtain rfl : otherPrincipal = principal := same
  unfold openFile
  rw [mints]
  rfl

end Opener

namespace Http

namespace Service

variable {service : Service} {clock : Clock} {request : Request}

/-- The token of a call is the one for the caller whom the headers name. -/
theorem exists_callerOf_of_token {call : Call} {token : String}
    (member : call ∈ (service.serve clock request).calls)
    (carries : call.token? = some token) :
    ∃ caller, callerOf request.headers service.settings.auth = .ok caller ∧
      (service.opener.tokens.tokenFor (κ := Call) clock.first caller).run.result = .ok token := by
  have opens := (calls_serve_isPrefix service clock request).subset member
  rcases dispatch_cases service clock request with quiet | ⟨caller, target, known, handled⟩
  · rw [quiet.calls_eq] at opens
    exact absurd opens List.not_mem_nil
  · rw [handled, calls_openTarget] at opens
    obtain ⟨reference, asks⟩ := Opener.exists_asks_of_token opens carries
    exact ⟨caller, known, asks.granted⟩

theorem token_unique {call other : Call} {token otherToken : String}
    (member : call ∈ (service.serve clock request).calls)
    (otherMember : other ∈ (service.serve clock request).calls)
    (carries : call.token? = some token) (otherCarries : other.token? = some otherToken) :
    token = otherToken := by
  obtain ⟨caller, known, granted⟩ := exists_callerOf_of_token member carries
  obtain ⟨same, sameKnown, sameGranted⟩ := exists_callerOf_of_token otherMember otherCarries
  obtain rfl := Except.ok.inj (known.symm.trans sameKnown)
  exact Except.ok.inj (granted.symm.trans sameGranted)

theorem onlyLogs_openTarget {caller : Caller} {target : FileTarget}
    (quiet : (service.opener.openFile clock target caller).run.OnlyLogs) :
    (service.openTarget clock caller target).OnlyLogs := by
  unfold openTarget
  refine (Traced.onlyLogs_log _ _).bind (quiet.bind ?_)
  split
  · exact Traced.onlyLogs_pure _
  · exact Traced.onlyLogs_pure _
  · exact onlyLogs_reject _

/-- There is no token for whoever makes a request. -/
def Tokenless (service : Service) (clock : Clock) (request : Request) (failure : Failure) : Prop :=
  ∀ caller, callerOf request.headers service.settings.auth = .ok caller →
    (service.opener.tokens.tokenFor clock.first caller : Action Call String) = throw failure

theorem Tokenless.onlyLogs_openTarget {failure : Failure} {caller : Caller}
    {target : FileTarget} (tokenless : service.Tokenless clock request failure)
    (known : callerOf request.headers service.settings.auth = .ok caller) :
    (service.openTarget clock caller target).OnlyLogs :=
  Service.onlyLogs_openTarget (Opener.onlyLogs_openFile_of_tokenless (tokenless caller known))

theorem Tokenless.onlyLogs_handleOpen {failure : Failure}
    (tokenless : service.Tokenless clock request failure) :
    (service.handleOpen clock request).OnlyLogs := by
  rcases handleOpen_cases service clock request with quiet | ⟨caller, target, known, handled⟩
  · exact quiet
  · rw [handled]
    exact tokenless.onlyLogs_openTarget known

theorem Tokenless.onlyLogs_dispatch {failure : Failure}
    (tokenless : service.Tokenless clock request failure) :
    (service.dispatch clock request).OnlyLogs := by
  rcases dispatch_cases service clock request with quiet | ⟨caller, target, known, handled⟩
  · exact quiet
  · rw [handled]
    exact tokenless.onlyLogs_openTarget known

theorem Tokenless.calls_serve {failure : Failure}
    (tokenless : service.Tokenless clock request failure) :
    (service.serve clock request).calls = [] := by
  have begun := calls_serve_isPrefix service clock request
  rw [tokenless.onlyLogs_dispatch.calls_eq] at begun
  exact List.prefix_nil.mp begun

/-- Nothing takes time without a token, so that no request is cut off. -/
theorem Tokenless.result_serve {failure : Failure}
    (tokenless : service.Tokenless clock request failure)
    (asked : asks request.method = true) (routed : service.route? request = some .openFile) :
    (service.serve clock request).result =
      (service.handleOpen clock request).result.leaving request.method := by
  have notOptions : request.method ≠ "OPTIONS" := by
    intro options
    rw [options] at asked
    exact absurd asked (by decide)
  have inTime : (service.dispatch clock request).nanoseconds ≤
      service.settings.web.requestTimeout.timer := by
    rw [tokenless.onlyLogs_dispatch.nanoseconds_eq]
    exact Nat.zero_le _
  have opens : service.dispatch clock request = service.handleOpen clock request := by
    rw [dispatch, routed]
    exact if_pos asked
  rw [serve_of_ne_options notOptions, result_surround, dispatchInTime_of_le inTime, opens]

theorem Tokenless.result_handleOpen {failure : Failure} {caller : Caller}
    {target : FileTarget} {reference : Reference}
    (tokenless : service.Tokenless clock request failure)
    (seeks : service.Seeks request caller target) (named : target.Names reference) :
    (service.handleOpen clock request).result = .ofFailure failure := by
  rw [handleOpen_of_seeks seeks, result_openTarget,
    Opener.result_openFile_of_tokenless named (tokenless caller seeks.known)]
  rfl

theorem tokenless_of_not_carries
    (forwards : service.opener.tokens = .forwarded)
    (absent : ∀ content,
      ¬ request.headers.Carries service.settings.auth.tokenHeader content) :
    service.Tokenless clock request
      (.unauthenticated "no storage token forwarded with request") := by
  intro caller known
  rw [forwards]
  apply TokenSource.tokenFor_forwarded_of_none
  rw [forwardedToken?_of_callerOf known, Headers.text?_eq_none_iff]
  exact absent

theorem carries_of_token {call : Call} {token : String}
    (forwards : service.opener.tokens = .forwarded)
    (member : call ∈ (service.serve clock request).calls)
    (carries : call.token? = some token) :
    request.headers.Carries service.settings.auth.tokenHeader token := by
  obtain ⟨caller, known, granted⟩ := exists_callerOf_of_token member carries
  rw [forwards] at granted
  rw [← Headers.text?_eq_some_iff, ← forwardedToken?_of_callerOf known]
  exact TokenSource.forwardedToken?_of_tokenFor granted

/-- With minted tokens, requests that differ only in the header of the token are
handled in the same way. -/
theorem serve_eq_of_without_eq {other : Request} {secret : String} {lifetime : Duration}
    (mints : service.opener.tokens = .minted secret lifetime)
    (apartFromId : foldName service.settings.auth.userIdHeader ≠
      foldName service.settings.auth.tokenHeader)
    (apartFromName : foldName service.settings.auth.displayNameHeader ≠
      foldName service.settings.auth.tokenHeader)
    (sameMethod : other.method = request.method) (sameTarget : other.target = request.target)
    (sameRest : other.headers.without service.settings.auth.tokenHeader =
      request.headers.without service.settings.auth.tokenHeader) :
    service.serve clock other = service.serve clock request := by
  have samePrincipal :
      (callerOf other.headers service.settings.auth).map (·.principal) =
        (callerOf request.headers service.settings.auth).map (·.principal) := by
    rw [← callerOf_without apartFromId apartFromName, sameRest,
      callerOf_without apartFromId apartFromName]
  have sameHandling : service.handleOpen clock other = service.handleOpen clock request := by
    unfold handleOpen
    rw [sameTarget]
    cases known : callerOf request.headers service.settings.auth with
    | error failure =>
        cases otherKnown : callerOf other.headers service.settings.auth with
        | error otherFailure =>
            rw [known, otherKnown] at samePrincipal
            rw [Except.error.inj samePrincipal]
        | ok otherCaller =>
            rw [known, otherKnown] at samePrincipal
            exact absurd samePrincipal nofun
    | ok caller =>
        cases otherKnown : callerOf other.headers service.settings.auth with
        | error otherFailure =>
            rw [known, otherKnown] at samePrincipal
            exact absurd samePrincipal nofun
        | ok otherCaller =>
            rw [known, otherKnown] at samePrincipal
            have sameOpening (target : FileTarget) :
                service.openTarget clock otherCaller target =
                  service.openTarget clock caller target := by
              unfold openTarget
              rw [Opener.openFile_eq_of_principal_eq mints (Except.ok.inj samePrincipal)]
            simp only [sameOpening]
  have sameAnswer : service.dispatch clock other = service.dispatch clock request := by
    unfold dispatch route? handle
    rw [sameTarget, sameMethod, sameHandling]
  unfold serve answer dispatchInTime preflight route?
  rw [sameTarget, sameMethod, sameAnswer]

theorem exists_identifies_of_token {call : Call} {token secret : String}
    {lifetime : Duration} (mints : service.opener.tokens = .minted secret lifetime)
    (member : call ∈ (service.serve clock request).calls)
    (carries : call.token? = some token) :
    ∃ principal, Identifies request.headers service.settings.auth principal ∧
      token = StorageToken.sign secret (.forPrincipal principal lifetime clock.first) := by
  obtain ⟨caller, known, granted⟩ := exists_callerOf_of_token member carries
  rw [mints, TokenSource.result_tokenFor_minted] at granted
  exact ⟨caller.principal, identifies_of_callerOf known, (Except.ok.inj granted).symm⟩

/-- The service that settings describe, with other services behind it. -/
def ofSettings (settings : Settings) (backend : Backend) : Service :=
  { settings
    opener := { backend, tokens := .ofSettings settings, lifetime := settings.token.lifetime } }

/-- Both calls for a request that carry a token carry the same one.

Where tokens are taken over it is the first value of its header without the blanks
around it, and without such a value, one of visible characters that is not blank,
nothing is called.  The response is then that of the first thing that the request
lacks, and if it lacks nothing else and its identifier can be decoded, it is that
there is no token.

Where tokens are minted it is signed for the user whom the headers name, and
requests that differ in nothing but the header of the token, which then is not one
of those that name the user, are served in the same way. -/
theorem tokens_of_calls (settings : Settings) (backend : Backend) (clock : Clock)
    (request : Request) :
    let service := ofSettings settings backend
    let auth := settings.auth
    let served := service.serve clock request
    (∀ reference session token other, .stat reference token ∈ served.calls →
      .openSession session other ∈ served.calls → token = other) ∧
    (auth.mode = .forward →
      (∀ call ∈ served.calls, ∀ token, call.token? = some token →
        request.headers.Carries auth.tokenHeader token) ∧
      ((∀ content, ¬ request.headers.Carries auth.tokenHeader content) →
        served.calls = [] ∧
        (asks request.method = true → service.route? request = some .openFile →
          (∃ response, service.Answers clock request [] response ∧
            served.result = response.leaving request.method) ∧
          ∀ caller target reference, service.Seeks request caller target →
            target.Names reference →
            served.result = (Response.ofFailure (.unauthenticated
              "no storage token forwarded with request")).leaving request.method))) ∧
    (auth.mode = .mint →
      (∀ call ∈ served.calls, ∀ token, call.token? = some token →
        ∃ principal, Identifies request.headers auth principal ∧
          token = StorageToken.sign settings.token.secret
            (.forPrincipal principal settings.token.lifetime clock.first)) ∧
      (foldName auth.userIdHeader ≠ foldName auth.tokenHeader →
        foldName auth.displayNameHeader ≠ foldName auth.tokenHeader →
        ∀ other : Request, other.method = request.method →
          other.target = request.target →
          other.headers.without auth.tokenHeader =
            request.headers.without auth.tokenHeader →
          service.serve clock other = served)) := by
  intro service auth served
  refine ⟨?once, ?forward, ?mint⟩
  case once =>
    intro reference session token other looksUp opens
    exact token_unique looksUp opens rfl rfl
  case forward =>
    intro mode
    have forwards : service.opener.tokens = .forwarded := by
      simp only [service, ofSettings, TokenSource.ofSettings]
      rw [show settings.auth.mode = .forward from mode]
    constructor
    · intro call member token carries
      have carried := carries_of_token forwards member carries
      exact carried
    · intro absent
      have tokenless : service.Tokenless clock request _ :=
        tokenless_of_not_carries forwards absent
      refine ⟨tokenless.calls_serve, fun asked routed => ⟨?_, ?_⟩⟩
      · have answers := answers_handleOpen service clock request
        rw [tokenless.onlyLogs_handleOpen.calls_eq] at answers
        exact ⟨_, answers, tokenless.result_serve asked routed⟩
      · intro caller target reference seeks named
        rw [← tokenless.result_handleOpen seeks named]
        exact tokenless.result_serve asked routed
  case mint =>
    intro mode
    have mints : service.opener.tokens =
        .minted settings.token.secret settings.token.lifetime := by
      simp only [service, ofSettings, TokenSource.ofSettings]
      rw [show settings.auth.mode = .mint from mode]
    constructor
    · intro call member token carries
      exact exists_identifies_of_token mints member carries
    · intro apartFromId apartFromName other sameMethod sameTarget sameRest
      exact serve_eq_of_without_eq mints apartFromId apartFromName sameMethod sameTarget
        sameRest

/-- A request without a token that names no file. -/
def namelessRequest : Request :=
  { method := "GET"
    target := ⟨"/api/v0/wopi/open".toList, none⟩
    headers := [⟨"x-remote-user", [0x61]⟩] }

/-- A request for a file by its path, with a tab in the token. -/
def tabbedTokenRequest : Request :=
  { method := "GET"
    target := ⟨"/api/v0/wopi/open".toList, some "filePath=/x".toList⟩
    headers := [⟨"x-remote-user", [0x61]⟩, ⟨"x-access-token", [0x61, 0x09, 0x62]⟩] }

/-- Not every request is told that it has no token: it may be turned away before one
is asked for.  And the characters of a token need not all be printable ones. -/
theorem tokenless_requests_differ :
    forwardingService.settings.auth.mode = .forward ∧
    (namelessRequest.headers.first? forwardingService.settings.auth.tokenHeader = none ∧
      forwardingService.route? namelessRequest = some .openFile ∧
      (forwardingService.serve .stopped namelessRequest).result.body =
        "fileID parameter missing in request") ∧
    (tabbedTokenRequest.headers.first? forwardingService.settings.auth.tokenHeader =
        some [0x61, 0x09, 0x62] ∧
      .stat (.path "/x") "a\tb" ∈ (forwardingService.serve .stopped tabbedTokenRequest).calls) := by
  decide +kernel

end Service

end Http

end EditorLaunch
