import EditorLaunch.Outbound.Network
import EditorLaunch.Proofs.Http.Budget
import EditorLaunch.Proofs.Http.StorageToken
import EditorLaunch.Proofs.Outbound.Classification
import EditorLaunch.Proofs.Outbound.Confinement
import EditorLaunch.Proofs.StorageToken

/-!
# Secrets are confined

Two services whose settings differ only in their two secrets serve every request in the
same way: the response is the same, and so is each request that is sent for it, apart
from the headers that are meant to carry the secrets.  A request to open a session is
authorised by the secret of the bridge, and the last segment of a minted token is its
signature.
-/

namespace EditorLaunch

/-- Two ways of opening files that differ only in tokens and in what is called. -/
structure Opener.Alike (alike : Call → Call → Prop) (tokens : String → String → Prop)
    (opener other : Opener) : Prop where
  tokenFor : ∀ now caller,
    Action.Agree alike tokens (opener.tokens.tokenFor now caller)
      (other.tokens.tokenFor now caller)
  stat : ∀ reference token otherToken, tokens token otherToken →
    Action.Agree alike Eq (opener.stat reference token) (other.stat reference otherToken)
  fetchCatalogue : Action.Agree alike Eq opener.fetchCatalogue other.fetchCatalogue
  openSession : ∀ session token otherToken, tokens token otherToken →
    Action.Agree alike Eq (opener.openSession session token)
      (other.openSession session otherToken)
  lifetime : opener.lifetime = other.lifetime

namespace Opener.Alike

variable {alike : Call → Call → Prop} {tokens : String → String → Prop}
variable {opener other : Opener} {token otherToken : String}

theorem connect (same : Opener.Alike alike tokens opener other)
    (sameToken : tokens token otherToken) (clock : Clock) (caller : Caller) (metadata : Metadata)
    (mode : ViewMode) (address : String) :
    Action.Agree alike Eq (opener.connect clock caller token metadata mode address)
      (other.connect clock caller otherToken metadata mode address) := by
  unfold Opener.connect
  refine (same.openSession _ _ _ sameToken).bind fun handle _ sameHandle => ?_
  rw [← sameHandle, same.lifetime]
  refine Action.Agree.bind (.settle (sameOutcome_self _)) fun link _ sameLink => ?_
  exact .pure (congrArg Outcome.opened sameLink)

theorem launch (same : Opener.Alike alike tokens opener other)
    (sameToken : tokens token otherToken) (clock : Clock) (caller : Caller) (metadata : Metadata)
    (mode : ViewMode) (kind : EditorKind) :
    Action.Agree alike Eq (opener.launch clock caller token metadata mode kind)
      (other.launch clock caller otherToken metadata mode kind) := by
  unfold Opener.launch
  refine (Action.Agree.log _ _).bind fun _ _ _ => ?_
  refine same.fetchCatalogue.bind fun catalogue _ sameCatalogue => ?_
  rw [← sameCatalogue]
  refine Action.Agree.bind (.settle (sameOutcome_self _)) fun address _ sameAddress => ?_
  rw [← sameAddress]
  exact same.connect sameToken clock caller metadata mode address

theorem openFound (same : Opener.Alike alike tokens opener other)
    (sameToken : tokens token otherToken) (clock : Clock) (caller : Caller)
    (metadata : Metadata) :
    Action.Agree alike Eq (opener.openFound clock caller token metadata)
      (other.openFound clock caller otherToken metadata) := by
  unfold Opener.openFound
  refine Action.Agree.bind (.settle (sameOutcome_self _)) fun _ _ _ => ?_
  split
  · exact (Action.Agree.log _ _).bind fun _ _ _ => .pure rfl
  · exact same.launch sameToken clock caller metadata _ _

theorem openFile (same : Opener.Alike alike tokens opener other) (clock : Clock)
    (target : FileTarget) (caller : Caller) :
    Action.Agree alike Eq (opener.openFile clock target caller)
      (other.openFile clock target caller) := by
  unfold Opener.openFile
  refine Action.Agree.bind (.settle (sameOutcome_self _)) fun reference _ sameReference => ?_
  rw [← sameReference]
  refine (same.tokenFor clock.first caller).bind fun token otherToken sameToken => ?_
  refine (same.stat _ _ _ sameToken).bind fun metadata _ sameMetadata => ?_
  rw [← sameMetadata]
  exact same.openFound sameToken clock caller metadata

end Opener.Alike

namespace Http.Service

variable {alike : Call → Call → Prop} {tokens : String → String → Prop}
variable {service other : Service}

/-- Two services that differ only in tokens and in what is called. -/
structure Alike (alike : Call → Call → Prop) (tokens : String → String → Prop)
    (service other : Service) : Prop where
  auth : service.settings.auth = other.settings.auth
  web : service.settings.web = other.settings.web
  opener : Opener.Alike alike tokens service.opener other.opener

theorem Alike.openTarget (same : Alike alike tokens service other) (clock : Clock)
    (caller : Caller) (target : FileTarget) :
    Traced.Agree alike Eq (service.openTarget clock caller target)
      (other.openTarget clock caller target) := by
  unfold Service.openTarget
  refine (Traced.Agree.log _ _).bind fun _ _ _ => ?_
  refine Traced.Agree.bind (same.opener.openFile clock target caller)
    fun outcome otherOutcome sameOutcome => ?_
  rw [← sameOutcome.eq]
  split
  · exact .pure rfl
  · exact .pure rfl
  · exact .of_onlyLogs (onlyLogs_reject _)

theorem Alike.handleOpen (same : Alike alike tokens service other) (clock : Clock)
    (request : Request) :
    Traced.Agree alike Eq (service.handleOpen clock request) (other.handleOpen clock request) := by
  unfold Service.handleOpen
  rw [← same.auth]
  split
  · exact .of_onlyLogs (onlyLogs_reject _)
  · split
    · exact .pure rfl
    · split
      · exact .of_onlyLogs (onlyLogs_reject _)
      · exact same.openTarget clock _ _

theorem Alike.dispatch (same : Alike alike tokens service other) (clock : Clock)
    (request : Request) :
    Traced.Agree alike Eq (service.dispatch clock request) (other.dispatch clock request) := by
  unfold Service.dispatch Service.route? Service.handle
  rw [← same.web]
  split
  · exact .pure rfl
  · split
    · split
      · exact same.handleOpen clock request
      · exact .pure rfl
      · exact .pure rfl
    · exact .pure rfl

theorem Alike.dispatchInTime (same : Alike alike tokens service other) (clock : Clock)
    (request : Request) :
    Traced.Agree alike Eq (service.dispatchInTime clock request)
      (other.dispatchInTime clock request) := by
  unfold Service.dispatchInTime
  rw [← same.web]
  refine ((same.dispatch clock request).within _).bind fun response _ sameResponse => ?_
  cases sameResponse with
  | some sameResponse => exact .pure sameResponse
  | none => exact (Traced.Agree.log _ _).bind fun _ _ _ => .pure rfl

theorem Alike.serve (same : Alike alike tokens service other) (clock : Clock)
    (request : Request) :
    Traced.Agree alike Eq (service.serve clock request) (other.serve clock request) := by
  unfold Service.serve
  split
  · refine .pure ?_
    unfold Service.preflight Service.route?
    rw [same.web]
  · unfold Service.answer
    refine (Traced.Agree.log _ _).bind fun _ _ _ => ?_
    refine (same.dispatchInTime clock request).bind fun response _ sameResponse => ?_
    rw [← sameResponse]
    exact (Traced.Agree.of_onlyLogs (onlyLogs_logCompletion _)).bind fun _ _ _ => .pure rfl

end Http.Service

/-- The same settings with other secrets. -/
def Settings.withSecrets (settings : Settings) (bridgeSecret tokenSecret : String) :
    Settings :=
  { settings with
    bridge := { settings.bridge with secret := bridgeSecret }
    token := { settings.token with secret := tokenSecret } }

/-- What tokens have in common whatever they are signed with: tokens that are taken over
are the same, and minted ones differ in the last of three segments at most. -/
def TokensAlike : TokenMode → String → String → Prop
  | .forward, token, other => token = other
  | .mint, token, other =>
      ∃ header claims signature otherSignature,
        StorageToken.segments token = [header, claims, signature] ∧
          StorageToken.segments other = [header, claims, otherSignature]

/-- Calls that are the same up to secrets: only requests to open sessions are authorised
by the secret of the bridge, and only these and look-ups carry tokens.  Where replies lead
elsewhere, a request takes along what it has. -/
inductive Call.Alike (settings : Settings) (redirection : Outbound.Redirection)
    (bridgeSecret : String) : Call → Call → Prop where
  | stat (reference : Reference) {token other : String}
      (same : TokensAlike settings.auth.mode token other) :
      Alike settings redirection bridgeSecret (.stat reference token) (.stat reference other)
  | fetchCatalogue : Alike settings redirection bridgeSecret .fetchCatalogue .fetchCatalogue
  | openSession (session : SessionRequest) {token other : String}
      (same : TokensAlike settings.auth.mode token other) :
      Alike settings redirection bridgeSecret (.openSession session token)
        (.openSession session other)
  | sendLookUp {first second : Outgoing}
      (same : Outbound.LookUpsAlike redirection settings.gateway.address
        (TokensAlike settings.auth.mode) first second) :
      Alike settings redirection bridgeSecret (.send first) (.send second)
  | sendListing {first second : Outgoing}
      (same : Outbound.ListingsAlike redirection settings.bridge.host first second) :
      Alike settings redirection bridgeSecret (.send first) (.send second)
  | sendOpening {first second : Outgoing}
      (same : Outbound.OpeningsAlike redirection settings.bridge.host settings.bridge.secret
        bridgeSecret (TokensAlike settings.auth.mode) first second) :
      Alike settings redirection bridgeSecret (.send first) (.send second)

/-- Tokens that are alike and can be sent equally well. -/
structure FitTokensAlike (mode : TokenMode) (token other : String) : Prop where
  same : TokensAlike mode token other
  fits : Outbound.isHeaderValue token = Outbound.isHeaderValue other

theorem fitTokensAlike_sign (secret other : String) (claims : TokenClaims) :
    FitTokensAlike .mint (StorageToken.sign secret claims)
      (StorageToken.sign other claims) where
  same := ⟨_, _, _, _, StorageToken.segments_sign secret claims,
    StorageToken.segments_sign other claims⟩
  fits := by rw [StorageToken.isHeaderValue_sign, StorageToken.isHeaderValue_sign]

variable {alike : Call → Call → Prop}

theorem TokenSource.agree_tokenFor (settings : Settings) (bridgeSecret tokenSecret : String)
    (now : Instant) (caller : Caller) :
    Action.Agree alike (FitTokensAlike settings.auth.mode)
      ((ofSettings settings).tokenFor now caller)
      ((ofSettings (settings.withSecrets bridgeSecret tokenSecret)).tokenFor now caller) := by
  have sameMode : (settings.withSecrets bridgeSecret tokenSecret).auth.mode =
      settings.auth.mode := rfl
  unfold ofSettings
  rw [sameMode]
  cases settings.auth.mode with
  | mint =>
      exact (Action.Agree.log _ _).bind fun _ _ _ => .pure (fitTokensAlike_sign _ _ _)
  | forward =>
      simp only [tokenFor]
      split
      · exact .pure ⟨rfl, rfl⟩
      · exact .throw _

namespace Http.Service

open Outbound (backend Redirection Reply Scripts isHeaderValue)

theorem settings_ofSettings (settings : Settings) (backend : Backend) :
    (ofSettings settings backend).settings = settings :=
  rfl

theorem alike_ofSettings (settings : Settings) (bridgeSecret tokenSecret : String)
    (draw : Nat → Nat) (redirection : Redirection) (scripts : Scripts)
    (fits : isHeaderValue settings.bridge.secret = true)
    (otherFits : isHeaderValue bridgeSecret = true) :
    Alike (Call.Alike settings redirection bridgeSecret) (FitTokensAlike settings.auth.mode)
      (ofSettings settings (backend settings draw redirection scripts))
      (ofSettings (settings.withSecrets bridgeSecret tokenSecret)
        (backend (settings.withSecrets bridgeSecret tokenSecret) draw redirection scripts)) where
  auth := by
    rw [settings_ofSettings, settings_ofSettings]
    rfl
  web := by
    rw [settings_ofSettings, settings_ofSettings]
    rfl
  opener := {
    tokenFor := TokenSource.agree_tokenFor settings bridgeSecret tokenSecret
    stat := by
      intro reference token other same
      refine (Action.Agree.start (.stat reference same.same)).bind fun _ _ _ => ?_
      exact (Outbound.GatewayClient.agree_stat _ reference same.same same.fits).mapCalls
        fun first second => .sendLookUp
    fetchCatalogue := by
      refine (Action.Agree.start .fetchCatalogue).bind fun _ _ _ => ?_
      exact (Outbound.BridgeClient.agree_fetchCatalogue _ bridgeSecret).mapCalls
        fun first second => .sendListing
    openSession := by
      intro session token other same
      refine (Action.Agree.start (.openSession session same.same)).bind fun _ _ _ => ?_
      exact (Outbound.BridgeClient.agree_openSession _ session fits otherFits same.same
        same.fits).mapCalls fun first second => .sendOpening
    lifetime := rfl }

/-- Two services whose settings differ only in the secrets, and whose secrets of the
bridge can stand in a header, serve a request alike: with the same response, the same
messages, and calls that are the same, one for one, up to the header that authorises the
opening of a session and, where tokens are minted, up to the signatures of tokens. -/
theorem secrets_are_confined (settings : Settings) (bridgeSecret tokenSecret : String)
    (draw : Nat → Nat) (redirection : Redirection) (scripts : Scripts) (clock : Clock)
    (request : Request) (fits : isHeaderValue settings.bridge.secret = true)
    (otherFits : isHeaderValue bridgeSecret = true) :
    let other := settings.withSecrets bridgeSecret tokenSecret
    let service := ofSettings settings (backend settings draw redirection scripts)
    let otherService := ofSettings other (backend other draw redirection scripts)
    let served := service.serve clock request
    let servedOther := otherService.serve clock request
    served.result = servedOther.result ∧ served.events = servedOther.events ∧
      List.Forall₂ (Call.Alike settings redirection bridgeSecret) served.calls
        servedOther.calls := by
  have agree := (alike_ofSettings settings bridgeSecret tokenSecret draw redirection scripts fits
    otherFits).serve clock request
  exact ⟨agree.result, agree.events_eq, agree.calls⟩

/-- Settings with services on this host that are asked once, and tokens that are minted. -/
def localSettings : Settings where
  bridge := { host := "http://[::1]:8880", secret := "bridge" }
  gateway := { address := "http://[::1]:9142" }
  token := { secret := "token" }
  retry := { maxAttempts := 1 }

/-- A reply that agrees and comes whole. -/
def agreeing (content : String) : Reply :=
  { status := 200, body := Utf8.ofText content, bodyEnd := .whole }

/-- A file of three octets may be viewed. -/
def viewableReply : Reply :=
  agreeing ("\x7b\"status\":[\"CODE_OK\"],\"info\":[[\"s\",\"o\"],\"/n\",3," ++
    "\"RESOURCE_TYPE_FILE\",\x7b\"initiate_file_download\":true\x7d]\x7d")

/-- What is told of it. -/
def viewableFile : Metadata where
  id := ⟨"s", "o"⟩
  path := "/n"
  size := 3
  kind := .file
  permissions := { upload := false, download := true }

/-- An editor views files of all kinds. -/
def viewers : EditorAddresses :=
  ⟨"office:view?a=b", "", ""⟩

/-- The catalogue tells of it. -/
def agreeingCatalogue : Reply :=
  agreeing "\x7b\"\":[\"office:view?a=b\",\"\",\"\"]\x7d"

/-- Each request is answered in a second: the file may be viewed, there is an editor for
it, and sessions are opened. -/
def agreeingScripts : Scripts where
  stat := fun _ _ => ⟨.ofSeconds 1, .answered viewableReply⟩
  catalogue := fun _ _ => ⟨.ofSeconds 1, .answered agreeingCatalogue⟩
  session := fun _ _ => ⟨.ofSeconds 1, .answered (agreeing "handle")⟩

/-- A request for a file by its path. -/
def plainRequest : Request :=
  { method := "GET"
    target := ⟨"/api/v0/wopi/open".toList, some "filePath=/x".toList⟩
    headers := [⟨"x-remote-user", [0x61]⟩] }

section

variable (draw : Nat → Nat) (redirection : Redirection)

/-- The service of these settings, behind which everything is agreed to. -/
def agreeingService : Service :=
  ofSettings localSettings (backend localSettings draw redirection agreeingScripts)

variable {token : String}

theorem stat_agreeing (fits : isHeaderValue token = true) :
    ((agreeingService draw redirection).opener.backend.stat (.path "/x") token).run.result =
      .ok viewableFile := by
  let client : Outbound.GatewayClient :=
    ⟨localSettings.gateway.address,
      ⟨localSettings.retry, draw, redirection, agreeingScripts.stat⟩⟩
  have plain : (Outbound.GatewayClient.statDraft
      ⟨localSettings.gateway.address, silentLine⟩ (.path "/x") "t").build.isOk = true := by
    decide +kernel
  have built : (client.statDraft (.path "/x") token).build.isOk = true :=
    (client.isOk_build_statDraft (.path "/x") fits).trans plain
  have sent := (client.repeats_stat (.path "/x") token).ne_nil_of_isOk built
  refine (client.stat_eq_ok_iff _ _ _).mpr
    ⟨⟨.ok, "", some viewableFile⟩, ⟨viewableReply, ⟨sent, rfl⟩, ?_⟩, rfl, rfl⟩
  exact ⟨by decide, by decide, rfl, by decide +kernel⟩

theorem fetchCatalogue_agreeing :
    (agreeingService draw redirection).opener.backend.fetchCatalogue.run.result =
      .ok ⟨[("", viewers)]⟩ := by
  let client : Outbound.BridgeClient :=
    ⟨localSettings.bridge.host, localSettings.bridge.secret,
      ⟨localSettings.retry, draw, redirection, agreeingScripts.catalogue⟩⟩
  have built : (Outbound.BridgeClient.catalogueDraft
      ⟨localSettings.bridge.host, localSettings.bridge.secret, silentLine⟩).build.isOk = true := by
    decide +kernel
  have sent := client.repeats_fetchCatalogue.ne_nil_of_isOk built
  refine (client.fetchCatalogue_eq_ok_iff _).mpr
    ⟨agreeingCatalogue, [("", viewers)], ⟨sent, rfl⟩, ?_, by decide +kernel⟩
  exact ⟨rfl, rfl, by decide +kernel⟩

theorem openSession_agreeing (fits : isHeaderValue token = true) :
    ((agreeingService draw redirection).opener.backend.openSession
      ⟨"o", .readOnly, "s", "/", "a"⟩ token).run.result = .ok ⟨"handle"⟩ := by
  let client : Outbound.BridgeClient :=
    ⟨localSettings.bridge.host, localSettings.bridge.secret,
      ⟨localSettings.retry, draw, redirection, agreeingScripts.session⟩⟩
  have plain : (Outbound.BridgeClient.sessionDraft
      ⟨localSettings.bridge.host, localSettings.bridge.secret, silentLine⟩
      ⟨"o", .readOnly, "s", "/", "a"⟩ "t").build.isOk = true := by
    decide +kernel
  have secretFits : isHeaderValue localSettings.bridge.secret = true := by decide
  have built : (client.sessionDraft ⟨"o", .readOnly, "s", "/", "a"⟩ token).build.isOk = true :=
    (client.isOk_build_sessionDraft _ secretFits fits).trans plain
  have sent := (client.repeats_openSession _ token).ne_nil_of_isOk built
  refine (client.openSession_eq_ok_iff _ _ _).mpr ⟨agreeing "handle", ⟨sent, rfl⟩, ?_⟩
  exact ⟨rfl, rfl, by decide +kernel⟩

/-- The token that is minted for the request. -/
def mintedToken : String :=
  StorageToken.sign localSettings.token.secret
    (.forPrincipal ⟨"a", "a"⟩ localSettings.token.lifetime .epoch)

theorem openFile_agreeing :
    ∃ link, ((agreeingService draw redirection).opener.openFile .stopped (.path "/x")
        ⟨⟨"a", "a"⟩, none⟩).observed =
      ([.stat (.path "/x") mintedToken, .fetchCatalogue,
          .openSession ⟨"o", .readOnly, "s", "/", "a"⟩ mintedToken],
        .ok (.opened link)) := by
  have fits : isHeaderValue mintedToken = true := StorageToken.isHeaderValue_sign _ _
  have offers : (agreeingService draw redirection).opener.Offers .stopped (.path "/x")
      ⟨⟨"a", "a"⟩, none⟩ (.path "/x") mintedToken viewableFile .readOnly .view ⟨[("", viewers)]⟩
      viewers.view :=
    { named := .path
      granted := TokenSource.result_tokenFor_minted _ _
      found := stat_agreeing draw redirection fits
      file := rfl
      allowed := rfl
      listed := fetchCatalogue_agreeing draw redirection
      offered := ⟨viewers, by decide +kernel, rfl, by decide⟩ }
  have links : (EditorLink.assemble viewers.view ⟨"handle"⟩ localSettings.token.lifetime
      0).isOk = true := by
    decide +kernel
  obtain ⟨link, linked⟩ := Outbound.exists_eq_ok links
  exact ⟨link,
    (Opener.Run.opened offers (openSession_agreeing draw redirection fits) linked).observed_eq⟩

/-- The services keep to the time that they may take. -/
theorem nanoseconds_agreeing :
    ((agreeingService draw redirection).dispatch .stopped plainRequest).nanoseconds ≤
      (agreeingService draw redirection).settings.web.requestTimeout.timer := by
  have keeps {reply : Reply} (stays : reply.lead? = none) :
      Outbound.Line.Keeps
        ⟨localSettings.retry, draw, redirection, fun _ _ => ⟨.ofSeconds 1, .answered reply⟩⟩
        localSettings.retry (.ofSeconds 4) := by
    refine ⟨rfl, fun attempt request => ?_⟩
    have stay : redirection.next? request reply = none := by simp [Redirection.next?, stays]
    rw [Outbound.Line.journey, Outbound.Redirection.journey_of_stay 0 rfl stay,
      Outbound.Journey.nanoseconds_of_stay]
    exact (by decide : (Duration.ofSeconds 1).nanoseconds ≤ (Duration.ofSeconds 4).nanoseconds)
  refine (nanoseconds_dispatch_le_exactBudget
    (Outbound.backend_eq_backendOver localSettings draw redirection agreeingScripts)
    (by decide) ⟨keeps rfl, keeps rfl, keeps rfl⟩).trans ?_
  rw [agreeingService, settings_ofSettings]
  decide

theorem dispatch_agreeing :
    (agreeingService draw redirection).dispatch .stopped plainRequest =
      (agreeingService draw redirection).openTarget .stopped ⟨⟨"a", "a"⟩, none⟩
        (.path "/x") := by
  have routed : (agreeingService draw redirection).route? plainRequest = some .openFile :=
    (by decide +kernel : forwardingService.route? plainRequest = some .openFile)
  have known : callerOf plainRequest.headers (agreeingService draw redirection).settings.auth =
      .ok ⟨⟨"a", "a"⟩, none⟩ :=
    Outbound.eq_ok_of_toOption (by decide +kernel :
      (callerOf plainRequest.headers localSettings.auth).toOption = _)
  have query : OpenQuery.ofText (String.ofList (plainRequest.target.query?.getD [])) =
      .ok ⟨none, some "/x"⟩ :=
    Outbound.eq_ok_of_toOption (by decide +kernel)
  have target : (⟨none, some "/x"⟩ : OpenQuery).target = .ok (.path "/x") := by rfl
  rw [dispatch_get_openFile rfl routed]
  simp only [handleOpen, known, query, target]

end

/-- The opening of a session with a token that is signed for it does not tell the secrets:
with others the user is led to the same editor, and the calls are alike. -/
theorem opening_of_session_tells_no_secrets :
    isHeaderValue localSettings.bridge.secret = true ∧ isHeaderValue "other" = true ∧
    (let served := (agreeingService (fun _ => 0) .absolute).serve .stopped plainRequest
     let other := localSettings.withSecrets "other" "different"
     let servedOther := (ofSettings other
       (backend other (fun _ => 0) .absolute agreeingScripts)).serve .stopped plainRequest
     localSettings.auth.mode = .mint ∧
      .openSession ⟨"o", .readOnly, "s", "/", "a"⟩ mintedToken ∈ served.calls ∧
      served.result.status = 200 ∧ served.result.body ≠ "" ∧
      servedOther.result = served.result ∧
      List.Forall₂ (Call.Alike localSettings .absolute "other") served.calls
        servedOther.calls) := by
  have secretFits : isHeaderValue localSettings.bridge.secret = true := by decide
  have otherFits : isHeaderValue "other" = true := by decide
  obtain ⟨sameResult, -, alike⟩ := secrets_are_confined localSettings "other" "different"
    (fun _ => 0) .absolute agreeingScripts .stopped plainRequest secretFits otherFits
  obtain ⟨link, observed⟩ := openFile_agreeing (fun _ => 0) .absolute
  obtain ⟨asked, opened⟩ := Prod.mk.inj observed
  obtain ⟨callsEq, resultEq⟩ := serve_get_eq (rfl : plainRequest.method = "GET")
    (nanoseconds_agreeing (fun _ => 0) .absolute)
  rw [dispatch_agreeing, calls_openTarget] at callsEq
  rw [dispatch_agreeing, result_openTarget, opened] at resultEq
  have member : .openSession ⟨"o", .readOnly, "s", "/", "a"⟩ mintedToken ∈
      ((agreeingService (fun _ => 0) .absolute).opener.openFile .stopped (.path "/x")
        ⟨⟨"a", "a"⟩, none⟩).run.asked := by
    rw [asked]
    simp
  refine ⟨secretFits, otherFits, rfl, ?_, ?_, ?_, sameResult.symm, alike⟩
  · rw [callsEq]
    exact (List.mem_filter.mp member).1
  · rw [resultEq]
    rfl
  · rw [resultEq]
    exact Response.body_ofOutcome_opened_ne_empty link

end Http.Service

end EditorLaunch
