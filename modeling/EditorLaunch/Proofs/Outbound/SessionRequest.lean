import EditorLaunch.Proofs.Outbound.Building
import EditorLaunch.Proofs.Outbound.Classification

/-!
# Requests for sessions

What a session is asked for with is put into the query of an address.  Whatever the
file, the folder and the user are called, reading the query gives these names back,
each under its own name and in their order.  So no name can pass for another parameter,
and different sessions are asked for by different requests.
-/

namespace EditorLaunch

theorem ViewMode.text_injective {mode other : ViewMode} (same : mode.text = other.text) :
    mode = other := by
  cases mode <;> cases other <;> first | rfl | exact absurd same (by decide)

namespace Outbound

/-- Where a bridge lives: an address that is spoken, without a query or a fragment. -/
structure BridgeClient.LivesAt (client : BridgeClient) (url : Url) : Prop where
  reads : Url.parse client.host = .ok url
  spoken : isSpoken url = true
  noQuery : url.query = none
  noFragment : url.fragment = none

namespace BridgeClient

section

variable {client : BridgeClient} {url longer : Url} {session : SessionRequest}
variable {token : String}

theorem isTail_sessionPath : Url.IsTail sessionPath.toList where
  rooted := by decide
  plain := by
    have plain : sessionPath.toList.all (!Url.isTrimmed ·) = true := by decide
    simpa using plain
  unmarked := by decide

theorem LivesAt.leadsOn (livesAt : client.LivesAt url)
    (parsed : Url.parse (client.address sessionPath) = .ok longer) : url.LeadsOn longer :=
  Url.leadsOn_of_parse_append livesAt.reads (common_of_isSpoken livesAt.spoken)
    livesAt.noQuery livesAt.noFragment isTail_sessionPath parsed

/-- The query of what is sent is what is written for the parameters. -/
theorem query_sentTo (leadsOn : url.LeadsOn longer) :
    ((client.sessionDraft session token).sentTo longer).query =
      some (Form.encode (client.sessionDraft session token).parameters).toList := by
  change extendQuery longer.query _ = _
  rw [leadsOn.query]
  rfl

theorem queryIn_sentTo (leadsOn : url.LeadsOn longer) (divided : longer.Divided) :
    Url.queryIn ((client.sessionDraft session token).sentTo longer).text =
      some (Form.encode (client.sessionDraft session token).parameters).toList := by
  have sentDivided := divided_sentUrl divided
  have whole : ((client.sessionDraft session token).sentTo longer).Divided :=
    ⟨sentDivided.scheme, sentDivided.authority, sentDivided.path⟩
  rw [Url.queryIn_text whole, query_sentTo leadsOn]
  intro query isQuery member
  rw [query_sentTo leadsOn] at isQuery
  obtain rfl := Option.some.inj isQuery
  exact Form.ne_numberSign_of_mem_encode member rfl

theorem request_of_mem {request : OutboundRequest} (livesAt : client.LivesAt url)
    (member : .asked request ∈ (client.openSession session token).run.calls) :
    ∃ longer, url.LeadsOn longer ∧ longer.Divided ∧
      request = ⟨"GET", ((client.sessionDraft session token).sentTo longer).text,
        credentialHeaders url ++
          [("authorization", "Bearer " ++ client.secret), (tokenHeader, token)], ""⟩ := by
  have built := (client.repeats_openSession session token).build_of_mem member
  obtain ⟨longer, parsed, rfl⟩ := build_eq_ok built
  have leadsOn := livesAt.leadsOn parsed
  refine ⟨longer, leadsOn, Url.divided_parse parsed, ?_⟩
  rw [credentialHeaders_congr leadsOn.user]
  rfl

theorem decode_of_mem {request : OutboundRequest} (livesAt : client.LivesAt url)
    (member : .asked request ∈ (client.openSession session token).run.calls) :
    ∃ query, Url.queryIn request.address = some query ∧
      Form.decode (String.ofList query) =
        (client.sessionDraft session token).parameters := by
  obtain ⟨longer, leadsOn, divided, rfl⟩ := request_of_mem livesAt member
  refine ⟨_, queryIn_sentTo leadsOn divided, ?_⟩
  rw [String.ofList_toList, Form.decode_encode]

/-- One request asks for one session. -/
theorem eq_of_mem_of_mem {request : OutboundRequest} {other : SessionRequest}
    {otherToken : String} (livesAt : client.LivesAt url)
    (member : .asked request ∈ (client.openSession session token).run.calls)
    (otherMember : .asked request ∈ (client.openSession other otherToken).run.calls) :
    session = other ∧ token = otherToken := by
  obtain ⟨query, queryEq, decoded⟩ := decode_of_mem livesAt member
  obtain ⟨otherQuery, otherQueryEq, otherDecoded⟩ := decode_of_mem livesAt otherMember
  obtain rfl := Option.some.inj (queryEq.symm.trans otherQueryEq)
  have sameParameters := decoded.symm.trans otherDecoded
  simp only [sessionDraft, List.cons.injEq, Prod.mk.injEq, true_and, and_true]
    at sameParameters
  obtain ⟨fileKey, mode, folder, storageId, userName⟩ := sameParameters
  obtain ⟨longer, -, -, requestEq⟩ := request_of_mem livesAt member
  obtain ⟨otherLonger, -, -, otherEq⟩ := request_of_mem livesAt otherMember
  have sameHeaders := congrArg OutboundRequest.headers (requestEq.symm.trans otherEq)
  simp only [List.append_cancel_left_eq, List.cons.injEq, Prod.mk.injEq, true_and,
    and_true] at sameHeaders
  obtain ⟨file, viewMode, storage, folderUrl, user⟩ := session
  obtain ⟨otherFile, otherMode, otherStorage, otherFolder, otherUser⟩ := other
  have sameMode := ViewMode.text_injective mode
  simp only at fileKey folder storageId userName sameMode
  exact ⟨by rw [fileKey, sameMode, storageId, folder, userName], sameHeaders⟩

/-- Every session can be requested if the host can, unless the address gets too long. -/
theorem build_sessionDraft (livesAt : client.LivesAt url)
    (secretFits : isHeaderValue client.secret = true) (tokenFits : isHeaderValue token = true)
    (sendable : (Http.Target.ofText? (sentUrl url).text).isSome)
    (plainEnd : ∀ last ∈ client.host.toList.getLast?, Url.isTrimmed last = false) :
    (∃ request, (client.sessionDraft session token).build = .ok request) ∨
      ∃ address, (client.sessionDraft session token).build =
          .error (.unbuildable (some address)) ∧
        Http.Target.longest < address.utf8ByteSize := by
  have common := common_of_isSpoken livesAt.spoken
  obtain ⟨outside, slashes, -, -, -, parses⟩ :=
    Url.parse_append livesAt.reads common (Url.relevant_eq_begun plainEnd)
  obtain ⟨longer, parsed, sameAuthority⟩ : ∃ longer,
      Url.parse (client.sessionDraft session token).address = .ok longer ∧
        longer.authority = url.authority :=
    ⟨_, parses sessionPath isTail_sessionPath, rfl⟩
  have leadsOn := livesAt.leadsOn parsed
  have headersFit : ∀ header ∈ (client.sessionDraft session token).headers,
      isHeaderValue header.2 = true := by
    simp only [sessionDraft, List.mem_cons, List.not_mem_nil, or_false, forall_eq_or_imp,
      forall_eq]
    exact ⟨isHeaderValue_bearer secretFits, tokenFits⟩
  have spoken : isSpoken longer = true := by
    rw [isSpoken, leadsOn.scheme]
    exact livesAt.spoken
  have built := build_of_spoken parsed spoken leadsOn.query leadsOn.fragment headersFit
  by_cases requestable : Requestable ((client.sessionDraft session token).sentTo longer)
  · rw [if_pos requestable] at built
    exact .inl ⟨_, built⟩
  · rw [if_neg requestable] at built
    refine .inr ⟨_, built, ?_⟩
    by_contra short
    refine requestable ⟨fun authority isAuthority => ?_, Nat.not_lt.mp short⟩
    have hosts := host_sentTo (client.sessionDraft session token) longer
    rw [isAuthority, sameAuthority] at hosts
    obtain ⟨original, isOriginal, sameHost⟩ := Option.map_eq_some_iff.mp hosts.symm
    rw [← sameHost]
    exact fitsRequest_of_isSome livesAt.reads livesAt.spoken livesAt.noQuery
      livesAt.noFragment sendable original isOriginal

theorem isSent_or_tooLong (livesAt : client.LivesAt url)
    (secretFits : isHeaderValue client.secret = true) (tokenFits : isHeaderValue token = true)
    (sendable : (Http.Target.ofText? (sentUrl url).text).isSome)
    (plainEnd : ∀ last ∈ client.host.toList.getLast?, Url.isTrimmed last = false) :
    (client.openSession session token).run.calls ≠ [] ∨
      ∃ address, Http.Target.longest < address.utf8ByteSize ∧
        (client.openSession session token).run.result =
          .error (.bridgeUnavailable sessionPath
            ("unreachable: " ++ (TransportFailure.unbuildable (some address)).message)) := by
  rcases build_sessionDraft livesAt secretFits tokenFits sendable plainEnd with
    ⟨request, built⟩ | ⟨address, unbuilt, tooLong⟩
  · left
    exact List.ne_nil_of_mem ((client.repeats_openSession session token).mem_of_build built)
  · right
    refine ⟨address, tooLong, ?_⟩
    rw [result_openSession, result_send_of_unbuilt unbuilt]
    rfl

end

/-- What a session is asked for with cannot be forged by names.  Reading the query of a
request that asks for one gives the five parameters back, in their order; its headers are
the secret, the token, and the user of the host if there is one; and no request asks for
two sessions.
If the host itself can be requested, each session is asked for, unless the address
gets longer than a request can have it, and then the failure shows that address. -/
theorem sessions_read_back (client : BridgeClient) (url : Url)
    (livesAt : client.LivesAt url) :
    (∀ session token request, .asked request ∈ (client.openSession session token).run.calls →
      request.method = "GET" ∧
      (∃ query, Url.queryIn request.address = some query ∧
        Form.decode (String.ofList query) =
          [("filename", session.fileKey), ("viewmode", session.mode.text),
            ("folderurl", session.folder), ("endpoint", session.storageId),
            ("username", session.userName)]) ∧
      request.headers = credentialHeaders url ++
        [("authorization", "Bearer " ++ client.secret), ("TokenHeader", token)]) ∧
    (∀ session token other otherToken request,
      .asked request ∈ (client.openSession session token).run.calls →
        .asked request ∈ (client.openSession other otherToken).run.calls →
          session = other ∧ token = otherToken) ∧
    (isHeaderValue client.secret = true →
      (Http.Target.ofText? (sentUrl url).text).isSome →
      (∀ last ∈ client.host.toList.getLast?, Url.isTrimmed last = false) →
      ∀ session token, isHeaderValue token = true →
        (client.openSession session token).run.calls ≠ [] ∨
          ∃ address, Http.Target.longest < address.utf8ByteSize ∧
            (client.openSession session token).run.result =
              .error (.bridgeUnavailable sessionPath
                ("unreachable: " ++ (TransportFailure.unbuildable (some address)).message))) := by
  refine ⟨fun session token request member => ?_,
    fun session token other otherToken request => eq_of_mem_of_mem livesAt,
    fun secretFits sendable plainEnd session token tokenFits =>
      isSent_or_tooLong livesAt secretFits tokenFits sendable plainEnd⟩
  refine ⟨?_, decode_of_mem livesAt member, ?_⟩
  · obtain ⟨longer, -, -, rfl⟩ := request_of_mem livesAt member
    rfl
  · obtain ⟨longer, -, -, rfl⟩ := request_of_mem livesAt member
    rfl

/-- A bridge on this host that no one reaches. -/
def closedBridge : BridgeClient where
  host := "http://[::1]:8880/"
  secret := "secret"
  line := {
    retry := { maxAttempts := 1 }
    draw := fun _ => 0
    redirection := .absolute
    script := fun _ _ => ⟨.ofSeconds 0, .silent .refused⟩ }

def closedUrl : Url where
  scheme := "http".toList
  authority := some ⟨[], [], .long ⟨[0, 0, 0, 0, 0, 0, 0, 1], rfl⟩, some 8880⟩
  path := .rooted ['/']
  query := none
  fragment := none

/-- A file whose name asks for more rights than its session has. -/
def forgingSession : SessionRequest :=
  ⟨"a&viewmode=VIEW_MODE_READ_WRITE#", .readOnly, "s", "/?", "Ada"⟩

theorem forged_mode_stays_a_name :
    closedBridge.LivesAt closedUrl ∧
      ∃ request, .asked request ∈ (closedBridge.openSession forgingSession "t").run.calls ∧
        ∃ query, Url.queryIn request.address = some query ∧
          Form.decode (String.ofList query) =
            [("filename", "a&viewmode=VIEW_MODE_READ_WRITE#"),
              ("viewmode", "VIEW_MODE_READ_ONLY"), ("folderurl", "/?"), ("endpoint", "s"),
              ("username", "Ada")] := by
  have read : (Url.parse closedBridge.host).toOption = some closedUrl := by decide +kernel
  have livesAt : closedBridge.LivesAt closedUrl :=
    ⟨eq_ok_of_toOption read, by decide, rfl, rfl⟩
  have sendable : (closedBridge.sessionDraft forgingSession "t").build.isOk = true := by
    decide +kernel
  obtain ⟨request, built⟩ := exists_eq_ok sendable
  have member : .asked request ∈ (closedBridge.openSession forgingSession "t").run.calls :=
    (closedBridge.repeats_openSession forgingSession "t").mem_of_build built
  obtain ⟨-, query, -⟩ := (sessions_read_back closedBridge closedUrl livesAt).1
    forgingSession "t" request member
  exact ⟨livesAt, request, member, query⟩

end BridgeClient

end Outbound

end EditorLaunch
