import EditorLaunch.Outbound.Network
import EditorLaunch.Proofs.Outbound.Gateway

/-!
# Answers are final

A call sends one request, and sends the same one again while nothing answers it for
a reason that may pass.  How an answer is read decides whether it is final.  For
look-ups and catalogues every answer is; a session is asked for once more when the
bridge agrees to open it and its answer is not finished in time.
-/

namespace EditorLaunch.Outbound

/-- What goes out for a draft.  There is nothing if it cannot be built.  Otherwise the
same request is asked with at least once and at most as often as is allowed, each time
followed by those that replies lead to, and behind each time once more exactly if that is
allowed and what came of the last request calls for it.  As long as no reply leads
elsewhere, nothing goes out but that one request. -/
structure Repeats (line : Line) (draft : Draft) (callsForMore : Attempt → Prop)
    (sent : List Outgoing) : Prop where
  unbuilt : ∀ cause, draft.build = .error cause → sent = []
  built : ∀ request, draft.build = .ok request →
    ∃ attempts : List (List OutboundRequest),
      sent = attempts.flatMap (outgoingOf request) ∧
      1 ≤ attempts.length ∧ attempts.length ≤ max 1 line.retry.maxAttempts.toNat ∧
      ∀ before hops, attempts[before]? = some hops →
        line.redirection.Follows (line.script (before + 1)) 0 request hops ∧
        (before + 1 < attempts.length ↔
          before + 1 < max 1 line.retry.maxAttempts.toNat ∧
            callsForMore (line.script (before + 1) hops.length).attempt)
  plain : (∀ attempt hop reply, (line.script attempt hop).attempt = .answered reply →
      reply.lead? = none) →
    ∀ request, draft.build = .ok request →
      ∃ count, 1 ≤ count ∧ count ≤ max 1 line.retry.maxAttempts.toNat ∧
        sent = List.replicate count (.asked request)

theorem asked_mem_outgoingOf_iff {request other : OutboundRequest}
    {hops : List OutboundRequest} :
    .asked other ∈ outgoingOf request hops ↔ other = request := by
  simp [outgoingOf]

/-- While no reply leads elsewhere, an attempt is one request. -/
theorem Redirection.Follows.eq_nil {redirection : Redirection} {exchanges : Nat → Exchange}
    {hop : Nat} {request : OutboundRequest} {hops : List OutboundRequest}
    (follows : redirection.Follows exchanges hop request hops)
    (stays : ∀ reply, (exchanges hop).attempt = .answered reply → reply.lead? = none) :
    hops = [] := by
  cases follows with
  | ends => rfl
  | goesOn below leads behind =>
      obtain ⟨reply, location, -, answered, isLead, -⟩ := leads
      simp [stays reply answered] at isLead

theorem Line.hops_eq_nil {line : Line} {attempt : Nat} (request : OutboundRequest)
    (stays : ∀ reply, (line.script attempt 0).attempt = .answered reply →
      reply.lead? = none) : line.hops attempt request = [] :=
  (line.follows_hops attempt request).1.eq_nil stays

theorem attempts_eq_max (settings : RetrySettings) :
    settings.attempts = max 1 settings.maxAttempts.toNat :=
  Nat.max_comm _ _

namespace Repeats

variable {line : Line} {draft : Draft} {callsForMore : Attempt → Prop}
variable {sent : List Outgoing} {request : OutboundRequest}

theorem build_of_mem (repeats : Repeats line draft callsForMore sent)
    (member : .asked request ∈ sent) : draft.build = .ok request := by
  cases built : draft.build with
  | error cause =>
      rw [repeats.unbuilt cause built] at member
      cases member
  | ok other =>
      obtain ⟨attempts, rfl, -⟩ := repeats.built other built
      obtain ⟨hops, -, among⟩ := List.mem_flatMap.mp member
      rw [asked_mem_outgoingOf_iff.mp among]

theorem mem_of_build (repeats : Repeats line draft callsForMore sent)
    (built : draft.build = .ok request) : .asked request ∈ sent := by
  obtain ⟨attempts, rfl, some, -⟩ := repeats.built request built
  obtain ⟨hops, among⟩ := List.exists_mem_of_length_pos some
  exact List.mem_flatMap.mpr ⟨hops, among, asked_mem_outgoingOf_iff.mpr rfl⟩

theorem ne_nil_of_isOk (repeats : Repeats line draft callsForMore sent)
    (sendable : draft.build.isOk = true) : sent ≠ [] := by
  obtain ⟨request, built⟩ := exists_eq_ok sendable
  exact List.ne_nil_of_mem (repeats.mem_of_build built)

end Repeats

section

variable {line : Line} {draft : Draft} {attempt : Nat} {request : OutboundRequest}
variable {read : Reply → Action Outgoing α}

theorem calls_sendOnce_of_built (built : draft.build = .ok request) :
    (line.sendOnce draft attempt).run.calls =
      outgoingOf request (line.hops attempt request) := by
  rw [Traced.calls, steps_sendOnce_of_built built]
  exact (Journey.calls_travel _).trans
    (congrArg (outgoingOf · _) (congrArg Leg.request (Redirection.first_journey ..)))

/-- Sending a request and reading the reply is what goes out in one attempt. -/
theorem calls_sendAndRead_of_built (reads : ∀ reply, (read reply).run.calls = [])
    (built : draft.build = .ok request) :
    (line.sendOnce draft attempt >>= read).run.calls =
      outgoingOf request (line.hops attempt request) := by
  have sent : (line.sendOnce draft attempt).run.calls =
      outgoingOf request (line.hops attempt request) :=
    calls_sendOnce_of_built built
  cases outcome : (line.sendOnce draft attempt).run.result with
  | error failure => rw [Action.calls_bind_of_error _ outcome, sent]
  | ok reply => rw [Action.calls_bind_of_ok _ outcome, sent, reads, List.append_nil]

/-- An attempt fails for a reason that may pass if its last request is lost, or if reading
what answered it fails so. -/
theorem failsTransiently_sendAndRead_iff {last : Attempt} (built : draft.build = .ok request)
    (came : (line.script attempt (line.hops attempt request).length).attempt = last)
    (leadsAreFinal : ∀ reply, reply.lead? ≠ none → ¬ FailsTransiently (read reply)) :
    FailsTransiently (line.sendOnce draft attempt >>= read) ↔
      last.IsLost ∨ ∃ reply, last = .answered reply ∧ FailsTransiently (read reply) := by
  have yields := (line.follows_hops attempt request).2
  rw [came] at yields
  rw [← yields.isTransient_iff]
  unfold FailsTransiently at leadsAreFinal ⊢
  rw [Action.result_bind, result_sendOnce_of_built built]
  generalize (line.journey attempt request).outcome = outcome at yields ⊢
  cases yields with
  | silent address silence =>
      simp [Except.mapError, bind, Except.bind, Failure.isTransient]
  | answered reply => simp [Except.mapError, bind, Except.bind]
  | misled leads final =>
      simpa [Except.mapError, bind, Except.bind, Failure.isTransient, final] using
        leadsAreFinal _ leads

end

theorem calls_send_of_unbuilt {line : Line} {name : String} {draft : Draft}
    {read : Reply → Action Outgoing α} {cause : TransportFailure}
    (unbuilt : draft.build = .error cause) :
    (line.send name draft read).run.calls = [] := by
  obtain ⟨last, -, -, callsEq⟩ :=
    exists_last_attempt_withRetry line.retry line.draw name fun attempt => do
      read (← line.sendOnce draft attempt)
  rw [Line.send, callsEq, List.flatMap_eq_nil_iff]
  rintro attempt -
  rw [Action.calls_bind_of_error _ (result_sendOnce_of_unbuilt unbuilt), Traced.calls,
    steps_sendOnce_of_unbuilt unbuilt]
  rfl

theorem result_send_of_unbuilt {line : Line} {name : String} {draft : Draft}
    {read : Reply → Action Outgoing α} {cause : TransportFailure}
    (unbuilt : draft.build = .error cause) :
    (line.send name draft read).run.result = .error (.transport cause) := by
  obtain ⟨last, -, resultEq, -⟩ :=
    exists_last_attempt_withRetry line.retry line.draw name fun attempt => do
      read (← line.sendOnce draft attempt)
  rw [Line.send, resultEq, Action.result_bind, result_sendOnce_of_unbuilt unbuilt]
  rfl

/-- Attempts are made up to the one that ends them, and what goes out is what goes out in
each of them. -/
theorem exists_last_attempt_send (line : Line) (name : String) {draft : Draft}
    {read : Reply → Action Outgoing α} {request : OutboundRequest}
    (reads : ∀ reply, (read reply).run.calls = []) (built : draft.build = .ok request) :
    ∃ last, Retry.EndsAt (fun attempt => line.sendOnce draft attempt >>= read) 1
        (line.retry.attempts - 1) last ∧
      (line.send name draft read).run.result =
        (line.sendOnce draft last >>= read).run.result ∧
      (line.send name draft read).run.calls =
        ((List.range' 1 last).map fun attempt => line.hops attempt request).flatMap
          (outgoingOf request) := by
  obtain ⟨last, endsAt, resultEq, callsEq⟩ :=
    exists_last_attempt_withRetry line.retry line.draw name fun attempt => do
      read (← line.sendOnce draft attempt)
  refine ⟨last, endsAt, resultEq, ?_⟩
  rw [Line.send, callsEq, List.flatMap_map]
  simp only [calls_sendAndRead_of_built reads built]

/-- All attempts that are allowed are made if none of them settles anything. -/
theorem calls_send_of_failing (line : Line) (name : String) {draft : Draft}
    {read : Reply → Action Outgoing α} {request : OutboundRequest}
    (reads : ∀ reply, (read reply).run.calls = []) (built : draft.build = .ok request)
    (fails : ∀ attempt, FailsTransiently (line.sendOnce draft attempt >>= read)) :
    (line.send name draft read).run.calls =
      ((List.range' 1 line.retry.attempts).map fun attempt =>
        line.hops attempt request).flatMap (outgoingOf request) := by
  obtain ⟨last, endsAt, -, callsEq⟩ := exists_last_attempt_send line name reads built
  have allowed := line.retry.attempts_sub_one_add_one
  have isLast := endsAt.ends.resolve_right (not_not_intro (fails last))
  rw [callsEq, isLast, Nat.add_comm, allowed]

/-- A request is sent again while it is lost, and while reading its answer fails for
a reason that may pass. -/
theorem repeats_send (line : Line) (name : String) (draft : Draft)
    (read : Reply → Action Outgoing α) {callsForMore : Attempt → Prop}
    (reads : ∀ reply, (read reply).run.calls = [])
    (leadsAreFinal : ∀ reply, reply.lead? ≠ none → ¬ FailsTransiently (read reply))
    (callsIff : ∀ attempt, callsForMore attempt ↔
      attempt.IsLost ∨ ∃ reply, attempt = .answered reply ∧ FailsTransiently (read reply)) :
    Repeats line draft callsForMore (line.send name draft read).run.calls where
  unbuilt := fun cause unbuilt => calls_send_of_unbuilt unbuilt
  built := by
    intro request built
    obtain ⟨last, endsAt, -, callsEq⟩ := exists_last_attempt_send line name reads built
    have allowed := attempts_eq_max line.retry
    have bounded := endsAt.bounded
    refine ⟨_, callsEq, ?_⟩
    rw [List.length_map, List.length_range']
    refine ⟨endsAt.notBefore, by omega, fun before hops isAttempt => ?_⟩
    rw [List.getElem?_map, Option.map_eq_some_iff] at isAttempt
    obtain ⟨attempt, isInRange, rfl⟩ := isAttempt
    obtain ⟨inRange, rfl⟩ := List.getElem?_eq_some_iff.mp isInRange
    rw [List.length_range'] at inRange
    rw [List.getElem_range', Nat.one_mul, Nat.add_comm 1]
    refine ⟨(line.follows_hops _ request).1, ?_⟩
    rw [callsIff, ← failsTransiently_sendAndRead_iff built rfl leadsAreFinal]
    constructor
    · intro more
      exact ⟨by omega, endsAt.earlierFail (before + 1) (by omega) more⟩
    · rintro ⟨moreAllowed, failed⟩
      rcases endsAt.ends with isLast | settled
      · omega
      · have notLast : before + 1 ≠ last := by
          rintro rfl
          exact settled failed
        omega
  plain := by
    intro stays request built
    obtain ⟨last, endsAt, -, callsEq⟩ := exists_last_attempt_send line name reads built
    have bounded := endsAt.bounded
    have allowed := attempts_eq_max line.retry
    refine ⟨last, endsAt.notBefore, by omega, ?_⟩
    have alone : (fun attempt => line.hops attempt request) = fun _ => [] :=
      funext fun attempt => line.hops_eq_nil request (stays attempt 0)
    rw [callsEq, alone, List.map_const', List.length_range', List.flatMap_replicate]
    exact (List.flatten_replicate_singleton ..)

theorem result_reportCollisions (collisions : List Collision) :
    (ExceptT.lift (reportCollisions collisions) : Action κ Unit).run.result = .ok () :=
  rfl

theorem onlyLogs_reportCollisions (collisions : List Collision) :
    (ExceptT.lift (reportCollisions collisions) : Action κ Unit).run.OnlyLogs := by
  intro step member
  have reported : step ∈ collisions.map fun collision =>
      (.logged ⟨.warn, collision.message⟩ : Step κ) := by
    simpa [ExceptT.lift, reportCollisions, Functor.map] using member
  obtain ⟨collision, -, rfl⟩ := List.mem_map.mp reported
  exact ⟨_, rfl⟩

theorem GatewayClient.onlyLogs_readStat (reference : Reference) (reply : Reply) :
    (readStat reference reply).run.OnlyLogs := by
  unfold readStat
  split
  · split
    · exact Action.onlyLogs_pure _
    · exact Action.onlyLogs_throw _
  · exact Action.onlyLogs_bind (Action.onlyLogs_log _ _) fun _ => Action.onlyLogs_throw _

namespace BridgeClient

theorem onlyLogs_refuse (path : String) (reply : Reply) :
    (refuse path reply : Action Outgoing α).run.OnlyLogs :=
  Action.onlyLogs_throw _

theorem onlyLogs_readCatalogue (reply : Reply) : (readCatalogue reply).run.OnlyLogs := by
  unfold readCatalogue
  split
  · split
    · exact Action.onlyLogs_bind (onlyLogs_reportCollisions _) fun _ =>
        Action.onlyLogs_pure _
    · exact Action.onlyLogs_throw _
  · exact Action.onlyLogs_bind (Action.onlyLogs_log _ _) fun _ => onlyLogs_refuse _ _

theorem onlyLogs_readSession (reply : Reply) : (readSession reply).run.OnlyLogs := by
  unfold readSession
  split
  · exact Action.onlyLogs_bind (Action.onlyLogs_settle _) fun _ => Action.onlyLogs_pure _
  · exact Action.onlyLogs_bind (Action.onlyLogs_log _ _) fun _ => onlyLogs_refuse _ _

theorem refuse_is_final (path : String) (reply : Reply) :
    ¬ FailsTransiently (refuse path reply : Action Outgoing α) := by
  rintro ⟨failure, outcome, transient⟩
  rw [refuse, Action.result_throw, Except.error.injEq] at outcome
  subst outcome
  simp [Failure.isTransient] at transient

theorem failsTransiently_log_bind_iff {level : Level} {message : String}
    {next : Unit → Action κ α} :
    FailsTransiently (Action.log level message >>= next) ↔ FailsTransiently (next ()) := by
  unfold FailsTransiently
  rw [Action.result_bind, Action.result_log]
  rfl

theorem readCatalogue_reads_finally (reply : Reply) :
    ¬ FailsTransiently (readCatalogue reply) := by
  unfold readCatalogue
  split
  · split
    · rintro ⟨failure, outcome, -⟩
      rw [Action.result_bind, result_reportCollisions] at outcome
      cases outcome
    · rintro ⟨failure, outcome, transient⟩
      rw [Action.result_throw, Except.error.injEq] at outcome
      subst outcome
      simp [Failure.isTransient] at transient
  · rw [failsTransiently_log_bind_iff]
    exact refuse_is_final cataloguePath reply

/-- An answer of the bridge about a session is final, unless it opens one and its
body is not finished in time. -/
theorem readSession_failsTransiently_iff {reply : Reply} :
    FailsTransiently (readSession reply) ↔
      reply.status = 200 ∧ reply.bodyEnd = .unfinished := by
  unfold readSession
  split
  · rename_i opens
    unfold FailsTransiently
    rw [Action.result_bind, Action.result_settle, Reply.text, Reply.octets]
    cases reply.bodyEnd with
    | whole => simp [opens, Except.map, Except.mapError, bind, Except.bind]
    | cutShort =>
        simp [Except.map, Except.mapError, bind, Except.bind, Failure.isTransient,
          TransportFailure.isTransient]
    | unfinished =>
        simp [opens, Except.map, Except.mapError, bind, Except.bind, Failure.isTransient,
          TransportFailure.isTransient]
  · rename_i turnedDown
    rw [failsTransiently_log_bind_iff]
    constructor
    · intro failed
      exact absurd failed (refuse_is_final sessionPath reply)
    · rintro ⟨opens, -⟩
      exact absurd opens turnedDown

/-- What leads elsewhere does not agree to a session. -/
theorem readSession_of_lead_is_final {reply : Reply} (leads : reply.lead? ≠ none) :
    ¬ FailsTransiently (readSession reply) := by
  intro failed
  have agreed := (readSession_failsTransiently_iff.mp failed).1
  exact leads (Reply.lead?_of_lt (by omega))

end BridgeClient

theorem GatewayClient.calls_stat (client : GatewayClient) (reference : Reference)
    (token : String) :
    (client.stat reference token).run.calls =
      (client.line.send "storage_gateway_stat" (client.statDraft reference token)
        (readStat reference)).run.calls := by
  rw [stat, Action.calls_bind_of_ok _ (Action.result_log _ _), Action.calls_log,
    List.nil_append, Action.calls_bind_of_onlyLogs _ fun _ => Action.onlyLogs_settle _,
    Action.calls_mapFailure]

theorem GatewayClient.repeats_stat (client : GatewayClient) (reference : Reference)
    (token : String) :
    Repeats client.line (client.statDraft reference token) Attempt.IsLost
      (client.stat reference token).run.calls := by
  rw [calls_stat]
  refine repeats_send client.line _ _ (readStat reference)
    (fun reply => (onlyLogs_readStat reference reply).calls_eq)
    (fun reply _ => readStat_reads_finally reference reply) fun attempt => ?_
  simp [readStat_reads_finally]

namespace BridgeClient

theorem calls_fetchCatalogue (client : BridgeClient) :
    client.fetchCatalogue.run.calls =
      (client.line.send "editing_bridge_extensions" client.catalogueDraft
        readCatalogue).run.calls := by
  rw [fetchCatalogue, Action.calls_bind_of_onlyLogs _ fun _ =>
    Action.onlyLogs_bind (Action.onlyLogs_log _ _) fun _ => Action.onlyLogs_pure _,
    Action.calls_mapFailure]

theorem repeats_fetchCatalogue (client : BridgeClient) :
    Repeats client.line client.catalogueDraft Attempt.IsLost
      client.fetchCatalogue.run.calls := by
  rw [calls_fetchCatalogue]
  refine repeats_send client.line _ _ readCatalogue
    (fun reply => (onlyLogs_readCatalogue reply).calls_eq)
    (fun reply _ => readCatalogue_reads_finally reply) fun attempt => ?_
  simp [readCatalogue_reads_finally]

theorem calls_openSession (client : BridgeClient) (request : SessionRequest)
    (token : String) :
    (client.openSession request token).run.calls =
      (client.line.send "editing_bridge_open_session" (client.sessionDraft request token)
        readSession).run.calls := by
  rw [openSession, Action.calls_bind_of_ok _ (Action.result_log _ _), Action.calls_log,
    List.nil_append, Action.calls_mapFailure]

/-- An answer agrees to open a session, and is not finished in time. -/
def StallsAgreed (attempt : Attempt) : Prop :=
  ∃ reply, attempt = .answered reply ∧ reply.status = 200 ∧ reply.bodyEnd = .unfinished

theorem repeats_openSession (client : BridgeClient) (request : SessionRequest)
    (token : String) :
    Repeats client.line (client.sessionDraft request token)
      (fun attempt => attempt.IsLost ∨ StallsAgreed attempt)
      (client.openSession request token).run.calls := by
  rw [calls_openSession]
  refine repeats_send client.line _ _ readSession
    (fun reply => (onlyLogs_readSession reply).calls_eq)
    (fun _ => readSession_of_lead_is_final) fun attempt => or_congr_right ?_
  simp only [StallsAgreed, readSession_failsTransiently_iff]

end BridgeClient

/-- Each of the three calls asks with one request, and asks once more exactly while more
is allowed and nothing answered for a reason that may pass: not the request itself, or,
if replies led elsewhere, not the last of those that they led to.  What the gateway
answers about a file, and the bridge about its catalogue, is final once it is handed
over.  What the bridge answers about a session is final unless it is a status of success
whose body is not finished in time: then the session is asked for once more. -/
theorem requests_of_calls (gateway : GatewayClient) (bridge : BridgeClient)
    (reference : Reference) (session : SessionRequest) (token : String) :
    Repeats gateway.line (gateway.statDraft reference token) Attempt.IsLost
        (gateway.stat reference token).run.calls ∧
      Repeats bridge.line bridge.catalogueDraft Attempt.IsLost
        bridge.fetchCatalogue.run.calls ∧
      Repeats bridge.line (bridge.sessionDraft session token)
        (fun attempt => attempt.IsLost ∨ BridgeClient.StallsAgreed attempt)
        (bridge.openSession session token).run.calls :=
  ⟨gateway.repeats_stat reference token, bridge.repeats_fetchCatalogue,
    bridge.repeats_openSession session token⟩

/-- A bridge that agrees to open every session and never finishes the answer. -/
def stallingBridge : BridgeClient where
  host := "http://[::1]:8880"
  secret := "secret"
  line := {
    retry := { maxAttempts := 2 }
    draw := fun _ => 0
    redirection := .absolute
    script := fun _ _ =>
      ⟨.ofSeconds 4, .answered { status := 200, body := [0x68], bodyEnd := .unfinished }⟩ }

/-- A file is to be looked up elsewhere. -/
def movedReply : Reply :=
  { status := 307, body := [], bodyEnd := .whole, location? := some "http://[::1]:1/" }

/-- A gateway that is to be found elsewhere, where nothing listens. -/
def movedGateway : GatewayClient where
  address := "http://[::1]:9142"
  line := {
    retry := { maxAttempts := 2 }
    draw := fun _ => 0
    redirection := .absolute
    script := fun _ hop =>
      if hop = 0 then ⟨.ofSeconds 1, .answered movedReply⟩ else ⟨.zero, .silent .refused⟩ }

/-- Where the gateway is to be found by what it answers. -/
def movedRequest (request : OutboundRequest) : OutboundRequest :=
  Redirection.absolute.redirect request 307 "http://[::1]:1/"

/-- The library goes to whole addresses. -/
theorem turn?_absolute (address : String) {location : String} {url : Url}
    (read : (Url.parse location).toOption = some url) (spoken : isSpoken url = true) :
    Redirection.absolute.turn? address location = some (.ok url.text) := by
  simp [Redirection.absolute, read, spoken]

theorem next?_moved (request : OutboundRequest) :
    Redirection.absolute.next? request movedReply = some (.ok (movedRequest request)) := by
  have goes : ((Url.parse "http://[::1]:1/").toOption.map fun url =>
      (isSpoken url, url.text)) = some (true, "http://[::1]:1/") := by
    decide +kernel
  obtain ⟨url, read, isAddress⟩ := Option.map_eq_some_iff.mp goes
  obtain ⟨spoken, text⟩ := Prod.mk.inj isAddress
  have turned := turn?_absolute request.address read spoken
  rw [text] at turned
  exact Redirection.next?_eq_some_iff.mpr ⟨_, _, rfl, turned, rfl⟩

theorem hops_movedGateway (attempt : Nat) (request : OutboundRequest) :
    movedGateway.line.hops attempt request = [movedRequest request] := by
  have led : movedGateway.line.journey attempt request =
      (Redirection.absolute.journey (movedGateway.line.script attempt) 1
        (movedRequest request) 9).behind ⟨request, .ofSeconds 1⟩ :=
    Redirection.journey_of_lead 0 rfl (next?_moved request)
  have ends : Redirection.absolute.journey (movedGateway.line.script attempt) 1
      (movedRequest request) 9 =
        ⟨⟨movedRequest request, .zero⟩, [],
          .error (.unanswered (movedRequest request).address .refused)⟩ :=
    Redirection.journey_of_silent 1 rfl
  rw [Line.hops, led, ends]
  rfl

theorem calls_openSession_stallingBridge (session : SessionRequest) {token : String}
    {request : OutboundRequest}
    (built : (stallingBridge.sessionDraft session token).build = .ok request) :
    (stallingBridge.openSession session token).run.calls =
      [.asked request, .asked request] := by
  have alone (attempt : Nat) : stallingBridge.line.hops attempt request = [] :=
    stallingBridge.line.hops_eq_nil request (by rintro _ ⟨⟩; rfl)
  have fails (attempt : Nat) : FailsTransiently
      (stallingBridge.line.sendOnce (stallingBridge.sessionDraft session token) attempt >>=
        BridgeClient.readSession) := by
    rw [failsTransiently_sendAndRead_iff built rfl fun _ =>
      BridgeClient.readSession_of_lead_is_final]
    exact .inr ⟨_, rfl, BridgeClient.readSession_failsTransiently_iff.mpr ⟨rfl, rfl⟩⟩
  rw [BridgeClient.calls_openSession, calls_send_of_failing stallingBridge.line _
    (fun reply => (BridgeClient.onlyLogs_readSession reply).calls_eq) built fails]
  simp only [alone]
  rfl

theorem calls_stat_movedGateway (reference : Reference) {token : String}
    {request : OutboundRequest}
    (built : (movedGateway.statDraft reference token).build = .ok request) :
    (movedGateway.stat reference token).run.calls =
      [.asked request, .followed (movedRequest request), .asked request,
        .followed (movedRequest request)] := by
  have fails (attempt : Nat) : FailsTransiently
      (movedGateway.line.sendOnce (movedGateway.statDraft reference token) attempt >>=
        GatewayClient.readStat reference) := by
    have lost : (movedGateway.line.script attempt
        (movedGateway.line.hops attempt request).length).attempt = .silent .refused := by
      rw [hops_movedGateway]
      rfl
    rw [failsTransiently_sendAndRead_iff built lost fun reply _ =>
      GatewayClient.readStat_reads_finally reference reply]
    exact .inl (.inl rfl)
  rw [GatewayClient.calls_stat, calls_send_of_failing movedGateway.line _
    (fun reply => (GatewayClient.onlyLogs_readStat reference reply).calls_eq) built fails]
  simp only [hops_movedGateway]
  rfl

/-- What is answered is asked for again: a session that the bridge has agreed to open, if
it does not finish the answer, and a file, if the gateway answers each time that it is to
be found elsewhere and nothing listens there. -/
theorem answered_calls_are_asked_for_again :
    (∀ attempt hop, ∃ reply,
        (stallingBridge.line.script attempt hop).attempt = .answered reply ∧
          reply.status = 200) ∧
      (∃ request,
        (stallingBridge.openSession ⟨"o", .readOnly, "s", "/a", "Ada"⟩ "t").run.calls =
          [.asked request, .asked request]) ∧
    (∀ attempt, ∃ reply,
        (movedGateway.line.script attempt 0).attempt = .answered reply ∧
          reply.status = 307) ∧
      movedGateway.line.retry.maxAttempts.toNat = 2 ∧
      ∃ request, (movedGateway.stat (.path "/x") "t").run.calls =
        [.asked request, .followed (movedRequest request), .asked request,
          .followed (movedRequest request)] := by
  have sessionSendable : (stallingBridge.sessionDraft ⟨"o", .readOnly, "s", "/a", "Ada"⟩
      "t").build.isOk = true := by
    decide +kernel
  have statSendable : (movedGateway.statDraft (.path "/x") "t").build.isOk = true := by
    decide +kernel
  obtain ⟨sessionRequest, sessionBuilt⟩ := exists_eq_ok sessionSendable
  obtain ⟨statRequest, statBuilt⟩ := exists_eq_ok statSendable
  exact ⟨fun attempt hop => ⟨_, rfl, rfl⟩,
    ⟨sessionRequest, calls_openSession_stallingBridge _ sessionBuilt⟩,
    fun attempt => ⟨_, rfl, rfl⟩, rfl, statRequest, calls_stat_movedGateway _ statBuilt⟩

end EditorLaunch.Outbound
