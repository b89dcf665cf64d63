import EditorLaunch.Outbound.Client
import EditorLaunch.Proofs.Retry

/-!
# Sending a request

What is done for one attempt at a request, and where the result of all attempts
comes from: the first answer, if reading it does not fail for a reason that may
pass.
-/

namespace EditorLaunch.Outbound

section

variable {ε α : Type} {outcome : Except ε α}

theorem exists_eq_ok (succeeds : outcome.isOk = true) : ∃ value, outcome = .ok value := by
  cases outcome with
  | error cause => cases succeeds
  | ok value => exact ⟨value, rfl⟩

theorem eq_ok_of_toOption {value : α} (isValue : outcome.toOption = some value) :
    outcome = .ok value := by
  cases outcome with
  | error cause => cases isValue
  | ok other => exact congrArg _ (Option.some.inj isValue)

end

/-- Requests that cannot be put together fail for good. -/
theorem build_eq_error {draft : Draft} {cause : TransportFailure}
    (failed : draft.build = .error cause) :
    ∃ address?, cause = .unbuildable address? := by
  unfold Draft.build at failed
  split at failed
  · exact ⟨none, (Except.error.inj failed).symm⟩
  · simp only at failed
    split at failed
    · exact ⟨_, (Except.error.inj failed).symm⟩
    · split at failed
      · exact ⟨none, (Except.error.inj failed).symm⟩
      · split at failed
        · exact ⟨_, (Except.error.inj failed).symm⟩
        · simp at failed

/-- The address that is sent for a draft whose own address was read. -/
def Draft.sentTo (draft : Draft) (url : Url) : Url :=
  { sentUrl url with query := extendQuery url.query draft.parameters }

theorem build_eq_ok {draft : Draft} {request : OutboundRequest}
    (built : draft.build = .ok request) :
    ∃ url, Url.parse draft.address = .ok url ∧
      request = ⟨draft.method, (draft.sentTo url).text,
        credentialHeaders url ++ draft.headers, draft.body⟩ := by
  unfold Draft.build at built
  split at built
  · cases built
  · rename_i url parsed
    refine ⟨url, parsed, ?_⟩
    simp only at built
    split at built
    · cases built
    · split at built
      · cases built
      · split at built
        · cases built
        · exact (Except.ok.inj built).symm

/-- If all else is in order, a request is sent unless its address cannot be the target
of one. -/
theorem build_of_parse {draft : Draft} {url : Url}
    (parsed : Url.parse draft.address = .ok url) (host : hasHost url = true)
    (headers : ∀ header ∈ draft.headers, isHeaderValue header.2 = true)
    (spoken : isSpoken url = true) :
    draft.build =
      if (Http.Target.ofText? (draft.sentTo url).text).isSome then
        .ok ⟨draft.method, (draft.sentTo url).text, credentialHeaders url ++ draft.headers,
          draft.body⟩
      else .error (.unbuildable (some (draft.sentTo url).text)) := by
  have legal : draft.headers.all (isHeaderValue ·.2) = true := List.all_eq_true.mpr headers
  unfold Draft.build
  rw [parsed]
  simp only [host, legal, spoken, Bool.not_true, Bool.false_eq_true, if_false,
    Bool.false_or, Option.isNone_iff_eq_none]
  unfold Draft.sentTo
  cases found : Http.Target.ofText? { sentUrl url with
    query := extendQuery url.query draft.parameters }.text with
  | none => rfl
  | some target => rfl

theorem isHeaderValue_bearer {secret : String} (fits : isHeaderValue secret = true) :
    isHeaderValue ("Bearer " ++ secret) = true := by
  rw [isHeaderValue, String.toList_append, List.all_append, Bool.and_eq_true]
  exact ⟨by decide, fits⟩

/-- A reply with a lower status leads nowhere. -/
theorem Reply.lead?_of_lt {reply : Reply} (below : reply.status < 300) :
    reply.lead? = none := by
  have other : [301, 302, 303, 307, 308].contains reply.status = false := by
    simp only [List.contains_eq_mem, List.mem_cons, List.not_mem_nil, or_false,
      decide_eq_false_iff_not]
    omega
  rw [lead?, other]
  rfl

/-- What came of a request leads to another one. -/
def Redirection.Leads (redirection : Redirection) (request : OutboundRequest)
    (attempt : Attempt) (next : OutboundRequest) : Prop :=
  ∃ reply location address, attempt = .answered reply ∧ reply.lead? = some location ∧
    redirection.turn? request.address location = some (.ok address) ∧
    next = redirection.redirect request reply.status address

/-- The requests that follow one within an attempt: there is another exactly if what came
of the one before leads there, and no ten replies have led on before. -/
inductive Redirection.Follows (redirection : Redirection) (exchanges : Nat → Exchange) :
    (hop : Nat) → OutboundRequest → List OutboundRequest → Prop where
  | ends {hop : Nat} {request : OutboundRequest}
      (stays : hop < mostHops →
        ∀ next, ¬ redirection.Leads request (exchanges hop).attempt next) :
      Follows redirection exchanges hop request []
  | goesOn {hop : Nat} {request next : OutboundRequest} {later : List OutboundRequest}
      (below : hop < mostHops) (leads : redirection.Leads request (exchanges hop).attempt next)
      (behind : Follows redirection exchanges (hop + 1) next later) :
      Follows redirection exchanges hop request (next :: later)

/-- What an attempt comes to if this came of its last request: a reply is handed over,
unless it leads elsewhere, and then the attempt may fail for good. -/
inductive Attempt.Yields : Attempt → Except TransportFailure Reply → Prop where
  | silent (address : String) (silence : Silence) :
      Yields (.silent silence) (.error (.unanswered address silence))
  | answered (reply : Reply) : Yields (.answered reply) (.ok reply)
  | misled {reply : Reply} {cause : TransportFailure} (leads : reply.lead? ≠ none)
      (final : cause.isTransient = false) : Yields (.answered reply) (.error cause)

/-- Nothing answered for a reason that may pass: the connection was refused, or no
reply came in time. -/
def Attempt.IsLost (attempt : Attempt) : Prop :=
  attempt = .silent .refused ∨ attempt = .silent .timedOut

namespace Attempt.Yields

variable {attempt : Attempt} {outcome : Except TransportFailure Reply}

theorem eq_answered {reply : Reply} (yields : attempt.Yields (.ok reply)) :
    attempt = .answered reply := by
  cases yields
  rfl

/-- An attempt fails for a reason that may pass exactly if its last request is lost. -/
theorem isTransient_iff (yields : attempt.Yields outcome) :
    (∃ cause, outcome = .error cause ∧ cause.isTransient = true) ↔ attempt.IsLost := by
  cases yields with
  | silent address silence =>
      cases silence <;> simp [IsLost, TransportFailure.isTransient]
  | answered reply => simp [IsLost]
  | misled leads final => simp [IsLost, final]

end Attempt.Yields

namespace Redirection

variable {redirection : Redirection} {exchanges : Nat → Exchange}
variable {request next : OutboundRequest}

theorem next?_eq_some_iff {reply : Reply} {turn : Except TransportFailure OutboundRequest} :
    redirection.next? request reply = some turn ↔
      ∃ location turned, reply.lead? = some location ∧
        redirection.turn? request.address location = some turned ∧
        turn = turned.map (redirection.redirect request reply.status) := by
  simp only [next?, Option.bind_eq_bind, Option.bind_eq_some_iff, Option.pure_def,
    Option.some.injEq]
  constructor
  · rintro ⟨location, isLead, turned, isTurn, rfl⟩
    exact ⟨location, turned, isLead, isTurn, rfl⟩
  · rintro ⟨location, turned, isLead, isTurn, rfl⟩
    exact ⟨location, isLead, turned, isTurn, rfl⟩

theorem leads_iff {attempt : Attempt} :
    redirection.Leads request attempt next ↔
      ∃ reply, attempt = .answered reply ∧
        redirection.next? request reply = some (.ok next) := by
  simp only [next?_eq_some_iff]
  constructor
  · rintro ⟨reply, location, address, answered, isLead, isTurn, rfl⟩
    exact ⟨reply, answered, location, .ok address, isLead, isTurn, rfl⟩
  · rintro ⟨reply, answered, location, turned, isLead, isTurn, nextEq⟩
    cases turned with
    | error cause => cases nextEq
    | ok address =>
        exact ⟨reply, location, address, answered, isLead, isTurn, Except.ok.inj nextEq⟩

theorem not_leads_of_answered {reply : Reply} (stays : ∀ other,
    redirection.next? request reply ≠ some (.ok other)) :
    ¬ redirection.Leads request (.answered reply) next := by
  rw [leads_iff]
  rintro ⟨other, same, isNext⟩
  obtain rfl := Attempt.answered.inj same
  exact stays next isNext

theorem lead?_ne_none_of_next? {reply : Reply}
    {turn : Except TransportFailure OutboundRequest}
    (turned : redirection.next? request reply = some turn) : reply.lead? ≠ none := by
  obtain ⟨location, -, isLead, -⟩ := next?_eq_some_iff.mp turned
  simp [isLead]

theorem isTransient_of_next? {reply : Reply} {cause : TransportFailure}
    (turned : redirection.next? request reply = some (.error cause)) :
    cause.isTransient = false := by
  obtain ⟨location, turn, -, isTurn, same⟩ := next?_eq_some_iff.mp turned
  cases turn with
  | error other =>
      obtain rfl := Except.error.inj same
      exact redirection.final _ _ _ isTurn
  | ok address => cases same

section

variable (hop : Nat) {left : Nat}

theorem journey_of_silent {silence : Silence}
    (came : (exchanges hop).attempt = .silent silence) :
    redirection.journey exchanges hop request left =
      ⟨⟨request, (exchanges hop).elapsed⟩, [],
        .error (.unanswered request.address silence)⟩ := by
  unfold journey
  simp only [came]

variable {reply : Reply}

theorem journey_of_stay (came : (exchanges hop).attempt = .answered reply)
    (stays : redirection.next? request reply = none) :
    redirection.journey exchanges hop request left =
      ⟨⟨request, (exchanges hop).elapsed⟩, [], .ok reply⟩ := by
  unfold journey
  simp only [came, stays]

theorem journey_of_tooMany {turn : Except TransportFailure OutboundRequest}
    (came : (exchanges hop).attempt = .answered reply)
    (turned : redirection.next? request reply = some turn) :
    redirection.journey exchanges hop request 0 =
      ⟨⟨request, (exchanges hop).elapsed⟩, [], .error (.misdirected request.address)⟩ := by
  unfold journey
  simp only [came, turned]

theorem journey_of_refused {cause : TransportFailure}
    (came : (exchanges hop).attempt = .answered reply)
    (turned : redirection.next? request reply = some (.error cause)) :
    redirection.journey exchanges hop request (left + 1) =
      ⟨⟨request, (exchanges hop).elapsed⟩, [], .error cause⟩ := by
  rw [journey]
  simp only [came, turned]

theorem journey_of_lead (came : (exchanges hop).attempt = .answered reply)
    (turned : redirection.next? request reply = some (.ok next)) :
    redirection.journey exchanges hop request (left + 1) =
      (redirection.journey exchanges (hop + 1) next left).behind
        ⟨request, (exchanges hop).elapsed⟩ := by
  rw [journey]
  simp only [came, turned]

end

/-- An attempt ends with a request, or what came of it leads to another one. -/
theorem journey_cases (exchanges : Nat → Exchange) (hop : Nat) (request : OutboundRequest)
    (left : Nat) :
    (∃ outcome, redirection.journey exchanges hop request left =
        ⟨⟨request, (exchanges hop).elapsed⟩, [], outcome⟩ ∧
      (exchanges hop).attempt.Yields outcome ∧
      (left = 0 ∨ ∀ next, ¬ redirection.Leads request (exchanges hop).attempt next)) ∨
    ∃ next before, left = before + 1 ∧
      redirection.Leads request (exchanges hop).attempt next ∧
      redirection.journey exchanges hop request left =
        (redirection.journey exchanges (hop + 1) next before).behind
          ⟨request, (exchanges hop).elapsed⟩ := by
  cases came : (exchanges hop).attempt with
  | silent silence =>
      refine .inl ⟨_, journey_of_silent hop came, .silent _ silence, .inr fun next leads => ?_⟩
      obtain ⟨reply, answered, -⟩ := leads_iff.mp leads
      cases answered
  | answered reply =>
      cases turned : redirection.next? request reply with
      | none =>
          exact .inl ⟨_, journey_of_stay hop came turned, .answered reply,
            .inr fun next => not_leads_of_answered (by simp [turned])⟩
      | some turn =>
          have isLead := lead?_ne_none_of_next? turned
          cases left with
          | zero => exact .inl ⟨_, journey_of_tooMany hop came turned, .misled isLead rfl, .inl rfl⟩
          | succ left =>
              cases turn with
              | error cause =>
                  exact .inl ⟨_, journey_of_refused hop came turned,
                    .misled isLead (isTransient_of_next? turned),
                    .inr fun next => not_leads_of_answered (by simp [turned])⟩
              | ok next =>
                  exact .inr ⟨next, left, rfl, leads_iff.mpr ⟨reply, rfl, turned⟩,
                    journey_of_lead hop came turned⟩

theorem first_journey (exchanges : Nat → Exchange) (hop : Nat) (request : OutboundRequest)
    (left : Nat) :
    (redirection.journey exchanges hop request left).first =
      ⟨request, (exchanges hop).elapsed⟩ := by
  rcases redirection.journey_cases exchanges hop request left with
    ⟨outcome, ends, -⟩ | ⟨next, before, -, -, goesOn⟩
  · rw [ends]
  · rw [goesOn]
    rfl

/-- An attempt goes where replies lead it, and what came of its last request decides what
it comes to. -/
theorem follows_journey (exchanges : Nat → Exchange) (hop left : Nat)
    (request : OutboundRequest) (whole : hop + left = mostHops) :
    redirection.Follows exchanges hop request
        ((redirection.journey exchanges hop request left).hops.map Leg.request) ∧
      (exchanges (hop +
          (redirection.journey exchanges hop request left).hops.length)).attempt.Yields
        (redirection.journey exchanges hop request left).outcome := by
  -- one hop fewer is left behind each reply that leads on
  induction left generalizing hop request with
  | zero =>
      rcases redirection.journey_cases exchanges hop request 0 with
        ⟨outcome, ends, yields, -⟩ | ⟨next, before, impossible, -⟩
      · rw [ends]
        exact ⟨.ends fun below => absurd below (by omega), yields⟩
      · cases impossible
  | succ left ih =>
      rcases redirection.journey_cases exchanges hop request (left + 1) with
        ⟨outcome, ends, yields, none | stays⟩ | ⟨next, before, isLeft, leads, goesOn⟩
      · cases none
      · rw [ends]
        exact ⟨.ends fun _ => stays, yields⟩
      · obtain rfl := Nat.succ.inj isLeft
        obtain ⟨follows, yields⟩ := ih (hop + 1) next (by omega)
        rw [goesOn, Journey.behind, List.map_cons, first_journey, List.length_cons]
        refine ⟨.goesOn (by omega) leads follows, ?_⟩
        rw [Nat.add_assoc, Nat.add_comm 1] at yields
        exact yields

end Redirection

/-- What came of the last request of an attempt. -/
def Line.Ends (line : Line) (request : OutboundRequest) (attempt : Nat) (last : Attempt) :
    Prop :=
  ∃ hops, line.redirection.Follows (line.script attempt) 0 request hops ∧
    (line.script attempt hops.length).attempt = last

/-- The first attempt of a line that is answered in the end, and the answer. -/
structure Line.AnswersFirst (line : Line) (request : OutboundRequest) (attempt : Nat)
    (reply : Reply) : Prop where
  silentBefore : ∀ earlier, 1 ≤ earlier → earlier < attempt →
    ∃ silence, line.Ends request earlier (.silent silence)
  answered : line.Ends request attempt (.answered reply)

/-- The requests that replies lead to in an attempt. -/
def Line.hops (line : Line) (attempt : Nat) (request : OutboundRequest) :
    List OutboundRequest :=
  (line.journey attempt request).hops.map Leg.request

/-- What goes out in an attempt. -/
def outgoingOf (request : OutboundRequest) (hops : List OutboundRequest) :
    List Outgoing :=
  .asked request :: hops.map .followed

section

variable {line : Line} {draft : Draft} {attempt : Nat} {request : OutboundRequest}
variable {cause : TransportFailure}

theorem Line.follows_hops (line : Line) (attempt : Nat) (request : OutboundRequest) :
    line.redirection.Follows (line.script attempt) 0 request (line.hops attempt request) ∧
      (line.script attempt (line.hops attempt request).length).attempt.Yields
        (line.journey attempt request).outcome := by
  obtain ⟨follows, yields⟩ := line.redirection.follows_journey (line.script attempt) 0
    mostHops request (Nat.zero_add _)
  rw [Nat.zero_add] at yields
  refine ⟨follows, ?_⟩
  rw [Line.hops, List.length_map]
  exact yields

@[simp]
theorem Journey.result_travel (journey : Journey) :
    journey.travel.run.result = journey.outcome.mapError .transport :=
  rfl

theorem Journey.calls_travel (journey : Journey) :
    journey.travel.run.calls =
      outgoingOf journey.first.request (journey.hops.map Leg.request) := by
  have each (send : OutboundRequest → Outgoing) (leg : Leg) :
      (leg.steps send).filterMap Step.call? = [send leg.request] := rfl
  rw [Traced.calls_eq_filterMap, travel, outgoingOf]
  simp only [ExceptT.run, ExceptT.mk, List.filterMap_append, List.filterMap_flatMap, each,
    List.map_map]
  rw [← List.map_eq_flatMap]
  rfl

theorem result_sendOnce_of_unbuilt (unbuilt : draft.build = .error cause) :
    (line.sendOnce draft attempt).run.result = .error (.transport cause) := by
  rw [Line.sendOnce, Action.result_bind, Action.result_settle, unbuilt]
  rfl

/-- What comes of a request that is sent follows the script. -/
theorem result_sendOnce_of_built (built : draft.build = .ok request) :
    (line.sendOnce draft attempt).run.result =
      (line.journey attempt request).outcome.mapError .transport := by
  rw [Line.sendOnce, Action.result_bind, Action.result_settle, built]
  rfl

theorem steps_sendOnce_of_unbuilt (unbuilt : draft.build = .error cause) :
    (line.sendOnce draft attempt).run.steps = [] := by
  have stops : (Action.settle (draft.build.mapError .transport) :
      Action Outgoing OutboundRequest).run.result = .error (.transport cause) := by
    rw [Action.result_settle, unbuilt]
    rfl
  rw [Line.sendOnce, Action.run_bind_of_error _ stops]
  rfl

/-- A request that can be put together is sent, and those are that its replies lead to. -/
theorem steps_sendOnce_of_built (built : draft.build = .ok request) :
    (line.sendOnce draft attempt).run.steps =
      (line.journey attempt request).travel.run.steps := by
  have goesOn : (Action.settle (draft.build.mapError .transport) :
      Action Outgoing OutboundRequest).run.result = .ok request := by
    rw [Action.result_settle, built]
    rfl
  rw [Line.sendOnce, Action.run_bind_of_ok _ goesOn]
  rfl

/-- A reply is handed over only by the last request of an attempt. -/
theorem ends_of_sendOnce_eq_ok {reply : Reply}
    (sent : (line.sendOnce draft attempt).run.result = .ok reply) :
    ∃ request, draft.build = .ok request ∧ line.Ends request attempt (.answered reply) := by
  cases built : draft.build with
  | error cause => simp [result_sendOnce_of_unbuilt built] at sent
  | ok request =>
      obtain ⟨follows, yields⟩ := line.follows_hops attempt request
      rw [result_sendOnce_of_built built] at sent
      cases came : (line.journey attempt request).outcome with
      | error cause =>
          rw [came] at sent
          cases sent
      | ok other =>
          rw [came] at sent yields
          obtain rfl := Except.ok.inj sent
          exact ⟨request, rfl, _, follows, yields.eq_answered⟩

theorem silent_of_sendOnce_transient
    (failed : FailsTransiently (line.sendOnce draft attempt)) :
    ∃ request silence, draft.build = .ok request ∧
      line.Ends request attempt (.silent silence) := by
  obtain ⟨failure, outcome, transient⟩ := failed
  cases built : draft.build with
  | error cause =>
      obtain ⟨address?, rfl⟩ := build_eq_error built
      rw [result_sendOnce_of_unbuilt built, Except.error.injEq] at outcome
      subst outcome
      simp [Failure.isTransient, TransportFailure.isTransient] at transient
  | ok request =>
      obtain ⟨follows, yields⟩ := line.follows_hops attempt request
      rw [result_sendOnce_of_built built] at outcome
      cases came : (line.journey attempt request).outcome with
      | ok reply =>
          rw [came] at outcome
          cases outcome
      | error cause =>
          rw [came] at outcome yields
          obtain rfl := Except.error.inj outcome
          rcases yields.isTransient_iff.mp ⟨cause, rfl, transient⟩ with refused | late
          · exact ⟨request, .refused, rfl, _, follows, refused⟩
          · exact ⟨request, .timedOut, rfl, _, follows, late⟩

end

/-- What is read from answers is final if reading fails for no transient reason:
then only silence makes a request be sent again. -/
theorem exists_answer_of_send {line : Line} {name : String} {draft : Draft}
    {read : Reply → Action Outgoing α} {result : α}
    (readsFinally : ∀ reply, ¬ FailsTransiently (read reply))
    (sent : (line.send name draft read).run.result = .ok result) :
    ∃ request attempt reply, draft.build = .ok request ∧
      line.AnswersFirst request attempt reply ∧ (read reply).run.result = .ok result := by
  obtain ⟨last, endsAt, resultEq, -⟩ :=
    exists_last_attempt_withRetry line.retry line.draw name fun attempt => do
      read (← line.sendOnce draft attempt)
  rw [Line.send, resultEq, Action.result_bind_eq_ok_iff] at sent
  obtain ⟨reply, answered, readEq⟩ := sent
  obtain ⟨request, built, ends⟩ := ends_of_sendOnce_eq_ok answered
  refine ⟨request, last, reply, built, ⟨?_, ends⟩, readEq⟩
  intro earlier notBefore before
  obtain ⟨failure, outcome, transient⟩ := endsAt.earlierFail earlier notBefore before
  rw [Action.result_bind_eq_error_iff] at outcome
  rcases outcome with unsent | ⟨other, -, unread⟩
  · obtain ⟨same, silence, builtToo, silent⟩ :=
      silent_of_sendOnce_transient ⟨failure, unsent, transient⟩
    obtain rfl := Except.ok.inj (built.symm.trans builtToo)
    exact ⟨silence, silent⟩
  · exact absurd ⟨failure, unread, transient⟩ (readsFinally other)

end EditorLaunch.Outbound
