import EditorLaunch.Proofs.Agreement
import EditorLaunch.Proofs.Outbound.Finality

/-!
# Clients that know different secrets

The secret of the bridge and the tokens of the storage stand in headers, and nothing
that a client does looks at them: not when it asks again, not how it reads an answer,
not what it reports.  So two clients that differ in nothing else do the same, request
by request, as long as their headers can be sent equally well.
-/

namespace EditorLaunch

/-- Two requests that are the same up to the values of some headers. -/
structure OutboundRequest.SameBut (differ : String → String → String → Prop)
    (first second : OutboundRequest) : Prop where
  method : first.method = second.method
  address : first.address = second.address
  body : first.body = second.body
  headers : List.Forall₂
    (fun header other => header.1 = other.1 ∧
      (header.2 = other.2 ∨ differ header.1 header.2 other.2))
    first.headers second.headers

/-- Two requests of the same origin that are the same up to the values of some headers. -/
inductive Outgoing.SameBut (differ : String → String → String → Prop) :
    Outgoing → Outgoing → Prop where
  | asked {first second : OutboundRequest} (same : first.SameBut differ second) :
      SameBut differ (.asked first) (.asked second)
  | followed {first second : OutboundRequest} (same : first.SameBut differ second) :
      SameBut differ (.followed first) (.followed second)

namespace Outbound

/-- A request comes from another one through replies that lead elsewhere. -/
inductive Redirection.Descends (redirection : Redirection) (original : OutboundRequest) :
    OutboundRequest → Prop where
  | self : Descends redirection original original
  | hop {request : OutboundRequest} (before : Descends redirection original request)
      (status : Nat) (next : String) :
      Descends redirection original (redirection.redirect request status next)

/-- A request that a client makes is of a kind, or the one that replies led from is. -/
inductive Stems (redirection : Redirection) (isOwn : OutboundRequest → Prop) :
    Outgoing → Prop where
  | asked {request : OutboundRequest} (own : isOwn request) :
      Stems redirection isOwn (.asked request)
  | followed {original request : OutboundRequest} (own : isOwn original)
      (descends : redirection.Descends original request) :
      Stems redirection isOwn (.followed request)

/-- Two drafts that are the same up to the values of some headers, which can be sent
equally well. -/
structure Draft.SameBut (differ : String → String → String → Prop) (draft other : Draft) :
    Prop where
  method : draft.method = other.method
  address : draft.address = other.address
  parameters : draft.parameters = other.parameters
  body : draft.body = other.body
  headers : List.Forall₂
    (fun header otherHeader => header.1 = otherHeader.1 ∧
      (header.2 = otherHeader.2 ∨ differ header.1 header.2 otherHeader.2))
    draft.headers other.headers
  fits : draft.headers.all (isHeaderValue ·.2) = other.headers.all (isHeaderValue ·.2)

/-- Drafts that are put together to requests of a kind which are the same up to the values
of some headers, or both not. -/
def BuiltAlike (isOwn : OutboundRequest → Prop) (differ : String → String → String → Prop)
    (draft other : Draft) : Prop :=
  (∃ cause, draft.build = .error cause ∧ other.build = .error cause) ∨
    ∃ first second, draft.build = .ok first ∧ other.build = .ok second ∧
      isOwn first ∧ first.SameBut differ second

section

variable {differ : String → String → String → Prop} {draft other : Draft}
variable {isOwn : OutboundRequest → Prop}

/-- Putting together looks at the values of headers only to see whether they fit. -/
theorem Draft.SameBut.builtAlike (same : draft.SameBut differ other)
    (own : ∀ request, draft.build = .ok request → isOwn request) :
    BuiltAlike isOwn differ draft other := by
  have builds : (∃ cause, draft.build = .error cause ∧ other.build = .error cause) ∨
      ∃ first second, draft.build = .ok first ∧ other.build = .ok second ∧
        first.SameBut differ second := by
    unfold Draft.build
    rw [same.address, same.parameters, same.fits, same.method, same.body]
    cases Url.parse other.address with
    | error failure => exact .inl ⟨_, rfl, rfl⟩
    | ok url =>
        dsimp only
        split
        · exact .inl ⟨_, rfl, rfl⟩
        · split
          · exact .inl ⟨_, rfl, rfl⟩
          · split
            · exact .inl ⟨_, rfl, rfl⟩
            · refine .inr ⟨_, _, rfl, rfl, rfl, rfl, rfl, ?_⟩
              refine List.rel_append (List.forall₂_same.mpr fun header _ => ?_) same.headers
              exact ⟨rfl, .inl rfl⟩
  rcases builds with failed | ⟨first, second, isFirst, isSecond, sameRequest⟩
  · exact .inl failed
  · exact .inr ⟨first, second, isFirst, isSecond, own first isFirst, sameRequest⟩

theorem Draft.SameBut.isOk_build (same : draft.SameBut differ other) :
    draft.build.isOk = other.build.isOk := by
  have built : BuiltAlike (fun _ => True) differ draft other :=
    same.builtAlike fun request _ => trivial
  rcases built with ⟨cause, failed, otherFailed⟩ | ⟨first, second, isBuilt, otherBuilt, -, -⟩
  · rw [failed, otherFailed]
  · rw [isBuilt, otherBuilt]
    rfl

end

namespace Redirection

variable {redirection : Redirection} {differ : String → String → String → Prop}
variable {original first second : OutboundRequest}

/-- Headers go along by their names. -/
theorem redirect_sameBut (same : first.SameBut differ second) (status : Nat)
    (next : String) :
    (redirection.redirect first status next).SameBut differ
      (redirection.redirect second status next) := by
  have carried : List.Forall₂
      (fun header other => header.1 = other.1 ∧
        (header.2 = other.2 ∨ differ header.1 header.2 other.2))
      (first.headers.filter fun header => redirection.carries first.address next header.1)
      (second.headers.filter fun header =>
        redirection.carries second.address next header.1) := by
    refine List.rel_filter ?_ same.headers
    rintro ⟨name, value⟩ ⟨-, otherValue⟩ ⟨rfl, -⟩
    rw [same.address]
  unfold redirect
  dsimp only
  split
  · exact ⟨same.method, rfl, same.body, carried⟩
  · refine ⟨rfl, rfl, rfl, List.rel_filter ?_ carried⟩
    rintro ⟨name, value⟩ ⟨-, otherValue⟩ ⟨rfl, -⟩
    exact Iff.rfl

/-- Where a reply leads is told from the address of the request. -/
theorem next?_alike (sameAddress : first.address = second.address) (reply : Reply) :
    (redirection.next? first reply = none ∧ redirection.next? second reply = none) ∨
    (∃ cause, redirection.next? first reply = some (.error cause) ∧
      redirection.next? second reply = some (.error cause)) ∨
    ∃ next,
      redirection.next? first reply =
        some (.ok (redirection.redirect first reply.status next)) ∧
      redirection.next? second reply =
        some (.ok (redirection.redirect second reply.status next)) := by
  unfold next?
  rw [sameAddress]
  cases reply.lead? with
  | none => exact .inl ⟨rfl, rfl⟩
  | some location =>
      simp only [Option.bind_eq_bind, Option.bind_some]
      cases redirection.turn? second.address location with
      | none => exact .inl ⟨rfl, rfl⟩
      | some turn =>
          cases turn with
          | error cause => exact .inr (.inl ⟨cause, rfl, rfl⟩)
          | ok next => exact .inr (.inr ⟨next, rfl, rfl⟩)

/-- Two legs that are the same up to the values of some headers, and come from a request
or one like it. -/
structure LegsAlike (redirection : Redirection) (differ : String → String → String → Prop)
    (original : OutboundRequest) (leg other : Leg) : Prop where
  elapsed : leg.elapsed = other.elapsed
  descends : redirection.Descends original leg.request
  same : leg.request.SameBut differ other.request

/-- Attempts at requests for one address end alike, or both go on to another one. -/
theorem journey_cases_of_address (exchanges : Nat → Exchange) (hop left : Nat)
    (sameAddress : first.address = second.address) :
    (∃ outcome,
        redirection.journey exchanges hop first left =
          ⟨⟨first, (exchanges hop).elapsed⟩, [], outcome⟩ ∧
        redirection.journey exchanges hop second left =
          ⟨⟨second, (exchanges hop).elapsed⟩, [], outcome⟩) ∨
      ∃ before status next, left = before + 1 ∧
        redirection.journey exchanges hop first left =
          (redirection.journey exchanges (hop + 1) (redirection.redirect first status next)
            before).behind ⟨first, (exchanges hop).elapsed⟩ ∧
        redirection.journey exchanges hop second left =
          (redirection.journey exchanges (hop + 1) (redirection.redirect second status next)
            before).behind ⟨second, (exchanges hop).elapsed⟩ := by
  cases came : (exchanges hop).attempt with
  | silent silence =>
      exact .inl ⟨_, journey_of_silent hop came, sameAddress ▸ journey_of_silent hop came⟩
  | answered reply =>
      rcases redirection.next?_alike sameAddress reply with
        ⟨stays, staysToo⟩ | ⟨cause, turned, turnedToo⟩ | ⟨next, turned, turnedToo⟩
      · exact .inl ⟨_, journey_of_stay hop came stays, journey_of_stay hop came staysToo⟩
      · cases left with
        | zero =>
            exact .inl ⟨_, journey_of_tooMany hop came turned,
              sameAddress ▸ journey_of_tooMany hop came turnedToo⟩
        | succ before =>
            exact .inl ⟨_, journey_of_refused hop came turned,
              journey_of_refused hop came turnedToo⟩
      · cases left with
        | zero =>
            exact .inl ⟨_, journey_of_tooMany hop came turned,
              sameAddress ▸ journey_of_tooMany hop came turnedToo⟩
        | succ before =>
            exact .inr ⟨before, reply.status, next, rfl, journey_of_lead hop came turned,
              journey_of_lead hop came turnedToo⟩

/-- Attempts at requests that are alike go the same way. -/
theorem journey_alike (exchanges : Nat → Exchange) (hop left : Nat)
    (descends : redirection.Descends original first) (same : first.SameBut differ second) :
    (redirection.journey exchanges hop first left).outcome =
        (redirection.journey exchanges hop second left).outcome ∧
      List.Forall₂ (redirection.LegsAlike differ original)
        (redirection.journey exchanges hop first left).hops
        (redirection.journey exchanges hop second left).hops := by
  -- the requests stay alike from hop to hop, so each reply leads both the same way
  induction left generalizing hop first second with
  | zero =>
      rcases redirection.journey_cases_of_address exchanges hop 0 same.address with
        ⟨outcome, ends, otherEnds⟩ | ⟨before, status, next, impossible, -⟩
      · rw [ends, otherEnds]
        exact ⟨rfl, .nil⟩
      · cases impossible
  | succ left ih =>
      rcases redirection.journey_cases_of_address exchanges hop (left + 1) same.address with
        ⟨outcome, ends, otherEnds⟩ | ⟨before, status, next, isLeft, goesOn, otherGoesOn⟩
      · rw [ends, otherEnds]
        exact ⟨rfl, .nil⟩
      · obtain rfl := Nat.succ.inj isLeft
        have onward := redirection.redirect_sameBut same status next
        have onwardDescends := descends.hop status next
        obtain ⟨outcome, hops⟩ := ih (hop + 1) onwardDescends onward
        rw [goesOn, otherGoesOn]
        refine ⟨outcome, .cons ?_ hops⟩
        rw [first_journey, first_journey]
        exact ⟨rfl, onwardDescends, onward⟩

end Redirection

section

variable {differ : String → String → String → Prop} {draft other : Draft}
variable {isOwn : OutboundRequest → Prop} {line : Line}

/-- Requests of one kind that are the same up to the values of some headers. -/
structure OwnAlike (redirection : Redirection) (isOwn : OutboundRequest → Prop)
    (differ : String → String → String → Prop) (first second : Outgoing) : Prop where
  stems : Stems redirection isOwn first
  same : first.SameBut differ second

theorem agree_travel {first second : OutboundRequest} (own : isOwn first)
    (same : first.SameBut differ second) (attempt : Nat) :
    Action.Agree (OwnAlike line.redirection isOwn differ) Eq
      (line.journey attempt first).travel (line.journey attempt second).travel := by
  obtain ⟨outcome, hops⟩ :=
    Redirection.journey_alike (line.script attempt) 0 mostHops (.self) same
  refine ⟨?_, ?_⟩
  · have onward : List.Forall₂ (Step.Alike (OwnAlike line.redirection isOwn differ))
        ((line.journey attempt first).hops.flatMap (Leg.steps .followed))
        ((line.journey attempt second).hops.flatMap (Leg.steps .followed)) := by
      refine List.rel_flatMap hops fun leg otherLeg alike => ?_
      rw [Leg.steps, Leg.steps, alike.elapsed]
      exact .cons (.started ⟨.followed own alike.descends, .followed alike.same⟩)
        (.cons (.waited _) .nil)
    refine List.rel_append ?_ onward
    rw [Line.journey, Redirection.first_journey, Line.journey, Redirection.first_journey]
    exact .cons (.started ⟨.asked own, .asked same⟩) (.cons (.waited _) .nil)
  · rw [Journey.result_travel, Journey.result_travel, Line.journey, outcome]
    exact sameOutcome_self _

theorem agree_sendOnce (built : BuiltAlike isOwn differ draft other) (attempt : Nat) :
    Action.Agree (OwnAlike line.redirection isOwn differ) Eq (line.sendOnce draft attempt)
      (line.sendOnce other attempt) := by
  unfold Line.sendOnce
  rcases built with
    ⟨cause, failed, otherFailed⟩ | ⟨first, second, built, otherBuilt, own, same⟩
  · have stopped : Action.Agree (OwnAlike line.redirection isOwn differ) (fun _ _ => False)
        (Action.settle (draft.build.mapError .transport))
        (Action.settle (other.build.mapError .transport)) := by
      rw [failed, otherFailed]
      exact .settle (.error _)
    exact stopped.bind nofun
  · have puts : Action.Agree (OwnAlike line.redirection isOwn differ)
        (fun request otherRequest => isOwn request ∧ request.SameBut differ otherRequest)
        (Action.settle (draft.build.mapError .transport))
        (Action.settle (other.build.mapError .transport)) := by
      rw [built, otherBuilt]
      exact .settle (.ok ⟨own, same⟩)
    exact puts.bind fun request otherRequest alike => agree_travel alike.1 alike.2 attempt

theorem agree_send (built : BuiltAlike isOwn differ draft other) (line : Line)
    (name : String) {read : Reply → Action Outgoing α}
    (quiet : ∀ reply, (read reply).run.OnlyLogs) :
    Action.Agree (OwnAlike line.redirection isOwn differ) Eq (line.send name draft read)
      (line.send name other read) :=
  agree_withRetry line.retry line.draw name fun attempt =>
    (agree_sendOnce built attempt).bind fun reply _ same =>
      same ▸ .of_onlyLogs (quiet reply)

end

def IsLookUp (address : String) (request : OutboundRequest) : Prop :=
  ∃ line reference token,
    (GatewayClient.statDraft ⟨address, line⟩ reference token).build = .ok request

def IsListing (host : String) (request : OutboundRequest) : Prop :=
  ∃ secret line, (BridgeClient.catalogueDraft ⟨host, secret, line⟩).build = .ok request

def IsOpening (host secret : String) (request : OutboundRequest) : Prop :=
  ∃ line session token,
    (BridgeClient.sessionDraft ⟨host, secret, line⟩ session token).build = .ok request

/-- Look-ups at an address that are the same up to their tokens. -/
def LookUpsAlike (redirection : Redirection) (address : String)
    (tokens : String → String → Prop) : Outgoing → Outgoing → Prop :=
  OwnAlike redirection (IsLookUp address) fun name value other =>
    name = GatewayClient.tokenHeader ∧ tokens value other

/-- Requests for the catalogue of a host, which are the same. -/
def ListingsAlike (redirection : Redirection) (host : String) :
    Outgoing → Outgoing → Prop :=
  OwnAlike redirection (IsListing host) fun _ _ _ => False

/-- Requests to a host that open sessions and are the same up to their tokens and the
secrets by which they are authorised. -/
def OpeningsAlike (redirection : Redirection) (host secret otherSecret : String)
    (tokens : String → String → Prop) : Outgoing → Outgoing → Prop :=
  OwnAlike redirection (IsOpening host secret) fun name value other =>
    name = "authorization" ∧ value = "Bearer " ++ secret ∧ other = "Bearer " ++ otherSecret ∨
      name = BridgeClient.tokenHeader ∧ tokens value other

section

variable {tokens : String → String → Prop} {token other : String}

theorem GatewayClient.statDraft_sameBut (client : GatewayClient) (reference : Reference)
    (alike : tokens token other) (fits : isHeaderValue token = isHeaderValue other) :
    (client.statDraft reference token).SameBut
      (fun name value other => name = tokenHeader ∧ tokens value other)
      (client.statDraft reference other) where
  method := rfl
  address := rfl
  parameters := rfl
  body := rfl
  headers := .cons ⟨rfl, .inr ⟨rfl, alike⟩⟩ (.cons ⟨rfl, .inl rfl⟩ .nil)
  fits := by simp [statDraft, fits]

/-- Whether a look-up can be sent depends on its token only by whether that one can be. -/
theorem GatewayClient.isOk_build_statDraft (client : GatewayClient) (reference : Reference)
    (fits : isHeaderValue token = isHeaderValue other) :
    (client.statDraft reference token).build.isOk =
      (client.statDraft reference other).build.isOk := by
  let anyTokens : String → String → Prop := fun _ _ => True
  have alike : anyTokens token other := trivial
  exact (client.statDraft_sameBut reference alike fits).isOk_build

theorem GatewayClient.agree_stat (client : GatewayClient) (reference : Reference)
    (alike : tokens token other) (fits : isHeaderValue token = isHeaderValue other) :
    Action.Agree (LookUpsAlike client.line.redirection client.address tokens) Eq
      (client.stat reference token) (client.stat reference other) := by
  have built : BuiltAlike (IsLookUp client.address) _ _ _ :=
    (client.statDraft_sameBut reference alike fits).builtAlike
      fun request isBuilt => ⟨client.line, reference, token, isBuilt⟩
  unfold stat
  refine (Action.Agree.log _ _).bind fun _ _ _ => ?_
  refine ((agree_send built client.line _ (onlyLogs_readStat reference)).mapFailure reword).bind
    fun reply _ same => ?_
  rw [same]
  exact .settle (sameOutcome_self _)

namespace BridgeClient

/-- The secret of the bridge has no part in asking for its catalogue. -/
theorem agree_fetchCatalogue (client : BridgeClient) (secret : String) :
    Action.Agree (ListingsAlike client.line.redirection client.host) Eq client.fetchCatalogue
      (fetchCatalogue { client with secret }) := by
  have same : client.catalogueDraft.SameBut (fun _ _ _ => False)
      (catalogueDraft { client with secret }) :=
    { method := rfl
      address := rfl
      parameters := rfl
      body := rfl
      headers := .nil
      fits := rfl }
  have built : BuiltAlike (IsListing client.host) _ _ _ :=
    same.builtAlike fun request isBuilt => ⟨client.secret, client.line, isBuilt⟩
  unfold fetchCatalogue
  refine ((agree_send built client.line _ onlyLogs_readCatalogue).mapFailure _).bind
    fun catalogue _ same => ?_
  rw [same]
  exact (Action.Agree.log _ _).bind fun _ _ _ => .pure rfl

theorem sessionDraft_sameBut (client : BridgeClient) {secret : String}
    (session : SessionRequest) (secretFits : isHeaderValue client.secret = true)
    (otherFits : isHeaderValue secret = true) (alike : tokens token other)
    (fits : isHeaderValue token = isHeaderValue other) :
    (client.sessionDraft session token).SameBut
      (fun name value otherValue =>
        name = "authorization" ∧ value = "Bearer " ++ client.secret ∧
            otherValue = "Bearer " ++ secret ∨
          name = tokenHeader ∧ tokens value otherValue)
      (sessionDraft { client with secret } session other) where
  method := rfl
  address := rfl
  parameters := rfl
  body := rfl
  headers := .cons ⟨rfl, .inr (.inl ⟨rfl, rfl, rfl⟩)⟩
    (.cons ⟨rfl, .inr (.inr ⟨rfl, alike⟩)⟩ .nil)
  fits := by
    simp [sessionDraft, fits, isHeaderValue_bearer secretFits, isHeaderValue_bearer otherFits]

theorem isOk_build_sessionDraft (client : BridgeClient) (session : SessionRequest)
    (secretFits : isHeaderValue client.secret = true)
    (fits : isHeaderValue token = isHeaderValue other) :
    (client.sessionDraft session token).build.isOk =
      (client.sessionDraft session other).build.isOk := by
  let anyTokens : String → String → Prop := fun _ _ => True
  have alike : anyTokens token other := trivial
  exact (client.sessionDraft_sameBut session secretFits secretFits alike fits).isOk_build

theorem agree_openSession (client : BridgeClient) {secret : String}
    (session : SessionRequest) (secretFits : isHeaderValue client.secret = true)
    (otherFits : isHeaderValue secret = true) (alike : tokens token other)
    (fits : isHeaderValue token = isHeaderValue other) :
    Action.Agree
      (OpeningsAlike client.line.redirection client.host client.secret secret tokens) Eq
      (client.openSession session token)
      (openSession { client with secret } session other) := by
  have built : BuiltAlike (IsOpening client.host client.secret) _ _ _ :=
    (client.sessionDraft_sameBut session secretFits otherFits alike fits).builtAlike
      fun request isBuilt => ⟨client.line, session, token, isBuilt⟩
  unfold openSession
  refine (Action.Agree.log _ _).bind fun _ _ _ => ?_
  exact (agree_send built client.line _ onlyLogs_readSession).mapFailure _

end BridgeClient

end

end Outbound

end EditorLaunch
