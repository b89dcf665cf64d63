import EditorLaunch.Backend
import EditorLaunch.Outbound.Reply

/-!
# Replies that lead elsewhere

A reply of one of five statuses that names a location is not handed over.  The library
that speaks to other services goes on to the location, within the same attempt, up to ten
times.  Two of the statuses keep the request as it is; behind the others the location is
got, without a body.  What a location means, whether the library goes there, and which
headers it takes along is up to the library.  Headers that it adds by itself, to these
requests or to all, are left out.
-/

namespace EditorLaunch.Outbound

/-- How the library takes the locations that replies name. -/
structure Redirection where
  /-- Where a location leads that is named at an address, or why the library does not go
  there.  Nothing is said of a location that is none, and the reply is handed over. -/
  turn? : (address location : String) → Option (Except TransportFailure String)
  /-- Whether a header goes along from an address to the next one. -/
  carries : (address next name : String) → Bool
  /-- What the library refuses, it refuses for good. -/
  final : ∀ address location failure,
    turn? address location = some (.error failure) → failure.isTransient = false

/-- A request and the time in which something came of it. -/
structure Leg where
  request : OutboundRequest
  elapsed : Duration
deriving DecidableEq, Repr

/-- One attempt: a request, those that replies led to from there, and what it comes to. -/
structure Journey where
  first : Leg
  hops : List Leg
  outcome : Except TransportFailure Reply

/-- The same attempt, with a request in front. -/
def Journey.behind (journey : Journey) (leg : Leg) : Journey :=
  ⟨leg, journey.first :: journey.hops, journey.outcome⟩

/-- How often replies may lead an attempt on. -/
def mostHops : Nat := 10

/-- The headers that describe a body. -/
def bodyHeaders : List String :=
  ["content-encoding", "content-length", "content-type", "transfer-encoding"]

namespace Redirection

variable (redirection : Redirection)

/-- The request that goes to the next address. -/
def redirect (request : OutboundRequest) (status : Nat) (next : String) : OutboundRequest :=
  let headers := request.headers.filter fun header =>
    redirection.carries request.address next header.1
  if [307, 308].contains status then { request with address := next, headers }
  else
    { method := "GET"
      address := next
      headers := headers.filter fun header => !bodyHeaders.contains header.1
      body := "" }

/-- The request that a reply leads to, or why the library does not make it, unless the
reply is handed over. -/
def next? (request : OutboundRequest) (reply : Reply) :
    Option (Except TransportFailure OutboundRequest) := do
  let turn ← redirection.turn? request.address (← reply.lead?)
  return turn.map (redirection.redirect request reply.status)

/-- What comes of a request and of those that replies lead to, if as many more may follow
it as are left. -/
def journey (exchanges : Nat → Exchange) (hop : Nat) (request : OutboundRequest)
    (left : Nat) : Journey :=
  let leg : Leg := ⟨request, (exchanges hop).elapsed⟩
  match (exchanges hop).attempt with
  | .silent silence => ⟨leg, [], .error (.unanswered request.address silence)⟩
  | .answered reply =>
      match redirection.next? request reply, left with
      | none, _ => ⟨leg, [], .ok reply⟩
      | some _, 0 => ⟨leg, [], .error (.misdirected request.address)⟩
      | some (.error cause), _ + 1 => ⟨leg, [], .error cause⟩
      | some (.ok next), left + 1 => (journey exchanges (hop + 1) next left).behind leg

end Redirection

end EditorLaunch.Outbound
