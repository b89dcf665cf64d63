import EditorLaunch.Backend
import EditorLaunch.Http.Request
import EditorLaunch.Outbound.Redirection
import EditorLaunch.Retry
import EditorLaunch.Text.Base64
import EditorLaunch.Url.Reader

/-!
# Sending requests

A request is put together from the address of a service, a path, parameters and
headers.  What cannot be put together is not sent: texts that are no address,
addresses without a host or of a scheme that is not spoken, and header values
with control characters.  What can be is sent, and its outcome follows the script
of the other side, from one address to the next if replies lead on.  A user whom the
address names is left out of it, and sent in a header of their own.
-/

namespace EditorLaunch.Outbound

def userAgent : String := "wopi-server/0.1.0"

def setupMessage (service : String) (connectTimeout requestTimeout : Duration)
    (insecure : Bool) : String :=
  s!"Creating HTTP client for service: {service} (connect {connectTimeout.brief}, " ++
    s!"request {requestTimeout.brief}, insecure {insecure})"

/-- A request before it is put together. -/
structure Draft where
  method : String
  address : String
  parameters : List Form.Pair
  headers : List (String × String)
  body : String
deriving DecidableEq, Repr

/-- An address without slashes at its end. -/
def trimAddress (address : String) : String :=
  String.ofList (trimEndWhile (· == '/') address.toList)

/-- Whether a text may be the value of a header. -/
def isHeaderValue (value : String) : Bool :=
  value.toList.all fun character => character == '\t' || !Percent.isControl character

/-- The query with parameters behind those it has. -/
def extendQuery (query : Option (List Char)) (parameters : List Form.Pair) :
    Option (List Char) :=
  let added := (Form.encode parameters).toList
  match parameters, query with
  | [], _ => query
  | _, none => some added
  | _, some [] => some added
  | _, some letters => some (letters ++ '&' :: added)

/-- Whether an address has a host to send to. -/
def hasHost (url : Url) : Bool :=
  match url.authority with
  | some authority => !authority.host.isEmpty
  | none => false

def isSpoken (url : Url) : Bool :=
  url.scheme == "http".toList || url.scheme == "https".toList

/-- The text that the name or the password of a user spells, with its escapes
resolved. -/
def spelled? (letters : List Char) : Option String :=
  Utf8.toText? (Percent.decode (Utf8.encode letters))

/-- The name and the password of a user with a colon between them.  There are none
if the name spells no text; a password that spells none is missing. -/
def credentials? (authority : Authority) : Option String := do
  let username ← spelled? authority.username
  let password? := if authority.password.isEmpty then none else spelled? authority.password
  if username.isEmpty && password?.isNone then none
  else return username ++ ":" ++ password?.getD ""

/-- The headers by which the user of an address is known. -/
def credentialHeaders (url : Url) : List (String × String) :=
  match url.authority.bind credentials? with
  | some credentials =>
      [("authorization", "Basic " ++ Base64.standardText (Utf8.ofText credentials))]
  | none => []

/-- The address that is sent, without a user who is sent in a header. -/
def sentUrl (url : Url) : Url :=
  if (credentialHeaders url).isEmpty then url else url.withoutUser

/-- Puts a request together. -/
def Draft.build (draft : Draft) : Except TransportFailure OutboundRequest :=
  match Url.parse draft.address with
  | .error _ => .error (.unbuildable none)
  | .ok url =>
      let extended := { sentUrl url with
        query := extendQuery url.query draft.parameters }
      if !hasHost url then .error (.unbuildable (some url.text))
      else if !draft.headers.all (isHeaderValue ·.2) then .error (.unbuildable none)
      else if !isSpoken url || (Http.Target.ofText? extended.text).isNone then
        .error (.unbuildable (some extended.text))
      else
        .ok ⟨draft.method, extended.text, credentialHeaders url ++ draft.headers, draft.body⟩

/-- What a client needs besides the address of its service: how it repeats
requests, what jitter adds, how it is led on, and the script of the other side. -/
structure Line where
  retry : RetrySettings
  draw : Nat → Nat
  redirection : Redirection
  script : Script

/-- What goes out for a request, and the time that passes behind it. -/
def Leg.steps (send : OutboundRequest → Outgoing) (leg : Leg) : List (Step Outgoing) :=
  [.started (send leg.request), .waited leg.elapsed]

/-- Goes through an attempt. -/
def Journey.travel (journey : Journey) : Action Outgoing Reply :=
  ExceptT.mk ⟨journey.first.steps .asked ++ journey.hops.flatMap (Leg.steps .followed),
    journey.outcome.mapError .transport⟩

namespace Line

variable (line : Line)

/-- What comes of an attempt at a request. -/
def journey (attempt : Nat) (request : OutboundRequest) : Journey :=
  line.redirection.journey (line.script attempt) 0 request mostHops

/-- Sends a request once. -/
def sendOnce (draft : Draft) (attempt : Nat) : Action Outgoing Reply := do
  let request ← Action.settle (draft.build.mapError .transport)
  (line.journey attempt request).travel

/-- Sends a request, again if need be, and reads the reply.  `read` may fail, and
a failure that is transient makes the request be sent again. -/
def send (name : String) (draft : Draft) (read : Reply → Action Outgoing α) :
    Action Outgoing α :=
  withRetry line.retry line.draw name fun attempt => do
    read (← line.sendOnce draft attempt)

end Line

end EditorLaunch.Outbound
