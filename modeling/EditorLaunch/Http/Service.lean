import EditorLaunch.Clock.Timestamp
import EditorLaunch.Http.Identity
import EditorLaunch.Http.OpenQuery
import EditorLaunch.Http.Request
import EditorLaunch.Http.Response

/-!
# The service

Requests are routed by their path below the root of the service.  One route
opens files and two tell that the service is up; they answer when something is
asked for and not for other methods.  Every request is logged at its start and
at its end, and one that takes too long is cut off.  Browsers that only ask what
they may request are answered in front of all this.
-/

namespace EditorLaunch.Http

/-- The routes of the service. -/
inductive Route where
  | openFile
  | health
  | live
deriving DecidableEq, Repr

namespace Route

def path : Route → List Char
  | openFile => "/api/v0/wopi/open".toList
  | health => "/health".toList
  | live => "/live".toList

/-- What stands in front of the path of a route. -/
def base (root : String) : List Char :=
  if root = "/" then [] else root.toList

def ofPath? (root : String) (location : List Char) : Option Route :=
  [openFile, health, live].find? fun route => base root ++ route.path == location

end Route

/-- A service: its settings and what it opens files with. -/
structure Service where
  settings : Settings
  opener : Opener

namespace Service

def reject (failure : Failure) : Traced κ Response := do
  let response := Response.ofFailure failure
  if 500 ≤ response.status then
    Traced.log .error ("Request failed: " ++ failure.message)
  else
    Traced.log .warn ("Request rejected: " ++ failure.message)
  return response

def openTarget (service : Service) (clock : Clock) (caller : Caller) (target : FileTarget) :
    Traced Call Response := do
  Traced.log .debug ("Open request for " ++ target.label)
  match ← (service.opener.openFile clock target caller).run with
  | .ok (.opened link) => return .json 200 link.toJson
  | .ok (.denied _) => return .empty 200
  | .error failure => reject failure

/-- Answers a request to open a file. -/
def handleOpen (service : Service) (clock : Clock) (request : Request) :
    Traced Call Response :=
  match callerOf request.headers service.settings.auth with
  | .error failure => reject failure
  | .ok caller =>
      match OpenQuery.ofText (String.ofList (request.target.query?.getD [])) with
      | .error duplicate => pure (.plain 400 duplicate.message)
      | .ok query =>
          match query.target with
          | .error failure => reject failure
          | .ok target => service.openTarget clock caller target

def report (status : String) (now : Instant) : Response :=
  .json 200 (.record [("status", .text status), ("version", .text version),
    ("timestamp", .text (Timestamp.text now.milliseconds))])

def handle (service : Service) (clock : Clock) (route : Route) (request : Request) :
    Traced Call Response :=
  match route with
  | .openFile => service.handleOpen clock request
  | .health => pure (report "healthy" clock.first)
  | .live => pure (report "alive" clock.first)

def asks (method : String) : Bool :=
  method == "GET" || method == "HEAD"

def route? (service : Service) (request : Request) : Option Route :=
  Route.ofPath? service.settings.web.normalizedRoot request.target.normalized.path

/-- Answers a request, however long it takes. -/
def dispatch (service : Service) (clock : Clock) (request : Request) : Traced Call Response :=
  match service.route? request with
  | none => pure (.empty 404)
  | some route =>
      if asks request.method then service.handle clock route request
      else pure ((Response.empty 405).withHeaders [Response.allowHeader])

/-- Answers a request within the time that it may take. -/
def dispatchInTime (service : Service) (clock : Clock) (request : Request) :
    Traced Call Response := do
  let limit := service.settings.web.requestTimeout
  match ← (service.dispatch clock request).within limit with
  | some response => return response
  | none =>
      Traced.log .warn ("Request timed out after " ++ limit.brief)
      return .plain 408 "Request timed out"

def logCompletion (response : Response) : Traced κ Unit :=
  if 400 ≤ response.status then Traced.log .warn "HTTP request completed with error"
  else Traced.log .info "HTTP request completed"

/-- Answers a request that is not a browser asking what it may request. -/
def answer (service : Service) (clock : Clock) (request : Request) : Traced Call Response := do
  Traced.log .info "HTTP request started"
  let response := (← service.dispatchInTime clock request).withHeaders Response.labels
  logCompletion response
  let shared := response.withHeaders Response.sharing
  return if request.method = "HEAD" then shared.withoutBody else shared

/-- The answer to a browser that asks what it may request. -/
def preflight (service : Service) (request : Request) : Response :=
  match service.route? request with
  | some _ => Response.preflight.withHeaders [Response.allowHeader]
  | none => Response.preflight

/-- Answers a request. -/
def serve (service : Service) (clock : Clock) (request : Request) : Traced Call Response :=
  if request.method = "OPTIONS" then pure (service.preflight request)
  else service.answer clock request

end Service

end EditorLaunch.Http
