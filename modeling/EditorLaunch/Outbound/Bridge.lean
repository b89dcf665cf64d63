import EditorLaunch.Json.Reader
import EditorLaunch.Outbound.Client

/-!
# The editing bridge

The bridge knows which editor handles which extension, and opens sessions.  Both
are answered with one status only; anything else means that the bridge cannot be
used, and the failure names the path that was asked.
-/

namespace EditorLaunch.Outbound

/-- The client of the editing bridge. -/
structure BridgeClient where
  host : String
  secret : String
  line : Line

namespace BridgeClient

def cataloguePath : String := "/wopi/cbox/endpoints"

def sessionPath : String := "/wopi/iop/open"

def tokenHeader : String := "TokenHeader"

def address (client : BridgeClient) (path : String) : String :=
  trimAddress client.host ++ path

def catalogueDraft (client : BridgeClient) : Draft :=
  { method := "GET"
    address := client.address cataloguePath
    parameters := []
    headers := []
    body := "" }

def sessionDraft (client : BridgeClient) (request : SessionRequest) (token : String) :
    Draft :=
  { method := "GET"
    address := client.address sessionPath
    parameters := [("filename", request.fileKey), ("viewmode", request.mode.text),
      ("folderurl", request.folder), ("endpoint", request.storageId),
      ("username", request.userName)]
    headers := [("authorization", "Bearer " ++ client.secret), (tokenHeader, token)]
    body := "" }

def decodeCatalogue? (octets : List UInt8) : Option (List (String × EditorAddresses)) := do
  Catalogue.entriesOfJson? (← Json.readOctets? octets)

/-- Reports a status that is not the expected one. -/
def refuse (path : String) (reply : Reply) : Action Outgoing α :=
  throw (.bridgeUnavailable path ("unexpected status " ++ reply.statusLine))

def readCatalogue (reply : Reply) : Action Outgoing Catalogue := do
  if reply.status = 200 then
    match (reply.octets.toOption).bind decodeCatalogue? with
    | some entries =>
        let (catalogue, collisions) := Catalogue.ofEntries entries
        ExceptT.lift (reportCollisions collisions)
        return catalogue
    | none =>
        throw (.bridgeUnavailable cataloguePath
          ("invalid catalogue: " ++ (TransportFailure.unreadable false).message))
  else
    Action.log .warn ("Editing bridge catalogue returned " ++ reply.statusLine)
    refuse cataloguePath reply

/-- Reads the reply to a request for a session.  The body is the handle, as it
is. -/
def readSession (reply : Reply) : Action Outgoing SessionHandle := do
  if reply.status = 200 then
    let handle ← Action.settle (reply.text.mapError .transport)
    return ⟨handle⟩
  else
    Action.log .warn
      s!"Editing bridge session open returned {reply.statusLine}: {reply.excerpt}"
    refuse sessionPath reply

/-- What a failure on a path is reported as. -/
def reword (path : String) : Failure → Failure
  | .transport cause => .bridgeUnavailable path ("unreachable: " ++ cause.message)
  | other => other

def fetchCatalogue (client : BridgeClient) : Action Outgoing Catalogue := do
  let catalogue ← Action.mapFailure (reword cataloguePath)
    (client.line.send "editing_bridge_extensions" client.catalogueDraft readCatalogue)
  Action.log .debug s!"Editing bridge advertises {catalogue.size} extensions"
  return catalogue

def openSession (client : BridgeClient) (request : SessionRequest) (token : String) :
    Action Outgoing SessionHandle := do
  Action.log .debug
    s!"Opening {request.mode.text} session for {request.fileKey} in {request.storageId}"
  Action.mapFailure (reword sessionPath)
    (client.line.send "editing_bridge_open_session" (client.sessionDraft request token)
      readSession)

def setupMessage (settings : BridgeSettings) : String :=
  Outbound.setupMessage "editing_bridge" settings.connectTimeout settings.requestTimeout
    settings.insecure

end BridgeClient

end EditorLaunch.Outbound
