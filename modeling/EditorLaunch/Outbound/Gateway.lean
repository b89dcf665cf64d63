import EditorLaunch.Json.Printer
import EditorLaunch.Json.Reader
import EditorLaunch.Outbound.Client
import EditorLaunch.Stat

/-!
# The storage gateway

The gateway looks up resources.  A status of success with a readable reply is
taken for its answer; everything else is a failure of the storage.
-/

namespace EditorLaunch.Outbound

/-- The client of the storage gateway. -/
structure GatewayClient where
  address : String
  line : Line

namespace GatewayClient

def statPath : String := "/cs3.gateway.v1beta1.GatewayAPI/Stat"

def tokenHeader : String := "x-access-token"

def statDraft (client : GatewayClient) (reference : Reference) (token : String) : Draft :=
  { method := "POST"
    address := trimAddress client.address ++ statPath
    parameters := []
    headers := [(tokenHeader, token), ("content-type", "application/json")]
    body := (Wire.ofStatRequest ⟨reference⟩).print }

def decodeBody? (octets : List UInt8) : Option StatReply := do
  Wire.toStatReply? (← Json.readOctets? octets)

def readStat (reference : Reference) (reply : Reply) : Action Outgoing StatReply := do
  if reply.isSuccess then
    match (reply.octets.toOption).bind decodeBody? with
    | some found => return found
    | none =>
        throw (.backend ("undecodable stat reply: " ++
          (TransportFailure.unreadable false).message))
  else
    Action.log .warn
      s!"Storage gateway returned {reply.statusLine} for stat of {reference.text}"
    throw (.backend s!"gateway returned {reply.statusLine}: {reply.excerpt}")

/-- What a failure of a look-up is reported as. -/
def reword : Failure → Failure
  | .transport cause => .backend ("gateway unreachable: " ++ cause.message)
  | other => other

/-- Looks a resource up. -/
def stat (client : GatewayClient) (reference : Reference) (token : String) :
    Action Outgoing Metadata := do
  Action.log .debug ("Stat " ++ reference.text)
  let reply ← Action.mapFailure reword
    (client.line.send "storage_gateway_stat" (client.statDraft reference token)
      (readStat reference))
  Action.settle (reply.interpret reference)

def setupMessage (settings : GatewaySettings) : String :=
  Outbound.setupMessage "storage_gateway" settings.connectTimeout settings.requestTimeout
    settings.insecure

end GatewayClient

end EditorLaunch.Outbound
