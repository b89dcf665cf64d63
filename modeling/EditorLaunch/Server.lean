import EditorLaunch.Address.Socket
import EditorLaunch.Duration.Printer
import EditorLaunch.Settings.Basic
import EditorLaunch.Trace

/-!
# Listening

The service listens on the address and the port that its settings name.
-/

namespace EditorLaunch

/-- A text that is no listening address. -/
structure BadSocketAddress where
deriving DecidableEq, Repr

def BadSocketAddress.message (_ : BadSocketAddress) : String :=
  "invalid socket address syntax"

namespace WebSettings

def listeningAddress (settings : WebSettings) : Except BadSocketAddress SocketAddress :=
  match SocketAddress.ofText? s!"{settings.host}:{settings.port.toNat}" with
  | some address => .ok address
  | none => .error ⟨⟩

def mountMessage (settings : WebSettings) : String :=
  s!"Mounting routes under {settings.normalizedRoot} " ++
    s!"({settings.requestTimeout.text} request timeout)"

def listen (settings : WebSettings) : Traced κ (Except BadSocketAddress SocketAddress) :=
  match settings.listeningAddress with
  | .error failure => return .error failure
  | .ok address => do
      Traced.log .info settings.mountMessage
      return .ok address

end WebSettings

end EditorLaunch
