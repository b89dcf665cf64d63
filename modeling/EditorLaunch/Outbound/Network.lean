import EditorLaunch.Outbound.Bridge
import EditorLaunch.Outbound.Gateway

/-!
# Services over the network

The storage gateway and the editing bridge as they are reached over the network,
with the addresses, the secret and the repetitions that the settings ask for.
-/

namespace EditorLaunch.Outbound

/-- The host and the port of an address. -/
def site? (address : String) : Option (Host × UInt16) := do
  let url ← (Url.parse address).toOption
  let authority ← url.authority
  return (authority.host,
    authority.port.getD (if url.scheme == "https".toList then 443 else 80))

/-- The headers that are for one host alone. -/
def privateHeaders : List String :=
  ["authorization", "cookie", "cookie2", "proxy-authorization", "www-authenticate"]

/-- A library that takes only whole addresses for locations. -/
def Redirection.absolute : Redirection where
  turn? _ location := do
    let url ← (Url.parse location).toOption
    return if isSpoken url then .ok url.text else .error (.unbuildable (some url.text))
  carries address next name :=
    !privateHeaders.contains name || site? address == site? next
  final _ location failure turned := by
    cases read : (Url.parse location).toOption with
    | none => simp [read] at turned
    | some url =>
        cases spoken : isSpoken url with
        | true => simp [read, spoken] at turned
        | false =>
            obtain rfl : .unbuildable (some url.text) = failure := by
              simpa [read, spoken] using turned
            rfl

/-- How the other side of each call behaves. -/
structure Scripts where
  stat : Script
  catalogue : Script
  session : Script

/-- The services behind this one, reached over the network. -/
def backend (settings : Settings) (draw : Nat → Nat) (redirection : Redirection)
    (scripts : Scripts) : Backend :=
  let line (script : Script) : Line := ⟨settings.retry, draw, redirection, script⟩
  let gateway : GatewayClient := ⟨settings.gateway.address, line scripts.stat⟩
  let bridge (script : Script) : BridgeClient :=
    ⟨settings.bridge.host, settings.bridge.secret, line script⟩
  { stat := gateway.stat
    fetchCatalogue := (bridge scripts.catalogue).fetchCatalogue
    openSession := (bridge scripts.session).openSession }

end EditorLaunch.Outbound
