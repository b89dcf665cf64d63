import EditorLaunch.Duration.Printer
import EditorLaunch.Failure
import EditorLaunch.Settings.Basic
import EditorLaunch.Url.Reader

/-!
# Sound settings

The service starts only with settings that it can work with.  Both of the other
services need an address, secrets must not be empty where they are used, and the
longest time that requests to the other services can take, repetitions and pauses
included, must be shorter than the time that the service gives to a request of
its own.  The first problem in this order is reported.
-/

namespace EditorLaunch

/-- Why the service cannot work with settings. -/
inductive SettingsProblem where
  | blankBridgeHost
  | badBridgeHost (host : String)
  | badGatewayAddress (address : String)
  | emptyBridgeSecret
  | emptyTokenSecret
  | noLifetime
  | noAttempts
  | shrinkingPauses
  | slowRequests (given needed : Duration)
deriving DecidableEq, Repr

def SettingsProblem.message : SettingsProblem → String
  | blankBridgeHost => "wopi.host must not be empty"
  | badBridgeHost host => "wopi.host is not a valid URL: " ++ host
  | badGatewayAddress address => "gateway.address is not a valid URL: " ++ address
  | emptyBridgeSecret => "wopi.iop_secret must not be empty"
  | emptyTokenSecret => "token_manager.jwt_secret is required when auth.mode = \"mint\""
  | noLifetime => "token_manager.token_ttl must be positive"
  | noAttempts => "retry.max_attempts must be at least 1"
  | shrinkingPauses => "retry.backoff_multiplier must be >= 1.0"
  | slowRequests given needed =>
      s!"web.request_timeout ({given.text}) must exceed " ++
        s!"the outbound retry budget ({needed.text})"

def SettingsProblem.failure (problem : SettingsProblem) : Failure :=
  .configuration problem.message

def isAddress (content : String) : Bool :=
  (Url.parse content).isOk

namespace Settings

/-- How long the requests for one file take at most: one to the gateway and two
to the bridge, one after the other. -/
def outboundBudget (settings : Settings) : Duration :=
  (settings.retry.worstCase settings.gateway.requestTimeout).plus
    ((settings.retry.worstCase settings.bridge.requestTimeout).times 2)

/-- Fails with a problem if it is there. -/
def refuse (problem : SettingsProblem) (found : Bool) : Except SettingsProblem Unit :=
  if found then .error problem else .ok ()

/-- Looks for the first problem. -/
def validate (settings : Settings) : Except SettingsProblem Unit := do
  refuse .blankBridgeHost (isBlankText settings.bridge.host)
  refuse (.badBridgeHost settings.bridge.host) (!isAddress settings.bridge.host)
  refuse (.badGatewayAddress settings.gateway.address)
    (!isAddress settings.gateway.address)
  refuse .emptyBridgeSecret settings.bridge.secret.isEmpty
  refuse .emptyTokenSecret (settings.auth.mode == .mint && settings.token.secret.isEmpty)
  refuse .noLifetime (settings.token.lifetime == .zero)
  refuse .noAttempts (settings.retry.maxAttempts == 0)
  refuse .shrinkingPauses (settings.retry.multiplier < 1.0)
  refuse (.slowRequests settings.web.requestTimeout settings.outboundBudget)
    (settings.web.requestTimeout.nanoseconds ≤ settings.outboundBudget.nanoseconds)

end Settings

end EditorLaunch
