import EditorLaunch.Duration.Basic
import EditorLaunch.Unicode.Blank

/-!
# Settings

The settings of the service, section by section, with the values they have when
nothing else is said.
-/

namespace EditorLaunch

/-- How the service is reached. -/
structure WebSettings where
  host : String := "0.0.0.0"
  port : UInt16 := 9105
  root : String := "/"
  requestTimeout : Duration := .ofSeconds 60
deriving DecidableEq, Repr

/-- What is logged and how. -/
structure LogSettings where
  level : String := "info"
  pretty : Bool := true
  color : Bool := true
  file? : Option String := none
deriving DecidableEq, Repr

/-- How the editing bridge is reached. -/
structure BridgeSettings where
  host : String := "http://127.0.0.1:8880"
  insecure : Bool := false
  secret : String := "Pive-Fumkiu4"
  connectTimeout : Duration := .ofSeconds 5
  requestTimeout : Duration := .ofSeconds 4
deriving DecidableEq, Repr

/-- How the storage gateway is reached. -/
structure GatewaySettings where
  address : String := "http://127.0.0.1:9142"
  insecure : Bool := false
  connectTimeout : Duration := .ofSeconds 5
  requestTimeout : Duration := .ofSeconds 4
deriving DecidableEq, Repr

/-- The secret of minted tokens and how long tokens last. -/
structure TokenSettings where
  secret : String := "Pive-Fumkiu4"
  lifetime : Duration := .ofSeconds 3600
deriving DecidableEq, Repr

/-- Where storage tokens come from: signed here, or taken from the request. -/
inductive TokenMode where
  | mint
  | forward
deriving DecidableEq, Repr

/-- The name of a mode in settings. -/
def TokenMode.name : TokenMode → String
  | mint => "mint"
  | forward => "forward"

/-- The name of a mode in messages. -/
def TokenMode.label : TokenMode → String
  | mint => "Mint"
  | forward => "Forward"

/-- Which headers tell who is asking. -/
structure AuthSettings where
  mode : TokenMode := .mint
  tokenHeader : String := "x-access-token"
  userIdHeader : String := "x-remote-user"
  displayNameHeader : String := "x-remote-user-display-name"
deriving DecidableEq, Repr

/-- How often and after which pauses a request is repeated. -/
structure RetrySettings where
  maxAttempts : UInt32 := 3
  initialDelay : Duration := .ofMilliseconds 100
  maxDelay : Duration := .ofSeconds 2
  multiplier : Float := 2.0
  jitter : Bool := true
deriving Repr

/-- All settings. -/
structure Settings where
  web : WebSettings := {}
  log : LogSettings := {}
  bridge : BridgeSettings := {}
  gateway : GatewaySettings := {}
  token : TokenSettings := {}
  auth : AuthSettings := {}
  retry : RetrySettings := {}
deriving Repr

namespace RetrySettings

/-- How often a request is sent at most: at least once. -/
def attempts (settings : RetrySettings) : Nat :=
  max settings.maxAttempts.toNat 1

def longestPause (settings : RetrySettings) : Duration :=
  if settings.jitter then settings.maxDelay.plus settings.maxDelay.quarter
  else settings.maxDelay

/-- How long a repeated request takes at most if each attempt takes at most
`timeout`. -/
def worstCase (settings : RetrySettings) (timeout : Duration) : Duration :=
  (timeout.times settings.attempts).plus
    (settings.longestPause.times (settings.attempts - 1))

end RetrySettings

/-- The path under which the service is mounted: a slash in front, none at the
end, no blanks around. -/
def WebSettings.normalizedRoot (settings : WebSettings) : String :=
  let kept := trimEndWhile (· == '/') (trimBlanks settings.root.toList)
  match kept with
  | [] => "/"
  | '/' :: _ => String.ofList kept
  | _ => String.ofList ('/' :: kept)

end EditorLaunch
