import EditorLaunch.CommandLine.Arguments
import EditorLaunch.Http.Response
import EditorLaunch.Logging.Printer
import EditorLaunch.Outbound.Bridge
import EditorLaunch.Outbound.Gateway
import EditorLaunch.Server
import EditorLaunch.Settings.File
import EditorLaunch.Settings.Loading

/-!
# Starting the service

The service starts in stages: arguments are read, settings are loaded, the log is
set up, the clients of the other services are made, and the service listens until
it is told to stop.  The first stage that fails ends the start.  Messages are
logged from the third stage on.
-/

namespace EditorLaunch.CommandLine

/-- How the service is told to stop. -/
inductive StopSignal where
  | terminate
  | interrupt
deriving DecidableEq, Repr

/-- What a start finds around it: variables, files, what can be written to, and
which addresses cannot be listened on for what reason. -/
structure Surroundings where
  environment : List (String × String)
  filter? : Option String
  file? : String → Option String
  canCreate : String → Bool
  canLog : String → Bool
  bindFault? : SocketAddress → Option String
  signal : StopSignal

/-- Why a start fails. -/
inductive StartError where
  | usage (error : UsageError)
  | noFile (file : String)
  | settings (error : LoadError)
  | log (error : LogError)
  | badAddress (error : BadSocketAddress)
  | listening (address : SocketAddress) (fault : String)
deriving DecidableEq, Repr

def faultMessage (error : DecodeError) : String :=
  let place := ".".intercalate error.path
  match error.fault with
  | .wrongKind => s!"{place} is of the wrong kind"
  | .outOfRange => s!"{place} is out of range"
  | .unknownName => s!"{place} is not one of the known names"
  | .refused detail => s!"{place}: {detail}"

def loadMessage : LoadError → String
  | .badFile => "the file of settings cannot be read"
  | .badSetting error => faultMessage error
  | .problem found => found.failure.message

def StartError.message : StartError → String
  | usage error => error.message
  | noFile file => s!"cannot create {file}"
  | settings error => loadMessage error
  | log error => error.message
  | badAddress error => error.message
  | listening address fault => s!"Failed to bind to {address.text}: {fault}"

/-- A message and the target that it belongs to. -/
structure Note where
  target : String
  event : Event
deriving DecidableEq, Repr

/-- How a start ends. -/
inductive Ending where
  | showed (text : String)
  | failed (error : StartError)
  | stopped
deriving DecidableEq, Repr

/-- What comes of a start: the file that it creates, the log with what stands in
it, and how it ends. -/
structure Report where
  created? : Option String
  log? : Option Log
  notes : List Note
  ending : Ending
deriving DecidableEq, Repr

/-- The code that the program ends with. -/
def Report.exitCode (report : Report) : Nat :=
  match report.ending with
  | .failed (.usage _) => 2
  | .failed _ => 1
  | _ => 0

def ownTarget : String := Filter.serviceTarget

def webTarget : String := ownTarget ++ "::web"

def clientTarget : String := ownTarget ++ "::utils::http_client_factory"

def defaultFileName : String := "config.toml"

namespace Arguments

def fileName (arguments : Arguments) (environment : List (String × String)) : String :=
  arguments.file?.getD ((environment.lookup "WOPISERVER_CONFIG_FILE").getD defaultFileName)

def apply (arguments : Arguments) (settings : Settings) : Settings :=
  { settings with
    web := { settings.web with
      host := arguments.host?.getD settings.web.host
      port := arguments.port?.getD settings.web.port
      root := arguments.root?.getD settings.web.root }
    log := { settings.log with level := arguments.level?.getD settings.log.level } }

end Arguments

def StopSignal.message : StopSignal → String
  | terminate => "Received SIGTERM, shutting down gracefully"
  | interrupt => "Received SIGINT (Ctrl+C), shutting down gracefully"

/-- What is logged before the service listens. -/
def openingNotes (arguments : Arguments) (settings : Settings) : List Note :=
  [⟨ownTarget, ⟨.info, "Starting WOPI server v" ++ Http.version⟩⟩] ++
    (arguments.file?.toList.map fun file =>
      ⟨ownTarget, ⟨.info, "Configuration loaded from: " ++ file⟩⟩) ++
    [⟨ownTarget, ⟨.info, s!"Editing bridge at {settings.bridge.host}, " ++
        s!"storage gateway at {settings.gateway.address}, " ++
        s!"token mode {settings.auth.mode.label}"⟩⟩,
      ⟨clientTarget, ⟨.debug, Outbound.GatewayClient.setupMessage settings.gateway⟩⟩,
      ⟨clientTarget, ⟨.debug, Outbound.BridgeClient.setupMessage settings.bridge⟩⟩]

/-- What is logged once the service has an address. -/
def listeningNotes (settings : Settings) (address : SocketAddress) : List Note :=
  [⟨webTarget, ⟨.info, settings.web.mountMessage⟩⟩,
    ⟨ownTarget, ⟨.info, s!"Listening on {address.host.text}:{address.port.toNat}"⟩⟩]

/-- What is logged from when the service is ready to its end. -/
def closingNotes (signal : StopSignal) : List Note :=
  [⟨ownTarget, ⟨.info, "WOPI server ready"⟩⟩, ⟨webTarget, ⟨.info, signal.message⟩⟩,
    ⟨ownTarget, ⟨.info, "WOPI server stopped"⟩⟩]

/-- Everything that is logged, and how the start ends, once there is a log. -/
def serve (around : Surroundings) (arguments : Arguments) (settings : Settings) :
    List Note × Ending :=
  let opening := openingNotes arguments settings
  match settings.web.listeningAddress with
  | .error error => (opening, .failed (.badAddress error))
  | .ok address =>
      let notes := opening ++ listeningNotes settings address
      match around.bindFault? address with
      | some fault => (notes, .failed (.listening address fault))
      | none => (notes ++ closingNotes around.signal, .stopped)

def Note.isKept (log : Log) (note : Note) : Bool :=
  log.filter.allows note.target note.event.level

/-- Starts with arguments that have been read. -/
def start (around : Surroundings) (arguments : Arguments) : Report :=
  let name := arguments.fileName around.environment
  let found? := around.file? name
  if found?.isNone && !around.canCreate name then
    ⟨none, none, [], .failed (.noFile name)⟩
  else
    let created? := if found?.isNone then some name else none
    match Settings.load (found?.getD Settings.defaultFile) around.environment with
    | .error error => ⟨created?, none, [], .failed (.settings error)⟩
    | .ok loaded =>
        let settings := arguments.apply loaded
        match Log.ofSettings around.canLog around.filter? settings.log with
        | .error error => ⟨created?, none, [], .failed (.log error)⟩
        | .ok log =>
            let (notes, ending) := serve around arguments settings
            ⟨created?, some log, notes.filter (·.isKept log), ending⟩

/-- Starts with the arguments of a command line. -/
def run (around : Surroundings) (arguments : List String) : Report :=
  match read arguments with
  | .error error => ⟨none, none, [], .failed (.usage error)⟩
  | .ok .help => ⟨none, none, [], .showed helpText⟩
  | .ok .version => ⟨none, none, [], .showed (versionText Http.version)⟩
  | .ok (.run found) => start around found

end EditorLaunch.CommandLine
