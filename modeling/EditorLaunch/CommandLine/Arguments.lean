/-!
# Arguments

The command line may name the file of settings and replace some of them.  An
option has a long and a short name; its value stands behind an equality sign,
directly behind the short name, or in the next argument, which must not look like
an option itself.  No option may be given twice.  Arguments are read one after
the other up to the first error, or the first one that asks for help or for the
version.
-/

namespace EditorLaunch.CommandLine

/-- What the arguments say. -/
structure Arguments where
  file? : Option String := none
  host? : Option String := none
  port? : Option UInt16 := none
  root? : Option String := none
  level? : Option String := none
deriving DecidableEq, Repr

/-- What is asked for. -/
inductive Request where
  | run (arguments : Arguments)
  | help
  | version
deriving DecidableEq, Repr

/-- An option. -/
inductive Choice where
  | file
  | host
  | port
  | root
  | level
  | help
  | version
deriving DecidableEq, Repr

/-- Why arguments cannot be read. -/
inductive UsageError where
  | unexpected (argument : String)
  | missingValue (choice : Choice)
  | needlessValue (choice : Choice)
  | repeated (choice : Choice)
  | badPort (value : String)
deriving DecidableEq, Repr

namespace Choice

/-- All options with their long and short names. -/
def names : List (Choice × String × Char) :=
  [(file, "config", 'c'), (host, "host", 'H'), (port, "port", 'p'), (root, "root", 'r'),
    (level, "log-level", 'v'), (help, "help", 'h'), (version, "version", 'V')]

def ofLong? (name : String) : Option Choice :=
  (names.find? (·.2.1 == name)).map (·.1)

def ofShort? (letter : Char) : Option Choice :=
  (names.find? (·.2.2 == letter)).map (·.1)

def text (choice : Choice) : String :=
  "--" ++ ((names.lookup choice).map (·.1)).getD ""

end Choice

def UsageError.message : UsageError → String
  | unexpected argument => s!"unexpected argument '{argument}'"
  | missingValue choice => s!"a value is required for '{choice.text}'"
  | needlessValue choice => s!"'{choice.text}' takes no value"
  | repeated choice => s!"'{choice.text}' cannot be used more than once"
  | badPort value => s!"'{value}' is no port"

def isOption (argument : String) : Bool :=
  match argument.toList with
  | '-' :: _ :: _ => true
  | _ => false

/-- Reads a port: a decimal number that may have a sign. -/
def port? (value : String) : Option UInt16 :=
  let (negative, digits) := match value.toList with
    | '-' :: rest => (true, rest)
    | '+' :: rest => (false, rest)
    | letters => (false, letters)
  if digits.isEmpty || !digits.all Char.isDigit then none
  else
    let size := digits.foldl (fun size digit => size * 10 + (digit.toNat - '0'.toNat)) 0
    if size = 0 ∨ (!negative ∧ size < 0x10000) then some (.ofNat size) else none

/-- Fails if something has been given already. -/
def once (choice : Choice) (old : Option α) (next : Arguments) :
    Except UsageError Arguments :=
  if old.isSome then .error (.repeated choice) else .ok next

namespace Arguments

/-- Takes the value of an option; help and version have none. -/
def set (arguments : Arguments) (choice : Choice) (value : String) :
    Except UsageError Arguments :=
  match choice with
  | .file => once choice arguments.file? { arguments with file? := some value }
  | .host => once choice arguments.host? { arguments with host? := some value }
  | .port => do
      let next ← once choice arguments.port? arguments
      match CommandLine.port? value with
      | some port => return { next with port? := some port }
      | none => throw (.badPort value)
  | .root => once choice arguments.root? { arguments with root? := some value }
  | .level => once choice arguments.level? { arguments with level? := some value }
  | .help => .error (.needlessValue choice)
  | .version => .error (.needlessValue choice)

end Arguments

/-- An option with the value that stands in the same argument, if one does. -/
structure Given where
  choice : Choice
  value? : Option String
deriving DecidableEq, Repr

def given? (argument : String) : Option Given :=
  match argument.toList with
  | '-' :: '-' :: letters =>
      let (name, rest) := letters.span (· != '=')
      (Choice.ofLong? (String.ofList name)).map fun choice =>
        ⟨choice, if rest.isEmpty then none else some (String.ofList (rest.drop 1))⟩
  | '-' :: letter :: rest =>
      (Choice.ofShort? letter).map fun choice =>
        match choice, rest with
        | .help, _ => ⟨choice, none⟩
        | .version, _ => ⟨choice, none⟩
        | _, [] => ⟨choice, none⟩
        | _, '=' :: value => ⟨choice, some (String.ofList value)⟩
        | _, value => ⟨choice, some (String.ofList value)⟩
  | _ => none

def readFrom (found : Arguments) : List String → Except UsageError Request
  | [] => .ok (.run found)
  | ["--"] => .ok (.run found)
  | argument :: rest =>
      match given? argument with
      | none => .error (.unexpected argument)
      | some ⟨.help, none⟩ => .ok .help
      | some ⟨.version, none⟩ => .ok .version
      | some ⟨choice, some value⟩ => do readFrom (← found.set choice value) rest
      | some ⟨choice, none⟩ =>
          match rest with
          | value :: others =>
              if isOption value then .error (.missingValue choice)
              else do readFrom (← found.set choice value) others
          | [] => .error (.missingValue choice)

def read (arguments : List String) : Except UsageError Request :=
  readFrom {} arguments

def helpText : String :=
  "Opens storage-backed documents in WOPI office editors\n\n" ++
    "Usage: wopi-server [OPTIONS]\n\n" ++
    "Options:\n" ++
    "  -c, --config <CONFIG>        Configuration file path " ++
    "(default: $WOPISERVER_CONFIG_FILE, then config.toml)\n" ++
    "  -H, --host <IP>              Listening IP address\n" ++
    "  -p, --port <PORT>            Listening port\n" ++
    "  -r, --root <PATH>            Path prefix for all routes\n" ++
    "  -v, --log-level <LOG_LEVEL>  Log level (overrides config file)\n" ++
    "  -h, --help                   Print help\n" ++
    "  -V, --version                Print version"

def versionText (version : String) : String :=
  "wopi-server " ++ version

end EditorLaunch.CommandLine
