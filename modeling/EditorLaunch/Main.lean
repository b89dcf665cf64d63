import EditorLaunch.CommandLine.Startup

/-!
# The program

The program goes through a start of the service with the arguments of its command
line.  The text of the file of settings is read from the standard input; an empty
input stands for a missing file.  Log lines go to the standard output and the
reason of a failed start to the standard error.
-/

namespace EditorLaunch.CommandLine

/-- The variable that gives a log filter from outside. -/
def filterVariable : String := "RUST_LOG"

/-- The names of the settings of all sections. -/
def settingNames : List (String × List String) :=
  [("web", Settings.webFields.map (·.name)), ("log", Settings.logFields.map (·.name)),
    ("wopi", Settings.bridgeFields.map (·.name)),
    ("gateway", Settings.gatewayFields.map (·.name)),
    ("token_manager", Settings.tokenFields.map (·.name)),
    ("auth", Settings.authFields.map (·.name)),
    ("retry", Settings.retryFields.map (·.name))]

/-- The variables that settings may come from. -/
def variableNames : List String :=
  "WOPISERVER_CONFIG_FILE" :: settingNames.flatMap fun (place, names) =>
    names.map fun name =>
      String.ofList Environment.nameStart ++ place.toUpper ++ "__" ++ name.toUpper

/-- The variables that are set. -/
def readVariables : IO (List (String × String)) :=
  variableNames.filterMapM fun name => do
    return (← IO.getEnv name).map (name, ·)

/-- The rest of an input. -/
partial def readRest (input : IO.FS.Stream) (before : String) : IO String := do
  let line ← input.getLine
  if line.isEmpty then return before else readRest input (before ++ line)

/-- Prints what comes of a start. -/
def print (report : Report) : IO Unit := do
  let output ← IO.getStdout
  let errors ← IO.getStderr
  if let some log := report.log? then
    for note in report.notes do
      output.putStr (log.layout.line note.target note.event ++ "\n")
  match report.ending with
  | .showed text => output.putStr (text ++ "\n")
  | .failed error => errors.putStr ("Error: " ++ error.message ++ "\n")
  | .stopped => pure ()

end EditorLaunch.CommandLine

open EditorLaunch.CommandLine in
/-- Starts the service with the arguments of the command line. -/
def main (arguments : List String) : IO UInt32 := do
  let file ← readRest (← IO.getStdin) ""
  let around : Surroundings :=
    { environment := ← readVariables
      filter? := ← IO.getEnv filterVariable
      file? := fun _ => if file.isEmpty then none else some file
      canCreate := fun _ => true
      canLog := fun _ => true
      bindFault? := fun _ => none
      signal := .terminate }
  let report := run around arguments
  print report
  return .ofNat report.exitCode
