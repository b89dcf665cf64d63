import EditorLaunch.Logging.Filter
import EditorLaunch.Settings.Basic
import EditorLaunch.Text.Quoted

/-!
# Setting up the log

The log goes to the standard output or to the end of a file, as lines for people
or as one JSON value a line.  A filter given from outside wins over the level of
the settings unless it cannot be read.  Colours are for people who look at the
standard output.
-/

namespace EditorLaunch

/-- How messages are laid out. -/
inductive LogLayout where
  | lines (colored : Bool)
  | json
deriving DecidableEq, Repr

/-- A log that has been set up. -/
structure Log where
  filter : Filter
  layout : LogLayout
  file? : Option String
deriving DecidableEq, Repr

/-- Why a log cannot be set up. -/
inductive LogError where
  | badLevel (level : String)
  | badFile (file : String)
deriving DecidableEq, Repr

def LogError.message : LogError → String
  | badLevel level => "invalid log level " ++ Quoted.text level
  | badFile file => "cannot open log file " ++ file

namespace Log

def filterFor (outside? : Option String) (level : String) : Except LogError Filter :=
  match outside?.bind Filter.read? with
  | some filter => .ok filter
  | none =>
      match Filter.read? (Filter.ofLevelText level) with
      | some filter => .ok filter
      | none => .error (.badLevel level)

/-- Sets a log up; `canOpen` says which files can be written to. -/
def ofSettings (canOpen : String → Bool) (outside? : Option String)
    (settings : LogSettings) : Except LogError Log := do
  let filter ← filterFor outside? settings.level
  match settings.file? with
  | some file => if canOpen file then pure () else throw (.badFile file)
  | none => pure ()
  let colored := settings.color && settings.file?.isNone
  let layout := if settings.pretty then LogLayout.lines colored else .json
  return ⟨filter, layout, settings.file?⟩

def kept (log : Log) (target : String) (events : List Event) : List Event :=
  events.filter fun event => log.filter.allows target event.level

end Log

end EditorLaunch
