import EditorLaunch.Json.Printer
import EditorLaunch.Logging.Setup

/-!
# Lines of the log

A message for people stands behind its level and its target.  As JSON it is an
object with the level, the target and the message among the fields.
-/

namespace EditorLaunch

def Level.text : Level → String
  | error => "ERROR"
  | warn => "WARN"
  | info => "INFO"
  | debug => "DEBUG"
  | trace => "TRACE"

/-- The code of the colour of a level on a terminal. -/
def Level.colour : Level → Nat
  | error => 31
  | warn => 33
  | info => 32
  | debug => 34
  | trace => 35

/-- The name of a level, in colour if that is wanted. -/
def Level.shown (level : Level) (colored : Bool) : String :=
  if colored then s!"\x1b[{level.colour}m{level.text}\x1b[0m" else level.text

def LogLayout.line (layout : LogLayout) (target : String) (event : Event) : String :=
  match layout with
  | lines colored => s!"{event.level.shown colored} {target}: {event.message}"
  | json =>
      (Json.record [("level", .text event.level.text),
        ("fields", .record [("message", .text event.message)]),
        ("target", .text target)]).print

end EditorLaunch
