import EditorLaunch.Duration.Reader
import EditorLaunch.Json.Basic
import EditorLaunch.Number.Shortest

/-!
# Durations in settings

A setting gives a duration as a whole number of seconds or as a text with units.
Everything else is refused, and the refusal says what was found instead.
-/

namespace EditorLaunch.Duration

/-- Why a value is no duration. -/
inductive SettingError where
  | unexpected (found : String)
  | negative (seconds : Int)
  | unreadable (content : String) (cause : ReadError)
deriving DecidableEq, Repr

def expectation : String :=
  "a duration as seconds (number) or human-readable string (e.g., '30s', '5m', '1h30m')"

def SettingError.message : SettingError → String
  | unexpected found => s!"invalid type: {found}, expected {expectation}"
  | negative seconds => s!"Negative duration: {seconds}"
  | unreadable content cause => s!"Invalid duration '{content}': {cause.message}"

/-- The duration of so many seconds. -/
def ofInteger (seconds : Int) : Except SettingError Duration :=
  if seconds < 0 then .error (.negative seconds) else .ok (ofSeconds seconds.toNat)

def ofSettingText (content : String) : Except SettingError Duration :=
  (read content).mapError (.unreadable content)

def ofJson : Json → Except SettingError Duration
  | .integer seconds => ofInteger seconds
  | .string content? => ofSettingText (content?.getD "")
  | .decimal number =>
      .error (.unexpected s!"floating point `{FloatLayout.messages.text number.toFloat}`")
  | .boolean value => .error (.unexpected s!"boolean `{value}`")
  | .null => .error (.unexpected "null")
  | .array _ => .error (.unexpected "sequence")
  | .object _ => .error (.unexpected "map")

end EditorLaunch.Duration
