import EditorLaunch.Environment.Layer
import EditorLaunch.Settings.Decode
import EditorLaunch.Settings.Validation
import EditorLaunch.Toml.Reader

/-!
# Loading settings

Settings come from a file and from variables of the environment, which win over
the file.  What neither gives keeps its default.  Loading fails if the file
cannot be read, if a setting cannot be read, or if the service cannot work with
the settings.
-/

namespace EditorLaunch

/-- Why settings cannot be loaded. -/
inductive LoadError where
  | badFile
  | badSetting (error : DecodeError)
  | problem (found : SettingsProblem)
deriving DecidableEq, Repr

namespace Settings

/-- Puts a file and variables together. -/
def layers (file : String) (environment : List (String × String)) :
    Except LoadError RawSetting :=
  match Toml.read? file with
  | some found => .ok (found.merge (Environment.layer environment))
  | none => .error .badFile

/-- Loads settings from the text of a file and from variables. -/
def load (file : String) (environment : List (String × String)) :
    Except LoadError Settings := do
  let raw ← layers file environment
  let settings ← (decode raw).mapError .badSetting
  settings.validate.mapError .problem
  return settings

end Settings

end EditorLaunch
