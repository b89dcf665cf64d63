import EditorLaunch.Environment.Value

/-!
# Settings from the environment

Variables whose names begin with `WOPISERVER_`, in any case, are settings.  The
rest of the name, in small letters, leads to the setting, with two underscores
between the names of nested tables.  Variables are taken one after the other, so
of two for one setting the later one wins.
-/

namespace EditorLaunch.Environment

/-- What the names of all settings begin with. -/
def nameStart : List Char :=
  "WOPISERVER_".toList

/-- What stands behind the beginning of a name, if the name is one of a setting. -/
def settingName? (name : List Char) : Option (List Char) :=
  let kept := trimBlanks name
  let start := kept.take nameStart.length
  if start.map Char.toUpper = nameStart then some (kept.drop nameStart.length) else none

/-- Splits a name where two underscores or a point stand. -/
def segments : List Char → List (List Char)
  | '_' :: '_' :: rest => [] :: segments rest
  | '.' :: rest => [] :: segments rest
  | character :: rest =>
      match segments rest with
      | first :: others => (character :: first) :: others
      | [] => [[character]]
  | [] => [[]]

/-- The names that lead to the setting of a variable. -/
def settingPath? (name : String) : Option (List String) := do
  let rest ← settingName? name.toList
  let names := segments (rest.map Char.toLower)
  if names.any List.isEmpty then none else some (names.map String.ofList)

def layer (environment : List (String × String)) : RawSetting :=
  environment.foldl (fun found (name, content) =>
    match settingPath? name with
    | some path => found.merge (RawSetting.nested path (read content))
    | none => found) (.table [])

end EditorLaunch.Environment
