import EditorLaunch.Access

/-!
# Editing sessions

What the editing bridge is told to open a session, and the handle it answers.
-/

namespace EditorLaunch

/-- Asks for an editing session on a file. -/
structure SessionRequest where
  fileKey : String
  mode : ViewMode
  storageId : String
  folder : String
  userName : String
deriving DecidableEq, Repr

/-- What the editor is given to find its session. -/
structure SessionHandle where
  text : String
deriving DecidableEq, Repr

end EditorLaunch
