/-!
# Access

What a user may do with a file decides how an editor opens it.  Nothing opens
without the right to download.  With the right to upload the file is edited, an
empty one from scratch; without it the file is viewed, and an empty file is
refused, since it looks like one that may not be seen.
-/

namespace EditorLaunch

/-- The rights that matter to opening a file. -/
structure PermissionSet where
  upload : Bool
  download : Bool
deriving DecidableEq, Repr

/-- What an editing session may do to the file. -/
inductive ViewMode where
  | readWrite
  | readOnly
deriving DecidableEq, Repr

/-- The name of a view mode for the editing bridge. -/
def ViewMode.text : ViewMode → String
  | readWrite => "VIEW_MODE_READ_WRITE"
  | readOnly => "VIEW_MODE_READ_ONLY"

/-- The editors that an extension may have. -/
inductive EditorKind where
  | new
  | edit
  | view
deriving DecidableEq, Repr

def EditorKind.text : EditorKind → String
  | new => "new"
  | edit => "edit"
  | view => "view"

/-- Why a file is not opened. -/
inductive DenyReason where
  | noDownload
  | emptyReadOnly
deriving DecidableEq, Repr

def DenyReason.text : DenyReason → String
  | noDownload => "download permission not granted"
  | emptyReadOnly => "read-only access to an empty file"

/-- Whether and how a file is opened. -/
inductive AccessDecision where
  | allowed (mode : ViewMode) (editor : EditorKind)
  | denied (reason : DenyReason)
deriving DecidableEq, Repr

/-- Decides from the rights of the user and from whether the file is empty. -/
def PermissionSet.decide (permissions : PermissionSet) (isEmpty : Bool) : AccessDecision :=
  if !permissions.download then .denied .noDownload
  else if permissions.upload then .allowed .readWrite (if isEmpty then .new else .edit)
  else if isEmpty then .denied .emptyReadOnly
  else .allowed .readOnly .view

end EditorLaunch
