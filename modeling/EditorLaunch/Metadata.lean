import EditorLaunch.Access
import EditorLaunch.Failure
import EditorLaunch.Path.Basic
import EditorLaunch.ResourceId
import EditorLaunch.Unicode.Lowercase

/-!
# Metadata of resources

What the storage gateway tells about a resource.  Its size is a number of 64
bits.  Only plain files can be opened.
-/

namespace EditorLaunch

/-- What a resource is.  Kinds that are not known count as invalid. -/
inductive ResourceKind where
  | file
  | container
  | reference
  | symlink
  | invalid
deriving DecidableEq, Repr

namespace ResourceKind

def label : ResourceKind → String
  | file => "File"
  | container => "Container"
  | reference => "Reference"
  | symlink => "Symlink"
  | invalid => "Invalid"

def wireName : ResourceKind → String
  | file => "RESOURCE_TYPE_FILE"
  | container => "RESOURCE_TYPE_CONTAINER"
  | reference => "RESOURCE_TYPE_REFERENCE"
  | symlink => "RESOURCE_TYPE_SYMLINK"
  | invalid => "RESOURCE_TYPE_INVALID"

def ofWireName (name : String) : ResourceKind :=
  if name = "RESOURCE_TYPE_FILE" then file
  else if name = "RESOURCE_TYPE_CONTAINER" then container
  else if name = "RESOURCE_TYPE_REFERENCE" then reference
  else if name = "RESOURCE_TYPE_SYMLINK" then symlink
  else invalid

end ResourceKind

/-- What is known about a resource. -/
structure Metadata where
  id : ResourceId
  path : String
  size : UInt64
  kind : ResourceKind
  permissions : PermissionSet
deriving DecidableEq, Repr

namespace Metadata

/-- Whether the resource has no contents. -/
def isEmpty (metadata : Metadata) : Bool :=
  metadata.size == 0

/-- The extension in lower case, with its dot. -/
def extension (metadata : Metadata) : String :=
  lowercase (Path.extension metadata.path)

def folder (metadata : Metadata) : String :=
  Path.folder metadata.path

/-- Refuses everything but files. -/
def ensureFile (metadata : Metadata) : Except Failure Unit :=
  if metadata.kind = .file then .ok ()
  else
    .error (.unsupportedType s!"{metadata.path} is not a file ({metadata.kind.label})")

def decide (metadata : Metadata) : AccessDecision :=
  metadata.permissions.decide metadata.isEmpty

end Metadata

end EditorLaunch
