import EditorLaunch.Failure
import EditorLaunch.Text.Base64
import EditorLaunch.Text.Quoted
import EditorLaunch.Text.Utf8
import EditorLaunch.Unicode.Blank

/-!
# Resource identifiers

A resource is named by the storage that holds it and by an id that only this
storage understands.  Callers write both with a colon between them, in base 64.
The first colon divides, so that the second part may hold further ones.
-/

namespace EditorLaunch

/-- The name of a resource. -/
structure ResourceId where
  storageId : String
  opaqueId : String
deriving DecidableEq, Repr

namespace ResourceId

/-- Both parts with a colon between them. -/
def text (id : ResourceId) : String :=
  id.storageId ++ ":" ++ id.opaqueId

/-- The form that callers use. -/
def encode (id : ResourceId) : String :=
  Base64.paddedText (Utf8.ofText id.text)

/-- Divides a text at its first colon. -/
def ofText? (content : String) : Option ResourceId :=
  let (storage, rest) := content.toList.span (· != ':')
  match rest with
  | [] => none
  | _ :: opaqueId => some ⟨String.ofList storage, String.ofList opaqueId⟩

/-- Reads the form that callers use.  Blanks around it and missing padding are
accepted. -/
def decode (encoded : String) : Except Failure ResourceId :=
  match Base64.decode (Utf8.ofText (trimmed encoded)) with
  | .error cause =>
      .error (.malformedIdentifier
        ("invalid base64 in " ++ Quoted.text encoded ++ ": " ++ cause.message))
  | .ok octets =>
      match Utf8.toText? octets with
      | none =>
          .error (.malformedIdentifier (Quoted.text encoded ++ " does not decode to UTF-8"))
      | some content =>
          match ofText? content with
          | none =>
              .error (.malformedIdentifier
                (Quoted.text content ++ " has no storage separator"))
          | some id => .ok id

end ResourceId

/-- What a look-up addresses: a named resource, or a path in the storage. -/
inductive Reference where
  | resource (id : ResourceId)
  | path (location : String)
deriving DecidableEq, Repr

def Reference.text : Reference → String
  | .resource id => "id:" ++ id.text
  | .path location => "path:" ++ location

end EditorLaunch
