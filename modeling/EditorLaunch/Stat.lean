import EditorLaunch.Json.Basic
import EditorLaunch.Metadata

/-!
# Looking up resources

A look-up sends a reference and is answered by a status with, if all went well,
the metadata of the resource.  Both travel as JSON.  Reading a reply is lenient
where nothing is lost: unknown members, kinds and codes are tolerated, and rights
that are not named are not granted.
-/

namespace EditorLaunch

/-- What a look-up sends. -/
structure StatRequest where
  reference : Reference
deriving DecidableEq, Repr

/-- How a look-up went.  Codes that are not known count as unknown. -/
inductive StatCode where
  | ok
  | notFound
  | permissionDenied
  | unauthenticated
  | internal
  | unknown
deriving DecidableEq, Repr

namespace StatCode

def label : StatCode → String
  | ok => "Ok"
  | notFound => "NotFound"
  | permissionDenied => "PermissionDenied"
  | unauthenticated => "Unauthenticated"
  | internal => "Internal"
  | unknown => "Unknown"

def wireName : StatCode → String
  | ok => "CODE_OK"
  | notFound => "CODE_NOT_FOUND"
  | permissionDenied => "CODE_PERMISSION_DENIED"
  | unauthenticated => "CODE_UNAUTHENTICATED"
  | internal => "CODE_INTERNAL"
  | unknown => "CODE_UNKNOWN"

def ofWireName (name : String) : StatCode :=
  if name = "CODE_OK" then ok
  else if name = "CODE_NOT_FOUND" then notFound
  else if name = "CODE_PERMISSION_DENIED" then permissionDenied
  else if name = "CODE_UNAUTHENTICATED" then unauthenticated
  else if name = "CODE_INTERNAL" then internal
  else unknown

end StatCode

/-- What a look-up answers. -/
structure StatReply where
  code : StatCode
  detail : String
  info? : Option Metadata
deriving DecidableEq, Repr

namespace StatReply

/-- What a reply means for who asked. -/
def interpret (reference : Reference) (reply : StatReply) : Except Failure Metadata :=
  match reply.code with
  | .ok =>
      match reply.info? with
      | some metadata => .ok metadata
      | none => .error (.backend s!"stat of {reference.text} returned no resource info")
  | .notFound => .error (.notFound s!"{reference.text} does not exist")
  | code =>
      .error (.backend s!"stat of {reference.text} failed with {code.label}: {reply.detail}")

/-- The reply to a look-up of something that does not exist. -/
def absent : StatReply :=
  ⟨.notFound, "", none⟩

end StatReply

namespace Wire

/-- A field that must be there. -/
def required (decode : Json → Option α) : Option Json → Option α
  | some value => decode value
  | none => none

/-- A field that may be missing. -/
def defaulted (fallback : α) (decode : Json → Option α) : Option Json → Option α
  | some value => decode value
  | none => some fallback

/-- A value that may be null. -/
def nullable (decode : Json → Option α) : Json → Option (Option α)
  | .null => some none
  | value => (decode value).map some

def word? (value : Json) : Option UInt64 := do
  let number ← value.asNatural?
  if number < 0x10000000000000000 then some (.ofNat number) else none

def ofResourceId (id : ResourceId) : Json :=
  .record [("storage_id", .text id.storageId), ("opaque_id", .text id.opaqueId)]

def toResourceId? (value : Json) : Option ResourceId := do
  match ← value.fields? ["storage_id", "opaque_id"] with
  | [storage, opaqueId] =>
      return ⟨← required Json.asText? storage, ← required Json.asText? opaqueId⟩
  | _ => none

def ofReference : Reference → Json
  | .resource id => .record [("resource_id", ofResourceId id)]
  | .path location => .record [("path", .text location)]

def toReference? : Json → Option Reference
  | .object [(some name, value)] =>
      if name = "resource_id" then (toResourceId? value).map .resource
      else if name = "path" then value.asText?.map .path
      else none
  | _ => none

def ofStatRequest (request : StatRequest) : Json :=
  .record [("ref", ofReference request.reference)]

def toStatRequest? (value : Json) : Option StatRequest := do
  match ← value.fields? ["ref"] with
  | [reference] => return ⟨← required toReference? reference⟩
  | _ => none

def ofPermissions (permissions : PermissionSet) : Json :=
  .record [("initiate_file_upload", .boolean permissions.upload),
    ("initiate_file_download", .boolean permissions.download)]

/-- Reads rights.  What is not named is not granted. -/
def toPermissions? (value : Json) : Option PermissionSet := do
  match ← value.fields? ["initiate_file_upload", "initiate_file_download"] with
  | [upload, download] =>
      return ⟨← defaulted false Json.asBoolean? upload,
        ← defaulted false Json.asBoolean? download⟩
  | _ => none

def ofMetadata (metadata : Metadata) : Json :=
  .record [("id", ofResourceId metadata.id), ("path", .text metadata.path),
    ("size", .natural metadata.size.toNat), ("type", .text metadata.kind.wireName),
    ("permission_set", ofPermissions metadata.permissions)]

def toMetadata? (value : Json) : Option Metadata := do
  match ← value.fields? ["id", "path", "size", "type", "permission_set"] with
  | [id, path, size, kind, permissions] =>
      return {
        id := ← required toResourceId? id
        path := ← required Json.asText? path
        size := ← defaulted 0 word? size
        kind := .ofWireName (← required Json.alternative? kind)
        permissions := ← defaulted ⟨false, false⟩ toPermissions? permissions }
  | _ => none

def ofStatus (code : StatCode) (detail : String) : Json :=
  .record [("code", .text code.wireName), ("message", .text detail)]

def toStatus? (value : Json) : Option (StatCode × String) := do
  match ← value.fields? ["code", "message"] with
  | [code, detail] =>
      return (.ofWireName (← required Json.alternative? code),
        ← defaulted "" Json.asText? detail)
  | _ => none

def ofStatReply (reply : StatReply) : Json :=
  .record [("status", ofStatus reply.code reply.detail),
    ("info", (reply.info?.map ofMetadata).getD .null)]

def toStatReply? (value : Json) : Option StatReply := do
  match ← value.fields? ["status", "info"] with
  | [status, info] =>
      let (code, detail) ← required toStatus? status
      return ⟨code, detail, ← defaulted none (nullable toMetadata?) info⟩
  | _ => none

end Wire

end EditorLaunch
