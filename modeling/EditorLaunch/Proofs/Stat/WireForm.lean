import EditorLaunch.Proofs.Json.ReadBack
import EditorLaunch.Proofs.Outbound.Gateway
import EditorLaunch.Proofs.Stat

/-!
# Look-ups there and back

Requests and replies are written as records of JSON and read back as what they were,
record by record: every field stands under its own name, names of codes and kinds are
told apart, and strings may hold whatever they like.  The names that stand for all unknown
codes and kinds stand for themselves as well, so that nothing more is lost when a reply
that has been read leniently is written and read again.
-/

namespace EditorLaunch

theorem StatCode.ofWireName_wireName (code : StatCode) : ofWireName code.wireName = code := by
  cases code <;> rfl

theorem ResourceKind.ofWireName_wireName (kind : ResourceKind) :
    ofWireName kind.wireName = kind := by
  cases kind <;> rfl

namespace Wire

theorem toResourceId?_ofResourceId (id : ResourceId) : toResourceId? (ofResourceId id) = some id :=
  rfl

theorem toReference?_ofReference (reference : Reference) :
    toReference? (ofReference reference) = some reference := by
  cases reference with
  | resource id => rfl
  | path location => rfl

theorem toStatRequest?_ofStatRequest (request : StatRequest) :
    toStatRequest? (ofStatRequest request) = some request := by
  have fields : (ofStatRequest request).fields? ["ref"] =
      some [some (ofReference request.reference)] := rfl
  rw [toStatRequest?, fields]
  simp only [Option.bind_eq_bind, Option.bind_some, required, toReference?_ofReference]
  rfl

theorem word?_natural (size : UInt64) : word? (.natural size.toNat) = some size := by
  have fits : size.toNat < 0x10000000000000000 := size.toNat_lt
  simp [word?, Json.natural, Json.asNatural?, fits]

theorem toPermissions?_ofPermissions (permissions : PermissionSet) :
    toPermissions? (ofPermissions permissions) = some permissions :=
  rfl

theorem toMetadata?_ofMetadata (metadata : Metadata) :
    toMetadata? (ofMetadata metadata) = some metadata := by
  have fields : (ofMetadata metadata).fields? ["id", "path", "size", "type", "permission_set"] =
      some [some (ofResourceId metadata.id), some (.text metadata.path),
        some (.natural metadata.size.toNat), some (.text metadata.kind.wireName),
        some (ofPermissions metadata.permissions)] := rfl
  rw [toMetadata?, fields]
  simp only [Option.bind_eq_bind, Option.bind_some, required, defaulted, Json.text, Json.asText?,
    Json.alternative?, toResourceId?_ofResourceId, word?_natural, toPermissions?_ofPermissions,
    ResourceKind.ofWireName_wireName]
  rfl

theorem toStatus?_ofStatus (code : StatCode) (detail : String) :
    toStatus? (ofStatus code detail) = some (code, detail) := by
  have fields : (ofStatus code detail).fields? ["code", "message"] =
      some [some (.text code.wireName), some (.text detail)] := rfl
  rw [toStatus?, fields]
  simp only [Option.bind_eq_bind, Option.bind_some, required, defaulted, Json.text, Json.asText?,
    Json.alternative?, StatCode.ofWireName_wireName]
  rfl

/-- Metadata that is there is not taken for missing. -/
theorem nullable_ofMetadata (info? : Option Metadata) :
    nullable toMetadata? ((info?.map ofMetadata).getD .null) = some info? := by
  cases info? with
  | none => rfl
  | some metadata =>
      change (toMetadata? (ofMetadata metadata)).map some = some (some metadata)
      rw [toMetadata?_ofMetadata]
      rfl

theorem toStatReply?_ofStatReply (reply : StatReply) :
    toStatReply? (ofStatReply reply) = some reply := by
  have fields : (ofStatReply reply).fields? ["status", "info"] =
      some [some (ofStatus reply.code reply.detail),
        some ((reply.info?.map ofMetadata).getD .null)] := rfl
  rw [toStatReply?, fields]
  simp only [Option.bind_eq_bind, Option.bind_some, required, defaulted, toStatus?_ofStatus,
    nullable_ofMetadata]
  rfl

theorem writable_ofStatRequest (request : StatRequest) : (ofStatRequest request).Writable := by
  obtain ⟨reference⟩ := request
  cases reference <;>
    simp [ofStatRequest, ofReference, ofResourceId, Json.record, Json.text, Json.Writable,
      Json.WritableMembers]

theorem isWhole_toNat (size : UInt64) : Json.isWhole (Int.ofNat size.toNat) = true := by
  have fits := size.toNat_lt
  simp only [Json.isWhole, Int.ofNat_eq_natCast, Bool.and_eq_true, decide_eq_true_iff]
  omega

theorem writable_ofMetadata (metadata : Metadata) : (ofMetadata metadata).Writable := by
  simp only [ofMetadata, ofResourceId, ofPermissions, Json.record, Json.text, Json.natural,
    List.map_cons, List.map_nil, Json.Writable, Json.WritableMembers, isWhole_toNat,
    Option.isSome_some, and_self]

theorem writable_ofStatReply (reply : StatReply) : (ofStatReply reply).Writable := by
  have info : ((reply.info?.map ofMetadata).getD .null).Writable := by
    cases reply.info? with
    | none => trivial
    | some metadata => exact writable_ofMetadata metadata
  simp [ofStatReply, ofStatus, Json.record, Json.text, Json.Writable, Json.WritableMembers, info]

/-- Reads the text of a request. -/
def requestOfText? (text : String) : Option StatRequest :=
  (Json.read? text).bind toStatRequest?

/-- Reads the text of a reply. -/
def replyOfText? (text : String) : Option StatReply :=
  (Json.read? text).bind toStatReply?

theorem requestOfText?_print (request : StatRequest) :
    requestOfText? (ofStatRequest request).print = some request := by
  rw [requestOfText?, Json.read?_print (writable_ofStatRequest request)]
  exact toStatRequest?_ofStatRequest request

theorem replyOfText?_print (reply : StatReply) :
    replyOfText? (ofStatReply reply).print = some reply := by
  rw [replyOfText?, Json.read?_print (writable_ofStatReply reply)]
  exact toStatReply?_ofStatReply reply

/-- The octets of a reply are read like its text. -/
theorem decodeBody?_ofText (text : String) :
    Outbound.GatewayClient.decodeBody? (Utf8.ofText text) = replyOfText? text := by
  rw [Outbound.GatewayClient.decodeBody?, Json.readOctets?_ofText]
  rfl

/-- The body of a look-up names its reference and nothing else, whatever paths and ids hold,
and every reply that is written is read as it was, as a text and as octets.  So writing and
reading what has been read of any octets changes nothing any more. -/
theorem lookups_read_back :
    (∀ (client : Outbound.GatewayClient) reference token,
      requestOfText? (client.statDraft reference token).body = some ⟨reference⟩) ∧
    (∀ (client : Outbound.GatewayClient) id token,
      Json.read? (client.statDraft (.resource id) token).body =
        some (.record [("ref", .record [("resource_id",
          .record [("storage_id", .text id.storageId), ("opaque_id", .text id.opaqueId)])])])) ∧
    (∀ (client : Outbound.GatewayClient) location token,
      Json.read? (client.statDraft (.path location) token).body =
        some (.record [("ref", .record [("path", .text location)])])) ∧
    (∀ reply, replyOfText? (ofStatReply reply).print = some reply ∧
      Outbound.GatewayClient.decodeBody? (Utf8.ofText (ofStatReply reply).print) = some reply) ∧
    (∀ code, StatCode.ofWireName code.wireName = code) ∧
    (∀ kind, ResourceKind.ofWireName kind.wireName = kind) ∧
    (∀ text reply, replyOfText? text = some reply →
      replyOfText? (ofStatReply reply).print = replyOfText? text) ∧
    ∀ octets reply, Outbound.GatewayClient.decodeBody? octets = some reply →
      Outbound.GatewayClient.decodeBody? (Utf8.ofText (ofStatReply reply).print) =
        Outbound.GatewayClient.decodeBody? octets := by
  refine ⟨fun _ reference _ => requestOfText?_print ⟨reference⟩,
    fun _ id _ => Json.read?_print (writable_ofStatRequest ⟨.resource id⟩),
    fun _ location _ => Json.read?_print (writable_ofStatRequest ⟨.path location⟩),
    fun reply => ⟨replyOfText?_print reply, ?_⟩, StatCode.ofWireName_wireName,
    ResourceKind.ofWireName_wireName, fun text reply read => ?_, fun octets reply read => ?_⟩
  · rw [decodeBody?_ofText, replyOfText?_print]
  · rw [replyOfText?_print, read]
  · rw [decodeBody?_ofText, replyOfText?_print, read]

end Wire

end EditorLaunch
