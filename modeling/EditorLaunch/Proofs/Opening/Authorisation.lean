import EditorLaunch.Outbound.Network
import EditorLaunch.Proofs.Opening.Stages
import EditorLaunch.Proofs.Outbound.Gateway
import EditorLaunch.Proofs.Stat

/-!
# What a session rests on

A session is asked for only if the gateway says in so many words that the look-up
succeeded, that the resource is a file and that it may be downloaded.  Nothing
that a reply leaves out or says in an unknown way widens access, and the reply
also determines what the session may do and which editor it is opened with.
-/

namespace EditorLaunch

/-- A decision to open a file, in terms of the rights and of the file's size. -/
theorem PermissionSet.decide_eq_allowed_iff {permissions : PermissionSet} {isEmpty : Bool}
    {mode : ViewMode} {kind : EditorKind} :
    permissions.decide isEmpty = .allowed mode kind ↔
      permissions.download = true ∧
      (mode = .readWrite ↔ permissions.upload = true) ∧
      (mode = .readOnly → isEmpty = false) ∧
      (kind = .new ↔ mode = .readWrite ∧ isEmpty = true) ∧
      (kind = .edit ↔ mode = .readWrite ∧ isEmpty = false) ∧
      (kind = .view ↔ mode = .readOnly) := by
  obtain ⟨upload, download⟩ := permissions
  cases download with
  | false => simp [decide]
  | true =>
      cases upload <;> cases isEmpty <;> cases mode <;> cases kind <;> simp [decide]

namespace Wire

/-- What a reply has to say for a session with this mode and this kind of editor:
success, a file that may be downloaded, and for the rest that it may be changed
exactly if the mode is for changing it.  Sizes that are not said count as zero. -/
structure Grants (reply : Json) (mode : ViewMode) (kind : EditorKind) : Prop where
  succeeded : reply.Says [replyField "status", statusField "code"]
    (·.alternative? = some "CODE_OK")
  isFile : reply.Says [replyField "info", metadataField "type"]
    (·.alternative? = some "RESOURCE_TYPE_FILE")
  download : reply.Says
    [replyField "info", metadataField "permission_set",
      permissionField "initiate_file_download"] (· = .boolean true)
  upload : mode = .readWrite ↔ reply.Says
    [replyField "info", metadataField "permission_set",
      permissionField "initiate_file_upload"] (· = .boolean true)
  nonempty : mode = .readOnly →
    reply.Says [replyField "info", metadataField "size"] IsPositive
  new : kind = .new ↔ mode = .readWrite ∧
    ¬ reply.Says [replyField "info", metadataField "size"] IsPositive
  edit : kind = .edit ↔ mode = .readWrite ∧
    reply.Says [replyField "info", metadataField "size"] IsPositive
  view : kind = .view ↔ mode = .readOnly

/-- Metadata of a reply has a property exactly if the reply says so. -/
theorem holds_iff_of_info {holds : Metadata → Prop} {field : Json.Field}
    {path : List Json.Field} {said : Json → Prop} {value : Json} {reply : StatReply}
    {metadata : Metadata} (reflects : Reflects toMetadata? holds (field :: path) said)
    (read : toStatReply? value = some reply) (info : reply.info? = some metadata) :
    holds metadata ↔ value.Says (replyField "info" :: field :: path) said := by
  have held := info_reflects reflects value reply read
  simpa [info] using held

/-- A file that may be opened was granted by the reply. -/
theorem grants_of_allowed {value : Json} {reply : StatReply} {metadata : Metadata}
    {mode : ViewMode} {kind : EditorKind} (read : toStatReply? value = some reply)
    (ok : reply.code = .ok) (info : reply.info? = some metadata)
    (file : metadata.kind = .file) (allowed : metadata.decide = .allowed mode kind) :
    Grants value mode kind := by
  obtain ⟨download, upload, nonempty, new, edit, view⟩ :=
    PermissionSet.decide_eq_allowed_iff.mp allowed
  have mayDownload :=
    holds_iff_of_info (permission_reflects download_reflects (by simp)) read info
  have mayUpload :=
    holds_iff_of_info (permission_reflects upload_reflects (by simp)) read info
  have isFile := holds_iff_of_info kind_reflects read info
  have sized := holds_iff_of_info size_reflects read info
  have hasContents : metadata.isEmpty = false ↔ metadata.size ≠ 0 := by
    simp [Metadata.isEmpty]
  have hasNone : metadata.isEmpty = true ↔ ¬ metadata.size ≠ 0 := by
    simp [Metadata.isEmpty]
  rw [hasContents] at nonempty edit
  rw [hasNone] at new
  exact {
    succeeded := (code_reflects value reply read).mp ok
    isFile := isFile.mp file
    download := mayDownload.mp download
    upload := upload.trans mayUpload
    nonempty := fun readOnly => sized.mp (nonempty readOnly)
    new := by rw [new, sized]
    edit := by rw [edit, sized]
    view := view }

end Wire

namespace Opener

variable {opener : Opener} {clock : Clock} {target : FileTarget} {caller : Caller}

/-- Behind the answer of the bridge only the link can fail. -/
theorem Offers.result_eq {reference : Reference} {token : String} {metadata : Metadata}
    {mode : ViewMode} {kind : EditorKind} {catalogue : Catalogue} {address : String}
    {handle : SessionHandle}
    (offers : opener.Offers clock target caller reference token metadata mode kind
      catalogue address)
    (session : (opener.backend.openSession
      (sessionRequest metadata mode caller) token).run.result = .ok handle) :
    (opener.openFile clock target caller).run.result =
      (EditorLink.assemble address handle opener.lifetime
        clock.second.milliseconds).map .opened := by
  cases linked : EditorLink.assemble address handle opener.lifetime
      clock.second.milliseconds with
  | error failure =>
      exact congrArg Prod.snd (Run.withoutLink offers session linked).observed_eq
  | ok link => exact congrArg Prod.snd (Run.opened offers session linked).observed_eq

/-- Whatever the gateway answers, and whatever the catalogue and the bridge do, a
session is asked for only if the first answer of the gateway that is handed over grants
it in so many words.  The answer has to arrive whole and to be readable, it fixes the
mode of the session, and the link that may come of it goes to the editor of the kind that
the answer calls for. -/
theorem openSession_only_if_granted (client : Outbound.GatewayClient)
    (fetchCatalogue : Action Outgoing Catalogue)
    (bridge : SessionRequest → String → Action Outgoing SessionHandle)
    (tokens : TokenSource) (lifetime : Duration) (clock : Clock) (target : FileTarget)
    (caller : Caller) (request : SessionRequest) (token : String)
    (asked : .openSession request token ∈
      (openFile ⟨⟨client.stat, fetchCatalogue, bridge⟩, tokens, lifetime⟩ clock target
        caller).run.asked) :
    ∃ reference lookUp attempt reply value detail metadata kind catalogue addresses,
      (client.statDraft reference token).build = .ok lookUp ∧
      client.line.AnswersFirst lookUp attempt reply ∧
      reply.isSuccess = true ∧ reply.bodyEnd = .whole ∧
      Json.readOctets? reply.body = some value ∧
      Wire.toStatReply? value = some ⟨.ok, detail, some metadata⟩ ∧
      Wire.Grants value request.mode kind ∧
      fetchCatalogue.run.result = .ok catalogue ∧
      catalogue.find? metadata.extension = some addresses ∧
      ∀ handle, (bridge request token).run.result = .ok handle →
        (openFile ⟨⟨client.stat, fetchCatalogue, bridge⟩, tokens, lifetime⟩ clock target
            caller).run.result =
          (EditorLink.assemble (addresses.address kind) handle lifetime
            clock.second.milliseconds).map .opened := by
  obtain ⟨reference, metadata, mode, kind, catalogue, address, offers, rfl⟩ :=
    (reaches_asked _ clock target caller).offers asked
  obtain ⟨addresses, listed, rfl, -⟩ := offers.offered
  obtain ⟨lookUp, attempt, reply, found, built, first, success, whole, decoded,
      interpreted⟩ :=
    Outbound.GatewayClient.stat_eq_ok offers.found
  simp only [Outbound.GatewayClient.decodeBody?, Option.bind_eq_bind,
    Option.bind_eq_some_iff] at decoded
  obtain ⟨value, parsed, read⟩ := decoded
  obtain ⟨ok, info⟩ := StatReply.interpret_eq_ok_iff.mp interpreted
  have readAs : Wire.toStatReply? value = some ⟨.ok, found.detail, some metadata⟩ := by
    rw [read, ← ok, ← info]
  have grants : Wire.Grants value mode kind :=
    Wire.grants_of_allowed read ok info offers.file offers.allowed
  refine ⟨reference, lookUp, attempt, reply, value, found.detail, metadata, kind, catalogue,
    addresses, built, first, success, whole, parsed, readAs, grants, offers.listed, listed,
    ?_⟩
  intro handle session
  exact offers.result_eq session

/-- A gateway that grants downloading a file of three octets, and nothing else.
Most of its records are arrays. -/
def viewingGateway : Outbound.GatewayClient :=
  { address := "http://[::1]"
    line := {
      retry := {}
      draw := fun _ => 0
      redirection := .absolute
      script := fun _ _ => ⟨.ofSeconds 1, .answered {
        status := 200
        body := Utf8.ofText
          ("\x7b\"status\":[\"CODE_OK\"],\"info\":[[\"s\",\"o\"],\"/a/n\",3," ++
            "\"RESOURCE_TYPE_FILE\",\x7b\"initiate_file_download\":true\x7d]\x7d")
        bodyEnd := .whole }⟩ } }

/-- A catalogue with one editor, which only views. -/
def viewingCatalogue : Catalogue :=
  ⟨[("", ⟨"office:view?a=b", "", ""⟩)]⟩

/-- A session for viewing rests on a reply that grants viewing. -/
theorem openSession_for_viewing :
    .openSession ⟨"o", .readOnly, "s", "/a", "Ada"⟩ "t" ∈
        (openFile ⟨⟨viewingGateway.stat, pure viewingCatalogue, fun _ _ => pure ⟨"h"⟩⟩,
          .forwarded, .ofSeconds 60⟩ .stopped (.path "/link")
          ⟨⟨"ada", "Ada"⟩, some "t"⟩).run.asked ∧
      ∃ value, Wire.Grants value .readOnly .view := by
  have asked : .openSession ⟨"o", .readOnly, "s", "/a", "Ada"⟩ "t" ∈
      (openFile ⟨⟨viewingGateway.stat, pure viewingCatalogue, fun _ _ => pure ⟨"h"⟩⟩,
        .forwarded, .ofSeconds 60⟩ .stopped (.path "/link")
        ⟨⟨"ada", "Ada"⟩, some "t"⟩).run.asked := by
    decide +kernel
  obtain ⟨-, -, -, -, value, -, -, kind, -, -, -, -, -, -, -, -, grants, -⟩ :=
    openSession_only_if_granted viewingGateway (pure viewingCatalogue)
      (fun _ _ => pure ⟨"h"⟩) .forwarded (.ofSeconds 60) .stopped (.path "/link")
      ⟨⟨"ada", "Ada"⟩, some "t"⟩ ⟨"o", .readOnly, "s", "/a", "Ada"⟩ "t" asked
  have viewed : kind = .view := grants.view.mpr rfl
  exact ⟨asked, value, viewed ▸ grants⟩

end Opener

end EditorLaunch
