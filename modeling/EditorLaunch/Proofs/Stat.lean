import EditorLaunch.Proofs.Json.Record
import EditorLaunch.Stat

/-!
# What replies to look-ups say

Metadata is put together from a reply with fallbacks for what is missing, and
codes and kinds that are not known are tolerated.  Whatever decides about access
can nevertheless be traced back to the reply: it holds of the metadata exactly if
the reply says so itself, at the end of a path of fields.
-/

namespace EditorLaunch

/-- No other name is tolerated as the one of success. -/
theorem StatCode.ofWireName_eq_ok_iff {name : String} :
    StatCode.ofWireName name = .ok ↔ name = "CODE_OK" := by
  constructor
  · intro isOk
    by_contra other
    rw [ofWireName, if_neg other] at isOk
    split_ifs at isOk
  · rintro rfl
    rfl

/-- No other name is tolerated as the one of files. -/
theorem ResourceKind.ofWireName_eq_file_iff {name : String} :
    ResourceKind.ofWireName name = .file ↔ name = "RESOURCE_TYPE_FILE" := by
  constructor
  · intro isFile
    by_contra other
    rw [ofWireName, if_neg other] at isFile
    split_ifs at isFile
  · rintro rfl
    rfl

namespace StatReply

variable {reference : Reference} {reply : StatReply}

theorem interpret_eq_ok_iff {metadata : Metadata} :
    reply.interpret reference = .ok metadata ↔
      reply.code = .ok ∧ reply.info? = some metadata := by
  obtain ⟨code, detail, info?⟩ := reply
  cases code <;> cases info? <;> simp [interpret]

theorem interpret_eq_notFound_iff :
    (∃ detail, reply.interpret reference = .error (.notFound detail)) ↔
      reply.code = .notFound := by
  obtain ⟨code, detail, info?⟩ := reply
  cases code <;> cases info? <;> simp [interpret]

theorem interpret_eq_error {failure : Failure}
    (failed : reply.interpret reference = .error failure) :
    (∃ detail, failure = .notFound detail) ∨ ∃ detail, failure = .backend detail := by
  obtain ⟨code, detail, info?⟩ := reply
  cases code <;> cases info? <;> simp [interpret] at failed <;> simp [← failed]

end StatReply

namespace Wire

open Json (Field Carries Says)

variable {α : Type}

/-- What a reader makes of a value has a property exactly if the value says
something that has another one. -/
def Reflects (decode : Json → Option α) (holds : α → Prop) (path : List Field)
    (said : Json → Prop) : Prop :=
  ∀ value result, decode value = some result → (holds result ↔ value.Says path said)

/-- The fields of a reply. -/
def replyField (name : String) : Field := ⟨["status", "info"], name⟩

/-- The fields of a status. -/
def statusField (name : String) : Field := ⟨["code", "message"], name⟩

/-- The fields of metadata. -/
def metadataField (name : String) : Field :=
  ⟨["id", "path", "size", "type", "permission_set"], name⟩

/-- The fields of rights. -/
def permissionField (name : String) : Field :=
  ⟨["initiate_file_upload", "initiate_file_download"], name⟩

/-- A slot holds what a value carries under a field. -/
def SlotOf (value : Json) (field : Field) (slot : Option Json) : Prop :=
  ∀ item, slot = some item ↔ Carries field.names field.name item value

theorem required_holds_iff {decode : Json → Option α} {holds : α → Prop}
    {path : List Field} {said : Json → Prop} {value : Json} {field : Field}
    {slot : Option Json} {result : α} (reflects : Reflects decode holds path said)
    (slotOf : SlotOf value field slot) (read : required decode slot = some result) :
    holds result ↔ value.Says (field :: path) said := by
  simp only [Says, ← slotOf _]
  cases slot with
  | none => simp [required] at read
  | some item => simpa using reflects item result read

/-- A fallback without the property leaves it to the field to have it. -/
theorem defaulted_holds_iff {decode : Json → Option α} {holds : α → Prop}
    {path : List Field} {said : Json → Prop} {value : Json} {field : Field}
    {slot : Option Json} {fallback result : α}
    (reflects : Reflects decode holds path said) (fallbackFails : ¬ holds fallback)
    (slotOf : SlotOf value field slot)
    (read : defaulted fallback decode slot = some result) :
    holds result ↔ value.Says (field :: path) said := by
  simp only [Says, ← slotOf _]
  cases slot with
  | none =>
      rw [defaulted, Option.some.injEq] at read
      simp [← read, fallbackFails]
  | some item => simpa using reflects item result read

/-- What says something inside a record is not null. -/
theorem nullable_reflects {decode : Json → Option α} {holds : α → Prop} {field : Field}
    {path : List Field} {said : Json → Prop}
    (reflects : Reflects decode holds (field :: path) said) :
    Reflects (nullable decode) (fun result? => ∃ result ∈ result?, holds result)
      (field :: path) said := by
  intro value result? read
  by_cases isNull : value = .null
  · subst isNull
    rw [nullable, Option.some.injEq] at read
    subst read
    constructor
    · rintro ⟨result, absent, -⟩
      simp at absent
    · rintro ⟨item, carries, -⟩
      cases carries
  · have decoded : (decode value).map some = some result? := by
      rw [← read]
      cases value <;> first | rfl | exact absurd rfl isNull
    obtain ⟨result, resultEq, rfl⟩ := Option.map_eq_some_iff.mp decoded
    simpa using reflects value result resultEq

theorem asBoolean?_reflects :
    Reflects Json.asBoolean? (· = true) [] (· = .boolean true) := by
  intro value result read
  cases value with
  | boolean flag =>
      rw [Json.asBoolean?, Option.some.injEq] at read
      simp [Says, read]
  | _ => simp [Json.asBoolean?] at read

/-- A value is a positive number. -/
def IsPositive (value : Json) : Prop :=
  ∃ number, 0 < number ∧ value = .natural number

theorem word?_reflects : Reflects word? (· ≠ 0) [] IsPositive := by
  intro value result read
  simp only [word?, Option.bind_eq_bind, Option.bind_eq_some_iff] at read
  obtain ⟨number, natural, fits⟩ := read
  have valueEq : value = .natural number := by
    cases value with
    | integer whole =>
        simp only [Json.asNatural?, Option.ite_none_right_eq_some, Option.some.injEq]
          at natural
        rw [Json.natural, ← natural.2, Int.ofNat_eq_natCast, Int.toNat_of_nonneg natural.1]
    | _ => simp [Json.asNatural?] at natural
  have resultEq : result.toNat = number := by
    split at fits
    · rename_i small
      rw [← Option.some.inj fits, UInt64.toNat_ofNat']
      omega
    · simp at fits
  have positive : result ≠ 0 ↔ 0 < number := by
    rw [← resultEq, Nat.pos_iff_ne_zero, ne_eq, ne_eq, ← UInt64.toNat_inj]
    rfl
  change result ≠ 0 ↔ IsPositive value
  rw [positive, valueEq]
  constructor
  · intro isPositive
    exact ⟨number, isPositive, rfl⟩
  · rintro ⟨other, isPositive, same⟩
    have : (number : Int) = other := by simpa [Json.natural] using same
    omega

theorem toPermissions?_eq_some {value : Json} {permissions : PermissionSet}
    (read : toPermissions? value = some permissions) :
    ∃ upload download,
      SlotOf value (permissionField "initiate_file_upload") upload ∧
      SlotOf value (permissionField "initiate_file_download") download ∧
      defaulted false Json.asBoolean? upload = some permissions.upload ∧
      defaulted false Json.asBoolean? download = some permissions.download := by
  simp only [toPermissions?, Option.bind_eq_bind, Option.bind_eq_some_iff] at read
  obtain ⟨slots, fields, read⟩ := read
  have carried := Json.forall₂_of_fields?_eq_some (by decide) fields
  split at read
  · rename_i upload download
    simp only [List.forall₂_cons, List.forall₂_nil_left_iff, and_true] at carried
    simp only [Option.bind_eq_some_iff, Option.pure_def, Option.some.injEq] at read
    obtain ⟨mayUpload, uploadRead, mayDownload, downloadRead, rfl⟩ := read
    exact ⟨upload, download, carried.1, carried.2, uploadRead, downloadRead⟩
  · simp at read

theorem upload_reflects :
    Reflects toPermissions? (·.upload = true) [permissionField "initiate_file_upload"]
      (· = .boolean true) := by
  intro value permissions read
  obtain ⟨upload, -, slotOf, -, uploadRead, -⟩ := toPermissions?_eq_some read
  have granted := defaulted_holds_iff asBoolean?_reflects (by simp) slotOf uploadRead
  exact granted

theorem download_reflects :
    Reflects toPermissions? (·.download = true) [permissionField "initiate_file_download"]
      (· = .boolean true) := by
  intro value permissions read
  obtain ⟨-, download, -, slotOf, -, downloadRead⟩ := toPermissions?_eq_some read
  have granted := defaulted_holds_iff asBoolean?_reflects (by simp) slotOf downloadRead
  exact granted

theorem toMetadata?_eq_some {value : Json} {metadata : Metadata}
    (read : toMetadata? value = some metadata) :
    ∃ size kind permissions name,
      SlotOf value (metadataField "size") size ∧
      SlotOf value (metadataField "type") kind ∧
      SlotOf value (metadataField "permission_set") permissions ∧
      defaulted 0 word? size = some metadata.size ∧
      required Json.alternative? kind = some name ∧
      metadata.kind = .ofWireName name ∧
      defaulted ⟨false, false⟩ toPermissions? permissions = some metadata.permissions := by
  simp only [toMetadata?, Option.bind_eq_bind, Option.bind_eq_some_iff] at read
  obtain ⟨slots, fields, read⟩ := read
  have carried := Json.forall₂_of_fields?_eq_some (by decide) fields
  split at read
  · rename_i id path size kind permissions
    simp only [List.forall₂_cons, List.forall₂_nil_left_iff, and_true] at carried
    obtain ⟨-, -, sizeSlot, kindSlot, permissionsSlot⟩ := carried
    simp only [Option.bind_eq_some_iff, Option.pure_def, Option.some.injEq] at read
    obtain ⟨-, -, -, -, wireSize, sizeRead, name, nameRead, granted, grantedRead, rfl⟩ :=
      read
    exact ⟨size, kind, permissions, name, sizeSlot, kindSlot, permissionsSlot, sizeRead,
      nameRead, rfl, grantedRead⟩
  · simp at read

/-- Names are what their texts are. -/
theorem alternative?_reflects (name : String) :
    Reflects Json.alternative? (· = name) [] (·.alternative? = some name) := by
  intro value result read
  change result = name ↔ value.alternative? = some name
  rw [read, Option.some.injEq]

theorem kind_reflects :
    Reflects toMetadata? (·.kind = .file) [metadataField "type"]
      (·.alternative? = some "RESOURCE_TYPE_FILE") := by
  intro value metadata read
  obtain ⟨-, kind, -, name, -, slotOf, -, -, nameRead, kindEq, -⟩ :=
    toMetadata?_eq_some read
  have isFile :=
    required_holds_iff (alternative?_reflects "RESOURCE_TYPE_FILE") slotOf nameRead
  change metadata.kind = .file ↔ _
  rw [kindEq]
  exact ResourceKind.ofWireName_eq_file_iff.trans isFile

theorem size_reflects :
    Reflects toMetadata? (·.size ≠ 0) [metadataField "size"] IsPositive := by
  intro value metadata read
  obtain ⟨size, -, -, -, slotOf, -, -, sizeRead, -⟩ := toMetadata?_eq_some read
  have positive := defaulted_holds_iff word?_reflects (by simp) slotOf sizeRead
  exact positive

/-- Rights that are not named at all are not granted. -/
theorem permission_reflects {right : PermissionSet → Prop} {path : List Field}
    {said : Json → Prop} (reflects : Reflects toPermissions? right path said)
    (notByItself : ¬ right ⟨false, false⟩) :
    Reflects toMetadata? (right ·.permissions) (metadataField "permission_set" :: path)
      said := by
  intro value metadata read
  obtain ⟨-, -, permissions, -, -, -, slotOf, -, -, -, permissionsRead⟩ :=
    toMetadata?_eq_some read
  exact defaulted_holds_iff reflects notByItself slotOf permissionsRead

theorem status_reflects :
    Reflects toStatus? (·.1 = .ok) [statusField "code"]
      (·.alternative? = some "CODE_OK") := by
  intro value status read
  simp only [toStatus?, Option.bind_eq_bind, Option.bind_eq_some_iff] at read
  obtain ⟨slots, fields, read⟩ := read
  have carried := Json.forall₂_of_fields?_eq_some (by decide) fields
  split at read
  · rename_i code detail
    simp only [List.forall₂_cons, List.forall₂_nil_left_iff, and_true] at carried
    simp only [Option.bind_eq_some_iff, Option.pure_def, Option.some.injEq] at read
    obtain ⟨name, nameRead, message, -, rfl⟩ := read
    have codeSlot : SlotOf value (statusField "code") code := carried.1
    have isOk := required_holds_iff (alternative?_reflects "CODE_OK") codeSlot nameRead
    exact StatCode.ofWireName_eq_ok_iff.trans isOk
  · simp at read

theorem toStatReply?_eq_some {value : Json} {reply : StatReply}
    (read : toStatReply? value = some reply) :
    ∃ status info,
      SlotOf value (replyField "status") status ∧
      SlotOf value (replyField "info") info ∧
      required toStatus? status = some (reply.code, reply.detail) ∧
      defaulted none (nullable toMetadata?) info = some reply.info? := by
  simp only [toStatReply?, Option.bind_eq_bind, Option.bind_eq_some_iff] at read
  obtain ⟨slots, fields, read⟩ := read
  have carried := Json.forall₂_of_fields?_eq_some (by decide) fields
  split at read
  · rename_i status info
    simp only [List.forall₂_cons, List.forall₂_nil_left_iff, and_true] at carried
    simp only [Option.bind_eq_some_iff, Option.pure_def, Option.some.injEq] at read
    obtain ⟨⟨code, detail⟩, statusRead, info?, infoRead, rfl⟩ := read
    exact ⟨status, info, carried.1, carried.2, statusRead, infoRead⟩
  · simp at read

theorem code_reflects :
    Reflects toStatReply? (·.code = .ok) [replyField "status", statusField "code"]
      (·.alternative? = some "CODE_OK") := by
  intro value reply read
  obtain ⟨status, -, slotOf, -, statusRead, -⟩ := toStatReply?_eq_some read
  have succeeded := required_holds_iff status_reflects slotOf statusRead
  exact succeeded

/-- What metadata reflects, the reply around it reflects. -/
theorem info_reflects {holds : Metadata → Prop} {field : Field} {path : List Field}
    {said : Json → Prop} (reflects : Reflects toMetadata? holds (field :: path) said) :
    Reflects toStatReply? (fun reply => ∃ metadata ∈ reply.info?, holds metadata)
      (replyField "info" :: field :: path) said := by
  intro value reply read
  obtain ⟨-, info, -, slotOf, -, infoRead⟩ := toStatReply?_eq_some read
  have held := defaulted_holds_iff (nullable_reflects reflects) (by simp) slotOf infoRead
  exact held

end Wire

end EditorLaunch
