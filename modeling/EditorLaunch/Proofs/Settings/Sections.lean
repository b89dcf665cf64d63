import EditorLaunch.Proofs.Settings.Layout

/-!
# All settings

The settings of the service, section by section, each with its heading, its key, how it is
read and where it is found.  Nothing else belongs to the settings.  No setting can be read
from a tidy table.
-/

namespace EditorLaunch

namespace Settings

open RawSetting (Tidy HasTable within?)

def webLayout : Layout WebSettings where
  parts := [⟨"host", String, text, ({ · with host := · }), (·.host)⟩,
    ⟨"port", UInt16, fun raw => (natural 0x10000 raw).map .ofNat, ({ · with port := · }),
      (·.port)⟩,
    ⟨"root", String, text, ({ · with root := · }), (·.root)⟩,
    ⟨"request_timeout", Duration, duration, ({ · with requestTimeout := · }),
      (·.requestTimeout)⟩]

def logLayout : Layout LogSettings where
  parts := [⟨"level", String, text, ({ · with level := · }), (·.level)⟩,
    ⟨"pretty", Bool, flag, ({ · with pretty := · }), (·.pretty)⟩,
    ⟨"color", Bool, flag, ({ · with color := · }), (·.color)⟩,
    ⟨"file", Option String, optionalText, ({ · with file? := · }), (·.file?)⟩]

def bridgeLayout : Layout BridgeSettings where
  parts := [⟨"host", String, text, ({ · with host := · }), (·.host)⟩,
    ⟨"insecure", Bool, flag, ({ · with insecure := · }), (·.insecure)⟩,
    ⟨"iop_secret", String, text, ({ · with secret := · }), (·.secret)⟩,
    ⟨"connect_timeout", Duration, duration, ({ · with connectTimeout := · }),
      (·.connectTimeout)⟩,
    ⟨"request_timeout", Duration, duration, ({ · with requestTimeout := · }),
      (·.requestTimeout)⟩]

def gatewayLayout : Layout GatewaySettings where
  parts := [⟨"address", String, text, ({ · with address := · }), (·.address)⟩,
    ⟨"insecure", Bool, flag, ({ · with insecure := · }), (·.insecure)⟩,
    ⟨"connect_timeout", Duration, duration, ({ · with connectTimeout := · }),
      (·.connectTimeout)⟩,
    ⟨"request_timeout", Duration, duration, ({ · with requestTimeout := · }),
      (·.requestTimeout)⟩]

def tokenLayout : Layout TokenSettings where
  parts := [⟨"jwt_secret", String, text, ({ · with secret := · }), (·.secret)⟩,
    ⟨"token_ttl", Duration, duration, ({ · with lifetime := · }), (·.lifetime)⟩]

def authLayout : Layout AuthSettings where
  parts := [⟨"mode", TokenMode, mode, ({ · with mode := · }), (·.mode)⟩,
    ⟨"token_header", String, text, ({ · with tokenHeader := · }), (·.tokenHeader)⟩,
    ⟨"user_id_header", String, text, ({ · with userIdHeader := · }), (·.userIdHeader)⟩,
    ⟨"display_name_header", String, text, ({ · with displayNameHeader := · }),
      (·.displayNameHeader)⟩]

def retryLayout : Layout RetrySettings where
  parts := [⟨"max_attempts", UInt32, fun raw => (natural 0x100000000 raw).map .ofNat,
      ({ · with maxAttempts := · }), (·.maxAttempts)⟩,
    ⟨"initial_delay", Duration, duration, ({ · with initialDelay := · }), (·.initialDelay)⟩,
    ⟨"max_delay", Duration, duration, ({ · with maxDelay := · }), (·.maxDelay)⟩,
    ⟨"backoff_multiplier", Float, float, ({ · with multiplier := · }), (·.multiplier)⟩,
    ⟨"jitter", Bool, flag, ({ · with jitter := · }), (·.jitter)⟩]

/-- A section of the settings. -/
structure Section where
  heading : String
  Content : Type
  layout : Layout Content
  defaults : Content
  put : Settings → Content → Settings
  get : Settings → Content

/-- A section is read as one part of the settings. -/
def Section.part (found : Section) : Part Settings :=
  ⟨found.heading, found.Content, fields found.layout.fields found.defaults, found.put, found.get⟩

def allSections : List Section :=
  [⟨"web", WebSettings, webLayout, {}, ({ · with web := · }), (·.web)⟩,
    ⟨"log", LogSettings, logLayout, {}, ({ · with log := · }), (·.log)⟩,
    ⟨"wopi", BridgeSettings, bridgeLayout, {}, ({ · with bridge := · }), (·.bridge)⟩,
    ⟨"gateway", GatewaySettings, gatewayLayout, {}, ({ · with gateway := · }), (·.gateway)⟩,
    ⟨"token_manager", TokenSettings, tokenLayout, {}, ({ · with token := · }), (·.token)⟩,
    ⟨"auth", AuthSettings, authLayout, {}, ({ · with auth := · }), (·.auth)⟩,
    ⟨"retry", RetrySettings, retryLayout, {}, ({ · with retry := · }), (·.retry)⟩]

def wholeLayout : Layout Settings where
  parts := allSections.map Section.part
  get_put := by simp [allSections, Section.part]
  apart := by simp [allSections, Section.part, Part.Apart]
  complete := by
    rintro ⟨⟩ ⟨⟩ same
    simpa [allSections, Section.part] using same

theorem field_map {σ α β : Type} (name : String) (decode : Decoder α) (convert : α → β)
    (put : σ → β → σ) :
    field name (fun raw => (decode raw).map convert) put =
      field name decode fun settings value => put settings (convert value) := by
  unfold field
  congr
  funext settings raw
  dsimp only
  cases decode raw <;> rfl

theorem webFields_eq : webFields = webLayout.fields := by
  simp only [webFields, Layout.fields, webLayout, List.map_cons, List.map_nil, Part.field,
    field_map]

theorem retryFields_eq : retryFields = retryLayout.fields := by
  simp only [retryFields, Layout.fields, retryLayout, List.map_cons, List.map_nil, Part.field,
    field_map]

theorem sections_eq : sections = wholeLayout.fields := by
  rw [sections, webFields_eq, retryFields_eq]
  rfl

theorem get_default {found : Section} (member : found ∈ allSections) :
    found.get {} = found.defaults := by
  revert found
  simp [allSections]

/-- A setting of the service: its heading and its key, how it is read, and where it is. -/
structure Setting where
  heading : String
  key : String
  Value : Type
  decode : Decoder Value
  get : Settings → Value

def Section.settings (found : Section) : List Setting :=
  found.layout.parts.map fun part =>
    ⟨found.heading, part.key, part.Value, part.decode,
      fun settings => part.get (found.get settings)⟩

/-- All settings of the service. -/
def Setting.all : List Setting :=
  allSections.flatMap Section.settings

/-- The setting has the value that was given for it, or its default. -/
def Setting.Takes (setting : Setting) (raw? : Option RawSetting) (settings : Settings) : Prop :=
  Taken setting.decode raw? (setting.get {}) (setting.get settings)

/-- The value that was given for the setting cannot be read. -/
def Setting.Refuses (setting : Setting) (raw? : Option RawSetting) : Prop :=
  Refused setting.decode raw?

/-- The error is of a value for the setting that cannot be read, and its path leads there. -/
def Setting.Reports (setting : Setting) (error : DecodeError) : Prop :=
  ∃ raw inner, setting.decode raw = .error inner ∧
    error = ⟨setting.heading :: setting.key :: inner.path, inner.fault⟩

instance (setting : Setting) (raw? : Option RawSetting) : Decidable (setting.Refuses raw?) :=
  inferInstanceAs (Decidable (Refused setting.decode raw?))

/-- Settings are told by what is found of each. -/
theorem eq_of_get_eq {left right : Settings}
    (same : ∀ setting ∈ Setting.all, setting.get left = setting.get right) : left = right := by
  refine wholeLayout.complete left right fun part member => ?_
  obtain ⟨found, foundMember, rfl⟩ := List.mem_map.mp member
  refine found.layout.complete _ _ fun inner innerMember => ?_
  exact same _ (List.mem_flatMap.mpr ⟨found, foundMember, List.mem_map_of_mem innerMember⟩)

theorem mem_all_iff {setting : Setting} :
    setting ∈ Setting.all ↔ ∃ found ∈ allSections, ∃ part ∈ found.layout.parts,
      (⟨found.heading, part.key, part.Value, part.decode,
        fun settings => part.get (found.get settings)⟩ : Setting) = setting := by
  simp only [Setting.all, Section.settings, List.mem_flatMap, List.mem_map]

variable {members : List (String × RawSetting)}

theorem Section.taken {found : Section} (member : found ∈ allSections)
    (tidy : Tidy (.table members)) (tables : HasTable members found.heading)
    {settings : Settings}
    (taken : Taken found.part.decode (members.lookup found.heading) (found.get {})
      (found.get settings)) {part : Part found.Content} (partMember : part ∈ found.layout.parts) :
    Taken part.decode (within? members found.heading part.key) (part.get (found.get {}))
      (part.get (found.get settings)) := by
  unfold within?
  cases reached : members.lookup found.heading with
  | none =>
      rw [reached] at taken
      exact congrArg part.get taken
  | some raw =>
      obtain ⟨inner, rfl⟩ := tables raw reached
      obtain ⟨once, -⟩ := RawSetting.tidy_table_iff.mp (tidy.of_lookup reached)
      rw [reached] at taken
      have reads := @Layout.reads_table _ found.layout inner once found.defaults
      have decoded : fields found.layout.fields found.defaults (.table inner) =
          .ok (found.get settings) := taken
      rw [decoded] at reads
      cases reads with
      | taken each =>
          rw [get_default member]
          exact each part partMember

/-- Reading a tidy table with tables under the headings gives each setting what the table has
for it, or one of them is refused, and the error is of this one. -/
theorem decode_cases (tidy : Tidy (.table members))
    (tables : ∀ found ∈ allSections, HasTable members found.heading) :
    (∃ settings, decode (.table members) = .ok settings ∧ ∀ setting ∈ Setting.all,
      setting.Takes (within? members setting.heading setting.key) settings) ∨
    ∃ error, decode (.table members) = .error error ∧ ∃ setting ∈ Setting.all,
      setting.Refuses (within? members setting.heading setting.key) ∧
        setting.Reports error := by
  obtain ⟨once, -⟩ := RawSetting.tidy_table_iff.mp tidy
  have reads := @Layout.reads_table _ wholeLayout members once {}
  rw [← sections_eq, ← decode] at reads
  generalize outcomeEq : decode (.table members) = outcome at reads
  cases reads with
  | taken each =>
      refine .inl ⟨_, rfl, fun setting member => ?_⟩
      obtain ⟨found, foundMember, part, partMember, rfl⟩ := mem_all_iff.mp member
      exact Section.taken foundMember tidy (tables found foundMember)
        (each _ (List.mem_map_of_mem foundMember)) partMember
  | @refused _ _ error member given fails =>
      obtain ⟨found, foundMember, rfl⟩ := List.mem_map.mp member
      have given : members.lookup found.heading = some _ := given
      obtain ⟨inner, rfl⟩ := tables found foundMember _ given
      obtain ⟨innerOnce, -⟩ := RawSetting.tidy_table_iff.mp (tidy.of_lookup given)
      have innerReads := @Layout.reads_table _ found.layout inner innerOnce found.defaults
      have fails : fields found.layout.fields found.defaults (.table inner) = .error error := fails
      rw [fails] at innerReads
      cases innerReads with
      | @refused part raw innerError partMember partGiven partFails =>
          refine .inr ⟨_, rfl, _, mem_all_iff.mpr ⟨found, foundMember, part, partMember, rfl⟩,
            ⟨raw, innerError, ?_, partFails⟩, raw, innerError, partFails, rfl⟩
          unfold within?
          rw [given]
          exact partGiven

/-- No tidy table can be read. -/
def RefusesTables {α : Type} (decode : Decoder α) : Prop :=
  ∀ members, Tidy (.table members) → ∃ error, decode (.table members) = .error error

theorem refusesTables_of_wrongKind {α : Type} {decode : Decoder α}
    (refuses : ∀ members, decode (.table members) = fail .wrongKind) : RefusesTables decode :=
  fun members _ => ⟨_, refuses members⟩

/-- A table that names a mode would have to be without a value for it. -/
theorem refusesTables_mode : RefusesTables mode := by
  intro members tidy
  unfold mode
  dsimp only
  split
  · rename_i name value rest sorted
    have member : (name, value) ∈ members := by
      have inSorted : (name, value) ∈ RawSetting.sorted members :=
        sorted ▸ List.mem_cons_self
      exact (List.mergeSort_perm members _).mem_iff.mp inSorted
    have present : value ≠ .nothing := by
      rintro rfl
      have impossible := (RawSetting.tidy_table_iff.mp tidy).2 _ member
      cases impossible
    cases modeNamed name with
    | error error => exact ⟨error, rfl⟩
    | ok found =>
        cases value with
        | nothing => exact absurd rfl present
        | _ => exact ⟨_, rfl⟩
  · exact ⟨_, rfl⟩

theorem refusesTables_of_mem {setting : Setting} (member : setting ∈ Setting.all) :
    RefusesTables setting.decode := by
  revert setting
  simp only [Setting.all, allSections, Section.settings, webLayout, logLayout, bridgeLayout,
    gatewayLayout, tokenLayout, authLayout, retryLayout, List.flatMap_cons, List.flatMap_nil,
    List.map_cons, List.map_nil, List.cons_append, List.nil_append, List.forall_mem_cons]
  and_intros
  all_goals
    first
      | exact refusesTables_mode
      | exact refusesTables_of_wrongKind fun _ => rfl
      | exact fun _ member => absurd member List.not_mem_nil

end Settings

end EditorLaunch
