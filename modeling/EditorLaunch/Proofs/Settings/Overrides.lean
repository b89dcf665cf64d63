import EditorLaunch.Proofs.Environment.Spelling
import EditorLaunch.Proofs.Settings.Layers

/-!
# Texts from variables

A setting that is a text has the text of its variable as it stands only if that is a plain
word or spells no value at all.  If it spells another text, this is what is taken, and a
number, a truth value, a list or a table is refused, although any of these could have been a
secret.
-/

namespace EditorLaunch

namespace Settings

open Environment (Kept SpellsOther SpellsNoText contentOf?)

variable {document : List (String × RawSetting)} {environment : List (String × String)}
  {file content : String} {raw : RawSetting}

/-- A setting that is a text. -/
structure TextSetting where
  heading : String
  key : String
  get : Settings → String

def TextSetting.setting (found : TextSetting) : Setting :=
  ⟨found.heading, found.key, String, text, found.get⟩

/-- The settings that are texts and always have one. -/
def textSettings : List TextSetting :=
  [⟨"wopi", "iop_secret", (·.bridge.secret)⟩, ⟨"token_manager", "jwt_secret", (·.token.secret)⟩,
    ⟨"auth", "token_header", (·.auth.tokenHeader)⟩,
    ⟨"auth", "user_id_header", (·.auth.userIdHeader)⟩,
    ⟨"auth", "display_name_header", (·.auth.displayNameHeader)⟩,
    ⟨"log", "level", (·.log.level)⟩, ⟨"web", "host", (·.web.host)⟩,
    ⟨"web", "root", (·.web.root)⟩, ⟨"wopi", "host", (·.bridge.host)⟩,
    ⟨"gateway", "address", (·.gateway.address)⟩]

/-- Another setting than the given one. -/
def TextSetting.IsOther (found : TextSetting) (setting : Setting) : Prop :=
  (setting.heading, setting.key) ≠ (found.heading, found.key)

instance (found : TextSetting) (setting : Setting) : Decidable (found.IsOther setting) :=
  inferInstanceAs (Decidable (_ ≠ _))

theorem setting_mem_all {found : TextSetting} (member : found ∈ textSettings) :
    found.setting ∈ Setting.all := by
  revert found
  simp [textSettings, TextSetting.setting, Setting.all, allSections, Section.settings, webLayout,
    logLayout, bridgeLayout, gatewayLayout, tokenLayout, authLayout]

/-- A setting is told by its heading and its key. -/
theorem eq_of_names_eq {left right : Setting} (leftMember : left ∈ Setting.all)
    (rightMember : right ∈ Setting.all)
    (same : (left.heading, left.key) = (right.heading, right.key)) : left = right := by
  have distinct : (Setting.all.map fun setting => (setting.heading, setting.key)).Nodup := by
    decide +kernel
  exact List.inj_on_of_nodup_map distinct leftMember rightMember same

theorem text_read_of_kept (kept : Kept content) :
    text (Environment.read content) = .ok content := by
  cases kept with
  | plain isPlain =>
      rw [Environment.read_of_spells isPlain.spells]
      rfl
  | nothing noValue =>
      rw [Environment.read_of_not_spells noValue]
      rfl

theorem text_read_of_spellsOther {other : String} (spellsOther : SpellsOther content other) :
    text (Environment.read content) = .ok other := by
  cases spellsOther with
  | text spells _ =>
      rw [Environment.read_of_spells spells]
      rfl
  | letter spells single =>
      rw [Environment.read_of_spells spells, single]
      rfl

theorem text_read_of_spellsNoText (noText : SpellsNoText content) :
    text (Environment.read content) = fail .wrongKind := by
  obtain ⟨spells, noText, noLetter⟩ := noText
  rename_i value
  rw [Environment.read_of_spells spells]
  cases value with
  | text other => exact absurd rfl (noText other)
  | letter letter => exact absurd rfl (noLetter letter)
  | _ => rfl

/-- The settings that are loaded have the text for the given one, and what counts for each of
the others, unless they are refused all together. -/
def LoadsWith (file : String) (document : List (String × RawSetting))
    (environment : List (String × String)) (found : TextSetting) (other : String) : Prop :=
  ∃ settings : Settings, found.get settings = other ∧
    (∀ setting ∈ Setting.all, found.IsOther setting →
      setting.Takes (effective? document environment setting) settings) ∧
    load file environment = (settings.validate.mapError LoadError.problem).map fun _ => settings

variable {found : TextSetting}

theorem effective?_of_content
    (given : contentOf? environment found.heading found.key = some content) :
    effective? document environment found.setting = some (Environment.read content) := by
  have given : contentOf? environment found.setting.heading found.setting.key = some content :=
    given
  rw [effective?, given, Option.map_some, Option.some_or]

/-- All settings but the given one are accepted. -/
def AcceptsOthers (document : List (String × RawSetting)) (environment : List (String × String))
    (found : TextSetting) : Prop :=
  ∀ setting ∈ Setting.all, found.IsOther setting →
    ¬ setting.Refuses (effective? document environment setting)

theorem AcceptsOthers.eq_of_refuses (others : AcceptsOthers document environment found)
    (member : found ∈ textSettings) {setting : Setting} (settingMember : setting ∈ Setting.all)
    (refuses : setting.Refuses (effective? document environment setting)) :
    setting = found.setting := by
  refine eq_of_names_eq settingMember (setting_mem_all member) (not_not.mp fun isOther => ?_)
  exact others setting settingMember isOther refuses

theorem eq_wrongKind_of_text_eq_error {error : DecodeError} (fails : text raw = .error error) :
    error = ⟨[], .wrongKind⟩ := by
  cases raw with
  | text value => cases fails
  | letter value => cases fails
  | _ => exact (Except.error.inj fails).symm

theorem loadsWith_of_read (reads : Toml.read? file = some (.table document))
    (wellFormed : WellFormed document environment) (member : found ∈ textSettings)
    (given : contentOf? environment found.heading found.key = some content)
    (others : AcceptsOthers document environment found) {other : String}
    (decoded : text (Environment.read content) = .ok other) :
    LoadsWith file document environment found other := by
  have effective : effective? document environment found.setting =
      some (Environment.read content) := effective?_of_content given
  obtain ⟨raw, layersEq, ⟨settings, decodedAll, takes⟩ |
    ⟨error, -, setting, settingMember, refuses, -⟩⟩ := decode_of_layers reads wellFormed
  · refine ⟨settings, ?_, fun setting settingMember _ => takes setting settingMember,
      load_of_decode_eq_ok layersEq decodedAll⟩
    have taken := takes _ (setting_mem_all member)
    rw [effective] at taken
    exact Except.ok.inj (Eq.trans (Eq.symm taken) decoded)
  · obtain rfl := others.eq_of_refuses member settingMember refuses
    rw [effective, refuses_some_iff] at refuses
    obtain ⟨error, fails⟩ := refuses
    exact absurd (Eq.trans (Eq.symm decoded) fails) (by simp)

theorem load_of_read_error (reads : Toml.read? file = some (.table document))
    (wellFormed : WellFormed document environment) (member : found ∈ textSettings)
    (given : contentOf? environment found.heading found.key = some content)
    (others : AcceptsOthers document environment found)
    (fails : text (Environment.read content) = fail .wrongKind) :
    load file environment = .error (.badSetting ⟨[found.heading, found.key], .wrongKind⟩) := by
  obtain ⟨raw, layersEq, ⟨settings, -, takes⟩ |
    ⟨error, decoded, setting, settingMember, refuses, reports⟩⟩ :=
      decode_of_layers reads wellFormed
  · have taken := takes _ (setting_mem_all member)
    rw [effective?_of_content given] at taken
    exact absurd (Eq.trans (Eq.symm fails) taken) (by simp [fail])
  · obtain rfl := others.eq_of_refuses member settingMember refuses
    obtain ⟨value, inner, innerFails, rfl⟩ := reports
    obtain rfl := eq_wrongKind_of_text_eq_error innerFails
    exact load_of_decode_eq_error layersEq decoded

/-- A text setting is what its variable says only if that is plain or spells nothing.  What
spells another text is replaced by it, and what spells no text is refused by its kind. -/
theorem textSetting_of_variable (reads : Toml.read? file = some (.table document))
    (wellFormed : WellFormed document environment) (member : found ∈ textSettings)
    (given : contentOf? environment found.heading found.key = some content)
    (others : AcceptsOthers document environment found) :
    (Kept content → LoadsWith file document environment found content) ∧
    (∀ other, SpellsOther content other →
      other ≠ content ∧ LoadsWith file document environment found other) ∧
    (SpellsNoText content →
      load file environment = .error (.badSetting ⟨[found.heading, found.key], .wrongKind⟩)) ∧
    (Kept content ∨ (∃ other, SpellsOther content other) ∨ SpellsNoText content) := by
  refine ⟨fun kept => ?_, fun other spellsOther => ⟨spellsOther.differ, ?_⟩, fun noText => ?_,
    Environment.kept_or_spells content⟩
  · exact loadsWith_of_read reads wellFormed member given others (text_read_of_kept kept)
  · exact loadsWith_of_read reads wellFormed member given others
      (text_read_of_spellsOther spellsOther)
  · exact load_of_read_error reads wellFormed member given others
      (text_read_of_spellsNoText noText)

def secretSetting : TextSetting :=
  ⟨"wopi", "iop_secret", (·.bridge.secret)⟩

def secretEnvironment (content : String) : List (String × String) :=
  [("WOPISERVER_WOPI__IOP_SECRET", content)]

def fullEnvironment : List (String × String) :=
  secretEnvironment "from-env" ++ shadowingEnvironment

theorem wellFormed_full : WellFormed shadowedDocument fullEnvironment where
  tables := wellFormed_shadowed.tables
  named := by
    refine List.forall_mem_cons.mpr ⟨.inl ⟨"wopi", "iop_secret", ?_⟩, wellFormed_shadowed.named⟩
    exact ⟨by decide +kernel, by decide +kernel⟩
  distinct := by
    refine List.pairwise_cons.mpr ⟨fun entry member same => ?_, wellFormed_shadowed.distinct⟩
    have differ : ∀ entry ∈ shadowingEnvironment,
        Environment.folded "WOPISERVER_WOPI__IOP_SECRET" ≠ Environment.folded entry.1 := by
      decide +kernel
    exact absurd same (differ entry member)

theorem kept_from_env : Kept "from-env" := by
  have letters : "from-env".toList = ['f', 'r', 'o', 'm', '-', 'e', 'n', 'v'] := rfl
  refine .plain ?_
  rw [letters]
  refine ⟨⟨by decide, by decide, by simp⟩, by simp [Environment.isDelimiter], by decide, ?_, ?_⟩
  · exact Environment.decimal?_eq_none_iff.mp rfl
  · exact Environment.integer?_eq_none_iff.mp rfl

/-- An ordinary secret comes from its variable as it stands. -/
theorem loadsWith_secret_from_env :
    LoadsWith shadowedFile shadowedDocument fullEnvironment secretSetting "from-env" := by
  have member : secretSetting ∈ textSettings := List.mem_cons_self
  have given : contentOf? fullEnvironment secretSetting.heading secretSetting.key =
      some "from-env" := by
    decide +kernel
  have others : AcceptsOthers shadowedDocument fullEnvironment secretSetting := by
    unfold AcceptsOthers
    decide +kernel
  exact (textSetting_of_variable read_shadowedFile wellFormed_full member given others).1
    kept_from_env

/-- The secret that is read with no file and one variable. -/
def secretOf (content : String) : Except LoadError String :=
  ((layers "" (secretEnvironment content)).bind fun raw =>
    (decode raw).mapError .badSetting).map (·.bridge.secret)

/-- Other kinds of values are refused as secrets, and quotes and blanks around one are lost. -/
theorem secrets_not_as_they_stand :
    (∀ content ∈ ["12345", "1.5", "true", "[a]", "\x7ba=1\x7d"],
      (load "" (secretEnvironment content)).map (·.bridge.secret) =
        .error (.badSetting ⟨["wopi", "iop_secret"], .wrongKind⟩)) ∧
      secretOf "from-env" = .ok "from-env" ∧ secretOf "\"abc\"" = .ok "abc" ∧
      secretOf "'a'" = .ok "a" ∧ secretOf " abc " = .ok "abc" := by
  decide +kernel

end Settings

end EditorLaunch
