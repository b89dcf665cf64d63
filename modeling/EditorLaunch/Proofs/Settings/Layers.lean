import EditorLaunch.Proofs.Environment.Layer
import EditorLaunch.Proofs.Settings.Sections
import EditorLaunch.Proofs.Toml.Tables
import EditorLaunch.Settings.Loading

/-!
# Layers of settings

A setting has the value of its variable if there is one, else that of the file, else its
default.  The file and the variables are put together as trees before anything is read, so it
has to be seen that this comes to the same, setting by setting: under the headings there are
only tables, which are joined key by key, and where both the file and a variable give a table
for a setting, it is refused with the one as with the other.
-/

namespace EditorLaunch

namespace Settings

open RawSetting (Tidy HasTable within?)
open Environment (contentOf? Names IsAside)

variable {document : List (String × RawSetting)} {environment : List (String × String)}
  {file : String} {setting : Setting}

/-- The value that counts for a setting: that of its variable, or else that of the file. -/
def effective? (document : List (String × RawSetting)) (environment : List (String × String))
    (setting : Setting) : Option RawSetting :=
  ((contentOf? environment setting.heading setting.key).map Environment.read).or
    (within? document setting.heading setting.key)

/-- A file with tables under the headings, and variables that are each named for a setting,
known or not, or that lead aside of all known ones, no two of them for the same known one. -/
structure WellFormed (document : List (String × RawSetting))
    (environment : List (String × String)) : Prop where
  tables : ∀ setting ∈ Setting.all, HasTable document setting.heading
  named : ∀ entry ∈ environment, (∃ heading key, Names entry.1 heading key) ∨
    ∀ setting ∈ Setting.all, IsAside setting.heading setting.key entry.1
  distinct : environment.Pairwise fun left right =>
    Environment.folded left.1 = Environment.folded right.1 →
      ∀ setting ∈ Setting.all, IsAside setting.heading setting.key left.1

theorem areNames_of_mem (member : setting ∈ Setting.all) :
    Environment.AreNames setting.heading setting.key := by
  revert setting
  decide +kernel

theorem WellFormed.formed (wellFormed : WellFormed document environment)
    (member : setting ∈ Setting.all) : Environment.Formed setting.heading setting.key environment :=
  ⟨fun entry inEnvironment => (wellFormed.named entry inEnvironment).imp_right fun aside =>
      aside setting member,
    wellFormed.distinct.imp fun aside same => aside same setting member⟩

theorem merge_cases (below above : RawSetting) :
    below.merge above = above ∨
      (∃ members, above = .table members) ∧ ∃ members, below.merge above = .table members := by
  cases above with
  | table found =>
      cases below with
      | table members => exact .inr ⟨⟨found, rfl⟩, _, RawSetting.merge_table members found⟩
      | _ => exact .inl (by rw [RawSetting.merge]; simp)
  | _ => exact .inl (by rw [RawSetting.merge]; simp)

/-- A value that has been joined with one of the file is read like the value alone. -/
theorem decode_merge {below above : RawSetting} (member : setting ∈ Setting.all)
    (tidyBelow : below.Tidy) (tidyAbove : above.Tidy) :
    setting.decode (below.merge above) = setting.decode above ∨
      (∃ error, setting.decode (below.merge above) = .error error) ∧
        ∃ error, setting.decode above = .error error := by
  rcases merge_cases below above with same | ⟨⟨members, aboveEq⟩, joined, joinedEq⟩
  · rw [same]
    exact .inl rfl
  · have tidyJoined := tidyAbove.merge tidyBelow
    rw [joinedEq] at tidyJoined ⊢
    rw [aboveEq] at tidyAbove ⊢
    exact .inr ⟨refusesTables_of_mem member joined tidyJoined,
      refusesTables_of_mem member members tidyAbove⟩

variable {raw : RawSetting} {below? above? : Option RawSetting} {settings : Settings}

theorem refuses_some_iff :
    setting.Refuses (some raw) ↔ ∃ error, setting.decode raw = .error error := by
  constructor
  · rintro ⟨_, error, same, fails⟩
    obtain rfl := Option.some.inj same
    exact ⟨error, fails⟩
  · exact fun ⟨error, fails⟩ => ⟨raw, error, rfl, fails⟩

theorem takes_joined_iff (member : setting ∈ Setting.all)
    (tidyBelow : ∀ below ∈ below?, below.Tidy) (tidyAbove : ∀ above ∈ above?, above.Tidy) :
    (setting.Takes (RawSetting.joined below? above?) settings ↔
        setting.Takes (above?.or below?) settings) ∧
      (setting.Refuses (RawSetting.joined below? above?) ↔
        setting.Refuses (above?.or below?)) := by
  cases above? with
  | none => rw [RawSetting.joined_none, Option.none_or]; exact ⟨Iff.rfl, Iff.rfl⟩
  | some above =>
      cases below? with
      | none => exact ⟨Iff.rfl, Iff.rfl⟩
      | some below =>
          rw [RawSetting.joined, Option.some_or, refuses_some_iff, refuses_some_iff]
          change (setting.decode (below.merge above) = .ok (setting.get settings) ↔
            setting.decode above = .ok (setting.get settings)) ∧ _
          rcases decode_merge member (tidyBelow below rfl) (tidyAbove above rfl) with
            same | ⟨⟨joinedError, joinedFails⟩, aboveError, aboveFails⟩
          · rw [same]
            exact ⟨Iff.rfl, Iff.rfl⟩
          · rw [joinedFails, aboveFails]
            simp

/-- Together the layers are a tidy table with tables under the headings, which holds for each
setting what the file and its variable hold together. -/
theorem layers_hold (reads : Toml.read? file = some (.table document))
    (wellFormed : WellFormed document environment) :
    ∃ members, layers file environment = .ok (.table members) ∧ Tidy (.table members) ∧
      ∀ setting ∈ Setting.all, HasTable members setting.heading ∧
        within? members setting.heading setting.key =
          RawSetting.joined (within? document setting.heading setting.key)
            ((contentOf? environment setting.heading setting.key).map Environment.read) := by
  have holds := fun setting (member : setting ∈ Setting.all) =>
    Environment.layer_holds (wellFormed.formed member) (areNames_of_mem member)
  obtain ⟨found, layerEq, tidyFound, -⟩ := holds _ (List.head_mem (by decide))
  refine ⟨RawSetting.mergeMembers document found, ?_, ?_, fun setting member => ?_⟩
  · rw [layers, reads, layerEq]
    exact congrArg Except.ok (RawSetting.merge_table document found)
  · rw [← RawSetting.merge_table]
    exact tidyFound.merge (Toml.tidy_read? reads)
  · obtain ⟨_, sameLayer, -, foundTables, within⟩ := holds setting member
    obtain rfl := RawSetting.table.inj (layerEq.symm.trans sameLayer)
    rw [← within]
    exact RawSetting.within?_mergeMembers (wellFormed.tables setting member) foundTables
      tidyFound setting.key

theorem exists_setting_of_mem {found : Section} (member : found ∈ allSections) :
    ∃ setting ∈ Setting.all, setting.heading = found.heading := by
  revert found
  decide +kernel

/-- Reading both layers together reads each setting from its effective value, and an error is of
one that is refused. -/
theorem decode_of_layers (reads : Toml.read? file = some (.table document))
    (wellFormed : WellFormed document environment) :
    ∃ raw, layers file environment = .ok raw ∧
      ((∃ settings, decode raw = .ok settings ∧ ∀ setting ∈ Setting.all,
          setting.Takes (effective? document environment setting) settings) ∨
        ∃ error, decode raw = .error error ∧ ∃ setting ∈ Setting.all,
          setting.Refuses (effective? document environment setting) ∧ setting.Reports error) := by
  obtain ⟨members, layersEq, tidy, holds⟩ := layers_hold reads wellFormed
  have effective : ∀ setting ∈ Setting.all, ∀ settings,
      (setting.Takes (within? members setting.heading setting.key) settings ↔
        setting.Takes (effective? document environment setting) settings) ∧
      (setting.Refuses (within? members setting.heading setting.key) ↔
        setting.Refuses (effective? document environment setting)) := by
    intro setting member settings
    rw [(holds setting member).2]
    refine takes_joined_iff member (fun below given => ?_) fun above given => ?_
    · exact (Toml.tidy_read? reads).of_within? given
    · obtain ⟨content, -, rfl⟩ := Option.map_eq_some_iff.mp given
      exact Environment.tidy_read content
  have tables : ∀ found ∈ allSections, HasTable members found.heading := by
    intro found member
    obtain ⟨setting, settingMember, same⟩ := exists_setting_of_mem member
    exact same ▸ (holds setting settingMember).1
  refine ⟨_, layersEq, ?_⟩
  rcases decode_cases tidy tables with
    ⟨settings, decoded, takes⟩ | ⟨error, decoded, setting, member, refuses, reports⟩
  · exact .inl ⟨settings, decoded, fun setting member =>
      (effective setting member settings).1.mp (takes setting member)⟩
  · exact .inr ⟨error, decoded, setting, member, (effective setting member {}).2.mp refuses,
      reports⟩

theorem decode_layers (reads : Toml.read? file = some (.table document))
    (wellFormed : WellFormed document environment) :
    ∃ raw, layers file environment = .ok raw ∧
      ((∃ settings, decode raw = .ok settings ∧ ∀ setting ∈ Setting.all,
          setting.Takes (effective? document environment setting) settings) ∨
        ∃ error, decode raw = .error error ∧ ∃ setting ∈ Setting.all,
          setting.Refuses (effective? document environment setting)) := by
  obtain ⟨raw, layersEq, taken | ⟨error, decoded, setting, member, refuses, -⟩⟩ :=
    decode_of_layers reads wellFormed
  · exact ⟨raw, layersEq, .inl taken⟩
  · exact ⟨raw, layersEq, .inr ⟨error, decoded, setting, member, refuses⟩⟩

theorem load_of_decode_eq_ok (layersEq : layers file environment = .ok raw)
    (decoded : decode raw = .ok settings) :
    load file environment =
      (settings.validate.mapError LoadError.problem).map fun _ => settings := by
  simp only [load, layersEq, bind, Except.bind, decoded, Except.mapError, pure, Except.pure]
  cases settings.validate <;> rfl

theorem load_of_decode_eq_error {error : DecodeError}
    (layersEq : layers file environment = .ok raw) (decoded : decode raw = .error error) :
    load file environment = .error (.badSetting error) := by
  simp only [load, layersEq, bind, Except.bind, decoded, Except.mapError]

/-- Each setting is read from its effective value on its own: loading fails with a bad setting
exactly if one of these values cannot be read, and otherwise there is just one way for the
settings to have these values and the defaults, and it is what is loaded if it is sound. -/
theorem load_layer_by_layer (reads : Toml.read? file = some (.table document))
    (wellFormed : WellFormed document environment) :
    ((∃ error, load file environment = .error (.badSetting error)) ↔
      ∃ setting ∈ Setting.all, setting.Refuses (effective? document environment setting)) ∧
    ((∀ setting ∈ Setting.all, ¬ setting.Refuses (effective? document environment setting)) →
      ∃ settings,
        (∀ setting ∈ Setting.all,
          setting.Takes (effective? document environment setting) settings) ∧
        (∀ others, (∀ setting ∈ Setting.all,
          setting.Takes (effective? document environment setting) others) → others = settings) ∧
        load file environment =
          (settings.validate.mapError LoadError.problem).map fun _ => settings) := by
  obtain ⟨raw, layersEq, ⟨settings, decoded, takes⟩ |
    ⟨error, decoded, setting, member, refuses⟩⟩ := decode_layers reads wellFormed
  · have loaded := load_of_decode_eq_ok layersEq decoded
    have unique : ∀ others, (∀ setting ∈ Setting.all,
        setting.Takes (effective? document environment setting) others) → others = settings :=
      fun others alike => eq_of_get_eq fun setting member =>
        (alike setting member).unique (takes setting member)
    refine ⟨iff_of_false ?_ ?_, fun _ => ⟨settings, takes, unique, loaded⟩⟩
    · rintro ⟨error, fails⟩
      rw [loaded] at fails
      cases validated : settings.validate <;> rw [validated] at fails <;> cases fails
    · rintro ⟨setting, member, refuses⟩
      exact not_refused_of_taken (takes setting member) refuses
  · have loaded := load_of_decode_eq_error layersEq decoded
    exact ⟨iff_of_true ⟨error, loaded⟩ ⟨setting, member, refuses⟩,
      fun none => absurd refuses (none setting member)⟩

/-- A file in which the port is no number and one member is no setting. -/
def shadowedFile : String :=
  "[web]\nport = \"low\"\ncolour = 3\nroot = \"/srv\"\n"

-- Comparing types must not read the file.
@[irreducible]
def shadowedDocument : List (String × RawSetting) :=
  ((Toml.read? shadowedFile).map RawSetting.members).getD []

def shadowingEnvironment : List (String × String) :=
  [("WopiServer_Web__Port", "9200"), ("PATH", "/bin")]

theorem read_shadowedFile : Toml.read? shadowedFile = some (.table shadowedDocument) := by
  have reads : (Toml.read? shadowedFile).isSome := by decide +kernel
  obtain ⟨found, foundEq⟩ := Option.isSome_iff_exists.mp reads
  obtain ⟨members, rfl⟩ := Toml.exists_members_of_read? foundEq
  rw [shadowedDocument, foundEq]
  rfl

theorem wellFormed_shadowed : WellFormed shadowedDocument shadowingEnvironment where
  tables := by decide +kernel
  named := by
    refine List.forall_mem_cons.mpr ⟨.inl ⟨"web", "port", ?_⟩, List.forall_mem_singleton.mpr <|
      .inr fun setting _ => .of_settingPath? ?_⟩
    · exact ⟨by decide +kernel, by decide +kernel⟩
    · decide +kernel
  distinct := by
    have differ : Environment.folded "WopiServer_Web__Port" ≠ Environment.folded "PATH" := by
      decide +kernel
    simp [shadowingEnvironment, differ]

def portSetting : Setting :=
  ⟨"web", "port", UInt16, fun raw => (natural 0x10000 raw).map .ofNat, (·.web.port)⟩

def rootSetting : Setting :=
  ⟨"web", "root", String, text, (·.web.root)⟩

theorem portSetting_mem : portSetting ∈ Setting.all := by
  simp [Setting.all, allSections, Section.settings, webLayout, portSetting]

theorem rootSetting_mem : rootSetting ∈ Setting.all := by
  simp [Setting.all, allSections, Section.settings, webLayout, rootSetting]

/-- The port comes from its variable, although what the file has for it cannot be read, and the
root comes from the file. -/
theorem load_shadowed_port : ∃ settings : Settings,
    settings.web.port = 9200 ∧ settings.web.root = "/srv" ∧
      load shadowedFile shadowingEnvironment =
        (settings.validate.mapError LoadError.problem).map fun _ => settings := by
  have portGiven : Taken (fun raw => (natural 0x10000 raw).map UInt16.ofNat)
      (effective? shadowedDocument shadowingEnvironment portSetting)
      (WebSettings.port {}) 9200 := by
    decide +kernel
  have rootGiven : Taken text (effective? shadowedDocument shadowingEnvironment rootSetting)
      (WebSettings.root {}) "/srv" := by
    decide +kernel
  obtain ⟨settings, takes, -, loaded⟩ :=
    (load_layer_by_layer read_shadowedFile wellFormed_shadowed).2 (by decide +kernel)
  exact ⟨settings, Taken.unique (takes _ portSetting_mem) portGiven,
    Taken.unique (takes _ rootSetting_mem) rootGiven, loaded⟩

end Settings

end EditorLaunch
