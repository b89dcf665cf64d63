import EditorLaunch.Proofs.Settings.Value
import EditorLaunch.Toml.Reader

/-!
# Files are tidy

What is read from a file of settings is a tidy table: no line gives a name twice within a
table, and every value is one.  Lines change one table at a time, so it is enough that adding
a member, opening a table and adding to a list keep a table tidy wherever they happen.
-/

namespace EditorLaunch

namespace Toml

open RawSetting (Tidy)

variable {name : String} {entry : Entry} {setting : RawSetting} {members changed : Members}

/-- Entries whose values are tidy, in whose tables each name stands once. -/
inductive TidyEntry : Entry → Prop
  | value {setting : RawSetting} (tidy : setting.Tidy) : TidyEntry (.value setting)
  | table (origin : Origin) {members : Members} (once : (members.map Prod.fst).Nodup)
      (each : ∀ member ∈ members, TidyEntry member.2) : TidyEntry (.table origin members)
  | tables (items : List Members) : TidyEntry (.tables items)

structure TidyMembers (members : Members) : Prop where
  once : (members.map Prod.fst).Nodup
  each : ∀ member ∈ members, TidyEntry member.2

theorem tidyMembers_nil : TidyMembers [] :=
  ⟨List.nodup_nil, by simp⟩

theorem tidyEntry_table_iff {origin : Origin} :
    TidyEntry (.table origin members) ↔ TidyMembers members := by
  constructor
  · intro tidy
    cases tidy with
    | table _ once each => exact ⟨once, each⟩
  · exact fun ⟨once, each⟩ => .table origin once each

theorem TidyMembers.of_lookup (tidy : TidyMembers members)
    (reached : members.lookup name = some entry) : TidyEntry entry := by
  obtain ⟨before, behind, rfl, -⟩ := List.lookup_eq_some_iff.mp reached
  exact tidy.each (name, entry) (by simp)

theorem mem_putEntry {member : String × Entry}
    (reached : member ∈ putEntry name entry members) :
    member = (name, entry) ∨ member ∈ members := by
  induction members with
  | nil => exact .inl (List.mem_singleton.mp reached)
  | cons first rest ih =>
      rw [putEntry] at reached
      split at reached
      · rcases List.mem_cons.mp reached with here | later
        · exact .inl here
        · exact .inr (List.mem_cons_of_mem _ later)
      · rcases List.mem_cons.mp reached with here | later
        · exact .inr (here ▸ List.mem_cons_self)
        · exact (ih later).imp_right (List.mem_cons_of_mem _)

theorem nodup_putEntry (once : (members.map Prod.fst).Nodup) :
    ((putEntry name entry members).map Prod.fst).Nodup := by
  induction members with
  | nil => exact List.nodup_singleton name
  | cons first rest ih =>
      obtain ⟨missing, restOnce⟩ := List.nodup_cons.mp once
      rw [putEntry]
      split
      · rename_i here
        exact List.nodup_cons.mpr ⟨here ▸ missing, restOnce⟩
      · rename_i differ
        refine List.nodup_cons.mpr ⟨fun again => ?_, ih restOnce⟩
        obtain ⟨member, reached, same⟩ := List.mem_map.mp again
        rcases mem_putEntry reached with rfl | inRest
        · exact differ same.symm
        · exact missing (same ▸ List.mem_map_of_mem inRest)

theorem TidyMembers.putEntry (tidy : TidyMembers members) (tidyEntry : TidyEntry entry) :
    TidyMembers (putEntry name entry members) := by
  refine ⟨nodup_putEntry tidy.once, fun member reached => ?_⟩
  rcases mem_putEntry reached with rfl | inMembers
  · exact tidyEntry
  · exact tidy.each member inMembers

/-- A change that keeps tables tidy does so wherever keys lead. -/
theorem tidy_changeAt {byLine : Bool} {change : Origin → Members → Option Members}
    (keeps : ∀ {origin inner outcome}, TidyMembers inner →
      change origin inner = some outcome → TidyMembers outcome)
    {path : List String} {origin : Origin} (tidy : TidyMembers members)
    (changes : changeAt byLine change path origin members = some changed) :
    TidyMembers changed := by
  induction path generalizing origin members changed with
  | nil => exact keeps tidy changes
  | cons name rest ih =>
      rw [changeAt] at changes
      split at changes
      · obtain ⟨made, makes, same⟩ := Option.bind_eq_some_iff.mp changes
        obtain rfl := Option.some.inj same
        exact tidy.putEntry (tidyEntry_table_iff.mpr (ih tidyMembers_nil makes))
      · cases changes
      · rename_i inner reached
        split at changes
        · cases changes
        · obtain ⟨outcome, innerChanges, same⟩ := Option.bind_eq_some_iff.mp changes
          obtain rfl := Option.some.inj same
          have innerTidy := tidyEntry_table_iff.mp (tidy.of_lookup reached)
          exact tidy.putEntry (tidyEntry_table_iff.mpr (ih innerTidy innerChanges))
      · obtain ⟨last, -, changes⟩ := Option.bind_eq_some_iff.mp changes
        obtain ⟨outcome, -, same⟩ := Option.bind_eq_some_iff.mp changes
        obtain rfl := Option.some.inj same
        exact tidy.putEntry (.tables _)

theorem tidy_addMember (tidy : TidyMembers members) (tidySetting : setting.Tidy)
    (adds : addMember name setting members = some changed) : TidyMembers changed := by
  unfold addMember at adds
  split at adds
  · cases adds
  · rename_i isNew
    obtain rfl := Option.some.inj adds
    constructor
    · rw [List.map_append, List.map_singleton]
      refine tidy.once.append (List.nodup_singleton name) ?_
      rw [List.disjoint_singleton]
      simpa using isNew
    · intro member reached
      rcases List.mem_append.mp reached with inMembers | isLast
      · exact tidy.each member inMembers
      · rw [List.mem_singleton.mp isLast]
        exact .value tidySetting

theorem tidy_assign {path : List String} {origin : Origin} (tidy : TidyMembers members)
    (tidySetting : setting.Tidy) (assigns : assign path setting origin members = some changed) :
    TidyMembers changed := by
  obtain ⟨name, -, assigns⟩ := Option.bind_eq_some_iff.mp assigns
  refine tidy_changeAt (fun innerTidy adds => ?_) tidy assigns
  split at adds
  · cases adds
  · exact tidy_addMember innerTidy tidySetting adds

theorem tidy_assignIn {opened path : List String} (tidy : TidyMembers members)
    (tidySetting : setting.Tidy) (assigns : assignIn opened path setting members = some changed) :
    TidyMembers changed :=
  tidy_changeAt (fun innerTidy => tidy_assign innerTidy tidySetting) tidy assigns

theorem tidy_openTable {path : List String} (tidy : TidyMembers members)
    (opens : openTable path members = some changed) : TidyMembers changed := by
  obtain ⟨name, -, opens⟩ := Option.bind_eq_some_iff.mp opens
  refine tidy_changeAt (fun innerTidy makes => ?_) tidy opens
  split at makes
  · obtain rfl := Option.some.inj makes
    exact innerTidy.putEntry (tidyEntry_table_iff.mpr tidyMembers_nil)
  · rename_i reached
    obtain rfl := Option.some.inj makes
    exact innerTidy.putEntry
      (tidyEntry_table_iff.mpr (tidyEntry_table_iff.mp (innerTidy.of_lookup reached)))
  · cases makes

theorem tidy_addTable {path : List String} (tidy : TidyMembers members)
    (adds : addTable path members = some changed) : TidyMembers changed := by
  obtain ⟨name, -, adds⟩ := Option.bind_eq_some_iff.mp adds
  refine tidy_changeAt (fun innerTidy makes => ?_) tidy adds
  split at makes
  · obtain rfl := Option.some.inj makes
    exact innerTidy.putEntry (.tables _)
  · obtain rfl := Option.some.inj makes
    exact innerTidy.putEntry (.tables _)
  · cases makes

theorem settings_eq_map (members : Members) :
    settings members = members.map fun member => (member.1, member.2.setting) := by
  induction members with
  | nil => rw [settings, List.map_nil]
  | cons first rest ih => rw [settings, ih, List.map_cons]

theorem TidyEntry.tidy_setting (tidy : TidyEntry entry) : entry.setting.Tidy := by
  induction tidy with
  | value tidy =>
      rw [Entry.setting]
      exact tidy
  | table origin once each ih =>
      rw [Entry.setting, settings_eq_map]
      refine .table (by rw [List.map_map]; exact once) fun member reached => ?_
      obtain ⟨original, inMembers, rfl⟩ := List.mem_map.mp reached
      exact ih original inMembers
  | tables items =>
      rw [Entry.setting]
      exact .list _

theorem TidyMembers.tidy_settings (tidy : TidyMembers members) :
    Tidy (.table (settings members)) := by
  have tidySetting := TidyEntry.tidy_setting (.table .header tidy.once tidy.each)
  rwa [Entry.setting] at tidySetting

theorem tidy_wholeNumber? {value : Int} (reads : wholeNumber? value = some setting) :
    setting.Tidy := by
  unfold wholeNumber? at reads
  split at reads
  · exact Option.some.inj reads ▸ .integer value
  · cases reads

theorem tidy_integer? {letters : List Char} (reads : integer? letters = some setting) :
    setting.Tidy := by
  have based {base : Nat} {rest : List Char} (reads : basedNumber? base rest = some setting) :
      setting.Tidy := by
    obtain ⟨digits, -, reads⟩ := Option.bind_eq_some_iff.mp reads
    exact tidy_wholeNumber? reads
  unfold integer? at reads
  split at reads
  · exact based reads
  · exact based reads
  · exact based reads
  · obtain ⟨digits, -, reads⟩ := Option.bind_eq_some_iff.mp reads
    exact tidy_wholeNumber? reads

theorem tidy_decimal? {letters : List Char} (reads : decimal? letters = some setting) :
    setting.Tidy := by
  unfold decimal? at reads
  dsimp only at reads
  split at reads
  · cases reads
  · obtain ⟨whole, -, reads⟩ := Option.bind_eq_some_iff.mp reads
    -- The fraction and the exponent may each be left out.
    split at reads
    all_goals
      obtain ⟨fraction, -, reads⟩ := Option.bind_eq_some_iff.mp reads
      split at reads
    all_goals
      obtain ⟨power, -, reads⟩ := Option.bind_eq_some_iff.mp reads
      split at reads
      · cases reads
      · exact Option.some.inj reads ▸ .float _

theorem tidy_special? {letters : List Char} (reads : special? letters = some setting) :
    setting.Tidy := by
  unfold special? at reads
  dsimp only at reads
  split at reads
  · exact Option.some.inj reads ▸ .float _
  · split at reads
    · exact Option.some.inj reads ▸ .float _
    · cases reads

theorem tidy_scalar? {letters : List Char} (reads : scalar? letters = some setting) :
    setting.Tidy := by
  unfold scalar? at reads
  split at reads
  · exact Option.some.inj reads ▸ .flag true
  · split at reads
    · exact Option.some.inj reads ▸ .flag false
    · split at reads
      · obtain rfl := Option.some.inj reads
        exact .table (List.nodup_singleton _) (by simpa using .text _)
      · rcases Option.or_eq_some_iff.mp reads with special | ⟨-, number⟩
        · exact tidy_special? special
        · rcases Option.or_eq_some_iff.mp number with whole | ⟨-, decimal⟩
          · exact tidy_integer? whole
          · exact tidy_decimal? decimal

/-- The pairs of a table within a line keep it tidy. -/
def PairsKeepTidy (fuel : Nat) : Prop :=
  ∀ {found characters members rest}, TidyMembers found →
    Toml.members fuel found characters = some (members, rest) → TidyMembers members

theorem tidy_value_succ {fuel : Nat} {characters rest : List Char} {setting : RawSetting}
    (keepTidy : PairsKeepTidy fuel)
    (reads : value (fuel + 1) characters = some (setting, rest)) : setting.Tidy := by
  unfold value at reads
  split at reads
  · obtain ⟨found, -, same⟩ := Option.map_eq_some_iff.mp reads
    obtain ⟨rfl, rfl⟩ := Prod.mk.inj same
    exact .text _
  · obtain ⟨found, -, same⟩ := Option.map_eq_some_iff.mp reads
    obtain ⟨rfl, rfl⟩ := Prod.mk.inj same
    exact .text _
  · obtain ⟨found, -, same⟩ := Option.bind_eq_some_iff.mp reads
    obtain ⟨rfl, rfl⟩ := Prod.mk.inj (Option.some.inj same)
    exact .list _
  · split at reads
    · obtain ⟨rfl, rfl⟩ := Prod.mk.inj (Option.some.inj reads)
      exact .table List.nodup_nil (by simp)
    · obtain ⟨⟨members, behind⟩, readsMembers, same⟩ := Option.bind_eq_some_iff.mp reads
      obtain ⟨rfl, rfl⟩ := Prod.mk.inj (Option.some.inj same)
      exact (keepTidy tidyMembers_nil readsMembers).tidy_settings
  · dsimp only at reads
    obtain ⟨found, readsScalar, same⟩ := Option.bind_eq_some_iff.mp reads
    obtain ⟨rfl, rfl⟩ := Prod.mk.inj (Option.some.inj same)
    exact tidy_scalar? readsScalar

theorem pairsKeepTidy_succ {fuel : Nat}
    (tidyValue : ∀ {characters setting rest}, value fuel characters = some (setting, rest) →
      setting.Tidy) (keepTidy : PairsKeepTidy fuel) : PairsKeepTidy (fuel + 1) := by
  intro found characters members rest tidy reads
  rw [Toml.members] at reads
  obtain ⟨⟨path, afterKey⟩, -, reads⟩ := Option.bind_eq_some_iff.mp reads
  dsimp only at reads
  split at reads
  · obtain ⟨⟨setting, behind⟩, readsValue, reads⟩ := Option.bind_eq_some_iff.mp reads
    obtain ⟨joined, assigns, reads⟩ := Option.bind_eq_some_iff.mp reads
    have joinedTidy := tidy_assign tidy (tidyValue readsValue) assigns
    dsimp only at reads
    split at reads
    · exact keepTidy joinedTidy reads
    · obtain ⟨rfl, rfl⟩ := Prod.mk.inj (Option.some.inj reads)
      exact joinedTidy
    · cases reads
  · cases reads

/-- Values and the pairs of tables within a line are read with one bound for both. -/
theorem tidy_value_and_members (fuel : Nat) :
    (∀ {characters setting rest}, value fuel characters = some (setting, rest) →
      setting.Tidy) ∧ PairsKeepTidy fuel := by
  induction fuel with
  | zero =>
      refine ⟨fun reads => ?_, fun _ reads => ?_⟩
      · rw [value] at reads
        cases reads
      · rw [Toml.members] at reads
        cases reads
  | succ fuel ih =>
      obtain ⟨tidyValue, keepTidy⟩ := ih
      exact ⟨tidy_value_succ keepTidy, pairsKeepTidy_succ tidyValue keepTidy⟩

theorem tidy_lines {fuel : Nat} {opened : List String} {characters : List Char}
    (tidy : TidyMembers members) (reads : lines fuel opened members characters = some changed) :
    TidyMembers changed := by
  induction fuel generalizing opened members characters with
  | zero =>
      rw [lines] at reads
      cases reads
  | succ fuel ih =>
      rw [lines] at reads
      obtain ⟨next, -, reads⟩ := Option.bind_eq_some_iff.mp reads
      split at reads
      · obtain rfl := Option.some.inj reads
        exact tidy
      · obtain ⟨⟨path, afterKey⟩, -, reads⟩ := Option.bind_eq_some_iff.mp reads
        dsimp only at reads
        split at reads
        · obtain ⟨longer, adds, reads⟩ := Option.bind_eq_some_iff.mp reads
          obtain ⟨behind, -, reads⟩ := Option.bind_eq_some_iff.mp reads
          exact ih (tidy_addTable tidy adds) reads
        · cases reads
      · obtain ⟨⟨path, afterKey⟩, -, reads⟩ := Option.bind_eq_some_iff.mp reads
        dsimp only at reads
        split at reads
        · obtain ⟨longer, opens, reads⟩ := Option.bind_eq_some_iff.mp reads
          obtain ⟨behind, -, reads⟩ := Option.bind_eq_some_iff.mp reads
          exact ih (tidy_openTable tidy opens) reads
        · cases reads
      · obtain ⟨⟨path, afterKey⟩, -, reads⟩ := Option.bind_eq_some_iff.mp reads
        dsimp only at reads
        split at reads
        · obtain ⟨⟨setting, rest⟩, readsValue, reads⟩ := Option.bind_eq_some_iff.mp reads
          obtain ⟨longer, assigns, reads⟩ := Option.bind_eq_some_iff.mp reads
          obtain ⟨behind, -, reads⟩ := Option.bind_eq_some_iff.mp reads
          exact ih (tidy_assignIn tidy ((tidy_value_and_members _).1 readsValue) assigns) reads
        · cases reads

theorem exists_members_of_read? {content : String} {found : RawSetting}
    (reads : read? content = some found) : ∃ members, found = .table members := by
  obtain ⟨root, -, rfl⟩ := Option.map_eq_some_iff.mp reads
  exact ⟨_, rfl⟩

/-- What is read from a file is a tidy table. -/
theorem tidy_read? {content : String} {found : RawSetting} (reads : read? content = some found) :
    found.Tidy := by
  obtain ⟨root, readsLines, rfl⟩ := Option.map_eq_some_iff.mp reads
  exact (tidy_lines tidyMembers_nil readsLines).tidy_settings

end Toml

end EditorLaunch
