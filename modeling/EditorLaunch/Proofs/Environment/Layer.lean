import EditorLaunch.Environment.Layer
import EditorLaunch.Proofs.Environment.Value
import EditorLaunch.Proofs.Text.Utf8
import EditorLaunch.Proofs.Unicode.Blank
import Mathlib

/-!
# Variables and what they set

The variable of a setting is named for its heading and its key, in any case.  Reading its
name leads to just that place: neither name holds a point or two underscores in a row, so the
two underscores between them are the only place where the name is split.  As long as no two
variables are for one setting, the layer of the environment has under each heading what the
variables for it hold.
-/

namespace EditorLaunch

namespace Environment

open RawSetting (Tidy HasTable within?)

variable {name heading key : String} {letters rest : List Char}

theorem isBlank_toLower (character : Char) : isBlank character.toLower = isBlank character := by
  by_cases below : character.toNat < 0x80
  · exact holds_of_codes (fun character => isBlank character.toLower = isBlank character)
      (by decide +kernel) below
  · have notUpper : ¬ character.isUpper := by
      rw [Char.isUpper, decide_eq_true_iff]
      rintro ⟨-, (fits : character.toNat ≤ 0x5A)⟩
      omega
    rw [Char.toLower_eq_of_not_isUpper notUpper]

/-- A name in small letters. -/
def folded (name : String) : List Char :=
  name.toList.map Char.toLower

/-- The name of the variable for a setting, in small letters. -/
def variableName (heading key : String) : List Char :=
  "wopiserver_".toList ++ (heading.toList ++ '_' :: '_' :: key.toList)

/-- Letters of a single name: some, but neither a point nor two underscores in a row. -/
structure IsSingle (letters : List Char) : Prop where
  filled : letters ≠ []
  noPoint : '.' ∉ letters
  noPair : ¬ ['_', '_'] <:+: letters

/-- Names that two underscores can stand between. -/
structure AreNames (heading key : String) : Prop where
  headingSingle : IsSingle heading.toList
  headingEnds : heading.toList.getLast? ≠ some '_'
  keySingle : IsSingle key.toList
  keyEnds : ∀ last ∈ key.toList.getLast?, isBlank last = false

instance : Decidable (IsSingle letters) :=
  decidable_of_iff (letters ≠ [] ∧ '.' ∉ letters ∧ ¬ ['_', '_'] <:+: letters)
    ⟨fun ⟨filled, noPoint, noPair⟩ => ⟨filled, noPoint, noPair⟩,
      fun ⟨filled, noPoint, noPair⟩ => ⟨filled, noPoint, noPair⟩⟩

instance : Decidable (AreNames heading key) :=
  decidable_of_iff (IsSingle heading.toList ∧ heading.toList.getLast? ≠ some '_' ∧
      IsSingle key.toList ∧ key.toList.getLast?.all (!isBlank ·))
    ⟨fun ⟨headingSingle, headingEnds, keySingle, keyEnds⟩ =>
        ⟨headingSingle, headingEnds, keySingle, by simpa [Option.all_eq_true] using keyEnds⟩,
      fun ⟨headingSingle, headingEnds, keySingle, keyEnds⟩ =>
        ⟨headingSingle, headingEnds, keySingle, by simpa [Option.all_eq_true] using keyEnds⟩⟩

theorem segments_cons {letter : Char} (noPoint : letter ≠ '.')
    (noPair : letter = '_' → rest.head? ≠ some '_') {first : List Char} {others : List (List Char)}
    (split : segments rest = first :: others) :
    segments (letter :: rest) = (letter :: first) :: others := by
  unfold segments
  split
  · rename_i same
    obtain ⟨rfl, rfl⟩ := List.cons.inj same
    exact absurd rfl (noPair rfl)
  · rename_i same
    obtain ⟨rfl, rfl⟩ := List.cons.inj same
    exact absurd rfl noPoint
  · rename_i same
    obtain ⟨rfl, rfl⟩ := List.cons.inj same
    rw [split]
  · contradiction

/-- Letters of a single name are split nowhere, and stand in front of what follows. -/
theorem segments_append (noPoint : '.' ∉ letters) (noPair : ¬ ['_', '_'] <:+: letters)
    {behind first : List Char} {others : List (List Char)}
    (apart : letters.getLast? = some '_' → behind.head? ≠ some '_')
    (split : segments behind = first :: others) :
    segments (letters ++ behind) = (letters ++ first) :: others := by
  induction letters with
  | nil => exact split
  | cons letter rest ih =>
      rw [List.mem_cons, not_or] at noPoint
      have restNoPair : ¬ ['_', '_'] <:+: rest := fun pair =>
        noPair (pair.trans (List.suffix_cons letter rest).isInfix)
      refine segments_cons (Ne.symm noPoint.1) ?_ (ih noPoint.2 restNoPair fun ends => ?_)
      · rintro rfl
        cases rest with
        | nil => exact apart rfl
        | cons second _ =>
            intro same
            obtain rfl : second = '_' := Option.some.inj same
            exact noPair (List.prefix_append ['_', '_'] _).isInfix
      · refine apart ?_
        rw [List.getLast?_cons, ends, Option.getD_some]

theorem segments_single (single : IsSingle letters) : segments letters = [letters] := by
  have split := segments_append single.noPoint single.noPair (fun _ => by simp)
    (show segments [] = [] :: [] from rfl)
  rwa [List.append_nil] at split

theorem segments_names {heading : List Char} (single : IsSingle heading)
    (ends : heading.getLast? ≠ some '_') (key : List Char) :
    segments (heading ++ '_' :: '_' :: key) = heading :: segments key := by
  have split := segments_append single.noPoint single.noPair (fun isLast => absurd isLast ends)
    (show segments ('_' :: '_' :: key) = [] :: segments key from rfl)
  rwa [List.append_nil] at split

theorem segments_ne_nil (letters : List Char) : segments letters ≠ [] := by
  unfold segments
  split
  · simp
  · simp
  · split <;> simp
  · simp

theorem settingName?_of_folded {rest : List Char}
    (spelled : folded name = "wopiserver_".toList ++ rest) (filled : rest ≠ [])
    (ends : ∀ last ∈ rest.getLast?, isBlank last = false) :
    ∃ kept, settingName? name.toList = some kept ∧ kept.map Char.toLower = rest := by
  have whole : trimBlanks name.toList = name.toList := by
    refine trimBlanks_eq_self (fun first isFirst => ?_) fun last isLast => ?_
    · have small : first.toLower ∈ (folded name).head? := by
        rw [folded, List.head?_map, isFirst]
        rfl
      rw [spelled] at small
      rw [← isBlank_toLower, ← Option.some.inj small]
      decide
    · have small : last.toLower ∈ (folded name).getLast? := by
        rw [folded, List.getLast?_map, isLast]
        rfl
      rw [spelled, List.getLast?_append_of_ne_nil _ filled] at small
      rw [← isBlank_toLower]
      exact ends _ small
  have begins : (name.toList.take 11).map Char.toLower = "wopiserver_".toList := by
    rw [List.map_take, ← folded, spelled]
    rfl
  have start : (name.toList.take 11).map Char.toUpper = nameStart := by
    have upper : Char.toUpper ∘ Char.toLower = Char.toUpper :=
      funext Char.toUpper_toLower_eq_toUpper
    rw [← upper, ← List.map_map, begins]
    decide
  refine ⟨name.toList.drop 11, ?_, ?_⟩
  · simp only [settingName?, whole]
    exact if_pos start
  · rw [List.map_drop, ← folded, spelled]
    rfl

/-- The name of a variable leads to its heading and its key, whatever the case. -/
theorem settingPath?_of_folded (names : AreNames heading key)
    (spelled : folded name = variableName heading key) :
    settingPath? name = some [heading, key] := by
  have ends : ∀ last ∈ (heading.toList ++ '_' :: '_' :: key.toList).getLast?,
      isBlank last = false := by
    intro last isLast
    rw [List.append_cons, List.append_cons,
      List.getLast?_append_of_ne_nil _ names.keySingle.filled] at isLast
    exact names.keyEnds last isLast
  obtain ⟨kept, found, lower⟩ := settingName?_of_folded spelled (by simp) ends
  have split : segments (kept.map Char.toLower) = [heading.toList, key.toList] := by
    rw [lower, segments_names names.headingSingle names.headingEnds,
      segments_single names.keySingle]
  simp [settingPath?, found, split, names.headingSingle.filled, names.keySingle.filled]

/-- A variable that is named for a setting. -/
structure Names (name heading key : String) : Prop extends AreNames heading key where
  spelled : folded name = variableName heading key

theorem Names.settingPath? (names : Names name heading key) :
    settingPath? name = some [heading, key] :=
  settingPath?_of_folded names.toAreNames names.spelled

/-- A variable that leads neither to a setting or into it nor to all that is under its
heading. -/
structure IsAside (heading key name : String) : Prop where
  notHeading : settingPath? name ≠ some [heading]
  notSetting : ∀ rest, settingPath? name ≠ some (heading :: key :: rest)

theorem IsAside.of_settingPath? (leads : settingPath? name = none) : IsAside heading key name :=
  ⟨by simp [leads], by simp [leads]⟩

/-- What the variable for a setting holds. -/
def contentOf? (environment : List (String × String)) (heading key : String) : Option String :=
  (environment.find? (folded ·.1 == variableName heading key)).map Prod.snd

/-- Variables that are each named for some setting or lead aside of this one, and no two of
which are for this one. -/
structure Formed (heading key : String) (environment : List (String × String)) : Prop where
  each : ∀ entry ∈ environment,
    (∃ other otherKey, Names entry.1 other otherKey) ∨ IsAside heading key entry.1
  distinct : environment.Pairwise fun left right =>
    folded left.1 = folded right.1 → IsAside heading key left.1

variable {environment : List (String × String)} {entry : String × String}

theorem exists_cons_of_settingPath? {path : List String} (leads : settingPath? name = some path) :
    ∃ first rest, path = first :: rest := by
  obtain ⟨kept, -, leads⟩ := Option.bind_eq_some_iff.mp leads
  dsimp only at leads
  split at leads
  · cases leads
  · obtain rfl := Option.some.inj leads
    exact List.exists_cons_of_ne_nil fun none =>
      segments_ne_nil _ (List.map_eq_nil_iff.mp none)

theorem spelled_iff (names : AreNames heading key)
    (formed : (∃ other otherKey, Names name other otherKey) ∨ IsAside heading key name) :
    folded name = variableName heading key ↔ settingPath? name = some [heading, key] := by
  refine ⟨settingPath?_of_folded names, fun leads => ?_⟩
  rcases formed with ⟨other, otherKey, named⟩ | aside
  · have spelled := named.spelled
    rw [named.settingPath?] at leads
    simp only [Option.some.injEq, List.cons.injEq, and_true] at leads
    obtain ⟨rfl, rfl⟩ := leads
    exact spelled
  · exact absurd leads (aside.notSetting [])

/-- What one variable puts under a heading. -/
theorem nested_holds {first : String} {rest : List String} {value : RawSetting}
    (formed : (∃ other otherKey, Names name other otherKey) ∨ IsAside heading key name)
    (leads : settingPath? name = some (first :: rest)) :
    HasTable [(first, RawSetting.nested rest value)] heading ∧
      within? [(first, RawSetting.nested rest value)] heading key =
        if first :: rest = [heading, key] then some value else none := by
  unfold HasTable within?
  rw [RawSetting.lookup_cons]
  by_cases here : heading = first
  · subst here
    cases rest with
    | nil =>
        rcases formed with ⟨other, otherKey, named⟩ | aside
        · rw [named.settingPath?] at leads
          simp at leads
        · exact absurd leads aside.notHeading
    | cons second deeper =>
        rw [if_pos rfl, Option.bind_some, RawSetting.nested]
        refine ⟨fun found same => ⟨_, (Option.some.inj same).symm⟩, ?_⟩
        change List.lookup key [(second, RawSetting.nested deeper value)] = _
        rw [RawSetting.lookup_cons, List.lookup_nil]
        by_cases isKey : key = second
        · subst isKey
          obtain rfl : deeper = [] := by
            rcases formed with ⟨other, otherKey, named⟩ | aside
            · rw [named.settingPath?] at leads
              simp only [Option.some.injEq, List.cons.injEq] at leads
              exact leads.2.2.symm
            · exact absurd leads (aside.notSetting _)
          rw [if_pos rfl, if_pos rfl, RawSetting.nested]
        · rw [if_neg isKey, if_neg fun same =>
            isKey (List.cons.inj (List.cons.inj same).2).1.symm]
  · rw [if_neg here, List.lookup_nil, if_neg fun same => here (List.cons.inj same).1.symm]
    exact ⟨by simp, rfl⟩

theorem contentOf?_concat (environment : List (String × String)) (entry : String × String) :
    contentOf? (environment ++ [entry]) heading key =
      (contentOf? environment heading key).or
        (if folded entry.1 = variableName heading key then some entry.2 else none) := by
  rw [contentOf?, List.find?_append, Option.map_or, contentOf?, List.find?_singleton]
  simp only [beq_iff_eq]
  split_ifs <;> rfl

theorem contentOf?_eq_none
    (others : ∀ entry ∈ environment, folded entry.1 ≠ variableName heading key) :
    contentOf? environment heading key = none := by
  rw [contentOf?, Option.map_eq_none_iff, List.find?_eq_none]
  intro entry member
  rw [beq_iff_eq]
  exact others entry member

/-- The layer of the environment has under a heading what the variables for it hold. -/
theorem layer_holds (formed : Formed heading key environment) (names : AreNames heading key) :
    ∃ members, layer environment = .table members ∧ Tidy (.table members) ∧
      HasTable members heading ∧
        within? members heading key = (contentOf? environment heading key).map read := by
  induction environment using List.reverseRecOn with
  | nil => exact ⟨[], rfl, .table List.nodup_nil (by simp), by simp [HasTable], rfl⟩
  | append_singleton done entry ih =>
      obtain ⟨distinctDone, -, distinct⟩ := List.pairwise_append.mp formed.distinct
      obtain ⟨members, layerEq, tidy, tables, holds⟩ :=
        ih ⟨fun other member => formed.each other (List.mem_append_left _ member), distinctDone⟩
      have entryFormed := formed.each entry (by simp)
      rw [layer, List.foldl_concat, ← layer, layerEq]
      simp only [contentOf?_concat, spelled_iff names entryFormed]
      cases leads : settingPath? entry.1 with
      | none => exact ⟨members, rfl, tidy, tables, by simp [holds]⟩
      | some path =>
          obtain ⟨first, rest, rfl⟩ := exists_cons_of_settingPath? leads
          have tidyNested := RawSetting.tidy_nested (first :: rest) (tidy_read entry.2)
          obtain ⟨nestedTables, nestedHolds⟩ := nested_holds entryFormed leads
          obtain ⟨mergedTables, mergedHolds⟩ :=
            RawSetting.within?_mergeMembers tables nestedTables tidyNested key
          refine ⟨_, RawSetting.merge_table _ _, ?_, mergedTables, ?_⟩
          · rw [← RawSetting.merge_table]
            exact tidyNested.merge tidy
          · rw [mergedHolds, nestedHolds, holds]
            simp only [Option.some.injEq]
            split_ifs with same
            · -- No variable before this one is for the same setting.
              have missing : contentOf? done heading key = none := by
                refine contentOf?_eq_none fun other member spelled => ?_
                have otherLeads := settingPath?_of_folded names spelled
                rw [same] at leads
                have aside := distinct other member entry (by simp)
                  (spelled.trans ((spelled_iff names entryFormed).mpr leads).symm)
                exact aside.notSetting [] otherLeads
              rw [missing, Option.map_none, RawSetting.none_joined]
              rfl
            · rw [RawSetting.joined_none, Option.or_none]

end Environment

end EditorLaunch
