import EditorLaunch.Settings.Value
import Mathlib.Data.List.Nodup
import Mathlib.Tactic.SplitIfs

/-!
# Tables put together

In a tidy tree each name of a table stands once and nothing is missing.  Putting two tidy
trees together gives a tidy one, and what is found under a name then depends only on what
either of them has under that name.
-/

namespace EditorLaunch

namespace RawSetting

variable {name other : String} {value below above : RawSetting}
  {members found : List (String × RawSetting)}

/-- A tree without missing values, in whose tables each name stands once.  Lists are never
put together, so it does not matter what they hold. -/
inductive Tidy : RawSetting → Prop
  | flag (value : Bool) : Tidy (.flag value)
  | integer (value : Int) : Tidy (.integer value)
  | float (value : Float) : Tidy (.float value)
  | letter (value : Char) : Tidy (.letter value)
  | text (value : String) : Tidy (.text value)
  | list (items : List RawSetting) : Tidy (.list items)
  | table {members : List (String × RawSetting)} (once : (members.map Prod.fst).Nodup)
      (each : ∀ member ∈ members, Tidy member.2) : Tidy (.table members)

theorem tidy_table_iff :
    Tidy (.table members) ↔
      (members.map Prod.fst).Nodup ∧ ∀ member ∈ members, Tidy member.2 := by
  constructor
  · intro tidy
    cases tidy with
    | table once each => exact ⟨once, each⟩
  · exact fun ⟨once, each⟩ => .table once each

theorem mem_of_lookup (reached : members.lookup name = some value) : (name, value) ∈ members := by
  obtain ⟨before, behind, rfl, -⟩ := List.lookup_eq_some_iff.mp reached
  simp

theorem lookup_eq_none (missing : name ∉ members.map Prod.fst) : members.lookup name = none := by
  rw [List.lookup_eq_none_iff]
  intro member inMembers
  rw [bne_iff_ne]
  rintro rfl
  exact missing (List.mem_map_of_mem inMembers)

theorem lookup_eq_some_iff (once : (members.map Prod.fst).Nodup) :
    members.lookup name = some value ↔ (name, value) ∈ members := by
  refine ⟨mem_of_lookup, fun member => ?_⟩
  obtain ⟨before, behind, rfl⟩ := List.append_of_mem member
  refine List.lookup_eq_some_iff.mpr ⟨before, behind, rfl, fun other inBefore => ?_⟩
  rw [List.map_append, List.nodup_append] at once
  rw [bne_iff_ne]
  exact Ne.symm (once.2.2 _ (List.mem_map_of_mem inBefore) name List.mem_cons_self)

theorem lookup_perm (perm : found.Perm members) (once : (members.map Prod.fst).Nodup)
    (name : String) : found.lookup name = members.lookup name := by
  have foundOnce := (perm.map Prod.fst).nodup_iff.mpr once
  refine Option.ext fun value => ?_
  rw [lookup_eq_some_iff once, lookup_eq_some_iff foundOnce, perm.mem_iff]

theorem Tidy.of_lookup (tidy : Tidy (.table members))
    (reached : members.lookup name = some value) : Tidy value :=
  (tidy_table_iff.mp tidy).2 _ (mem_of_lookup reached)

theorem lookup_cons (members : List (String × RawSetting)) :
    ((name, value) :: members).lookup other =
      if other = name then some value else members.lookup other := by
  rw [List.lookup_cons]
  by_cases same : other = name
  · rw [if_pos same, beq_iff_eq.mpr same]
  · rw [if_neg same, beq_eq_false_iff_ne.mpr same]

theorem lookup_put (members : List (String × RawSetting)) :
    (put name value members).lookup other =
      if other = name then some value else members.lookup other := by
  induction members with
  | nil => rw [put, lookup_cons]
  | cons member rest ih =>
      obtain ⟨first, old⟩ := member
      rw [put, lookup_cons]
      by_cases here : first = name
      · rw [if_pos here, lookup_cons, here]
        split_ifs <;> rfl
      · rw [if_neg here, lookup_cons, ih]
        split_ifs with same isName
        · exact absurd (same.symm.trans isName) here
        all_goals rfl

theorem mem_put {member : String × RawSetting} (reached : member ∈ put name value members) :
    member = (name, value) ∨ member ∈ members := by
  induction members with
  | nil => exact .inl (List.mem_singleton.mp reached)
  | cons first rest ih =>
      rw [put] at reached
      split at reached
      · rcases List.mem_cons.mp reached with here | later
        · exact .inl here
        · exact .inr (List.mem_cons_of_mem _ later)
      · rcases List.mem_cons.mp reached with here | later
        · exact .inr (here ▸ List.mem_cons_self)
        · exact (ih later).imp_right (List.mem_cons_of_mem _)

theorem nodup_put (once : (members.map Prod.fst).Nodup) :
    ((put name value members).map Prod.fst).Nodup := by
  induction members with
  | nil => exact List.nodup_singleton name
  | cons first rest ih =>
      obtain ⟨missing, restOnce⟩ := List.nodup_cons.mp once
      rw [put]
      split
      · rename_i here
        exact List.nodup_cons.mpr ⟨here ▸ missing, restOnce⟩
      · rename_i differ
        refine List.nodup_cons.mpr ⟨fun again => ?_, ih restOnce⟩
        obtain ⟨member, reached, same⟩ := List.mem_map.mp again
        rcases mem_put reached with rfl | inRest
        · exact differ same.symm
        · exact missing (same ▸ List.mem_map_of_mem inRest)

theorem tidy_put (tidy : Tidy (.table members)) (tidyValue : Tidy value) :
    Tidy (.table (put name value members)) := by
  obtain ⟨once, each⟩ := tidy_table_iff.mp tidy
  refine .table (nodup_put once) fun member reached => ?_
  rcases mem_put reached with rfl | inMembers
  · exact tidyValue
  · exact each member inMembers

/-- What two tables have together under a name. -/
def joined : Option RawSetting → Option RawSetting → Option RawSetting
  | some below, some above => some (below.merge above)
  | below?, above? => above?.or below?

theorem none_joined (above? : Option RawSetting) : joined none above? = above? := by
  cases above? <;> rfl

theorem joined_none (below? : Option RawSetting) : joined below? none = below? := by
  cases below? <;> rfl

theorem merge_table (members found : List (String × RawSetting)) :
    merge (.table members) (.table found) = .table (mergeMembers members found) := by
  rw [merge]

theorem lookup_mergeMembers (once : (found.map Prod.fst).Nodup)
    (members : List (String × RawSetting)) :
    (mergeMembers members found).lookup name =
      joined (members.lookup name) (found.lookup name) := by
  induction found generalizing members with
  | nil =>
      rw [mergeMembers, List.lookup_nil, joined_none]
  | cons first rest ih =>
      obtain ⟨other, value⟩ := first
      obtain ⟨missing, restOnce⟩ := List.nodup_cons.mp once
      rw [mergeMembers, ih restOnce, lookup_put, lookup_cons]
      by_cases same : name = other
      · subst same
        rw [if_pos rfl, if_pos rfl, lookup_eq_none missing]
        cases members.lookup name <;> rfl
      · rw [if_neg same, if_neg same]

theorem tidy_mergeMembers (tidy : Tidy (.table members))
    (merges : ∀ member ∈ found, Tidy member.2 ∧
      ∀ below, Tidy below → Tidy (below.merge member.2)) :
    Tidy (.table (mergeMembers members found)) := by
  induction found generalizing members with
  | nil =>
      rw [mergeMembers]
      exact tidy
  | cons first rest ih =>
      obtain ⟨name, value⟩ := first
      obtain ⟨⟨tidyValue, mergesValue⟩, restMerges⟩ := List.forall_mem_cons.mp merges
      rw [mergeMembers]
      refine ih (tidy_put tidy ?_) restMerges
      split
      · rename_i old reached
        exact mergesValue old (tidy.of_lookup reached)
      · exact tidyValue

theorem Tidy.merge (tidyAbove : Tidy above) (tidyBelow : Tidy below) :
    Tidy (below.merge above) := by
  induction tidyAbove generalizing below with
  | table once each ih =>
      have merges := fun member reached => And.intro (each member reached)
        fun below => @ih member reached below
      cases tidyBelow with
      | table oldOnce oldEach =>
          rw [merge_table]
          exact tidy_mergeMembers (.table oldOnce oldEach) merges
      | _ =>
          rw [RawSetting.merge]
          · exact .table once each
          · simp
  | _ =>
      rw [RawSetting.merge]
      · constructor
      · simp

/-- What stands under a name within a table that has a heading. -/
def within? (members : List (String × RawSetting)) (heading key : String) :
    Option RawSetting :=
  (members.lookup heading).bind fun found => found.members.lookup key

theorem Tidy.of_within? {heading key : String} (tidy : Tidy (.table members))
    (reached : within? members heading key = some value) : Tidy value := by
  obtain ⟨found, foundEq, reached⟩ := Option.bind_eq_some_iff.mp reached
  cases found with
  | table inner => exact (tidy.of_lookup foundEq).of_lookup reached
  | _ => cases reached

/-- Nothing but a table stands under a heading. -/
def HasTable (members : List (String × RawSetting)) (heading : String) : Prop :=
  ∀ found, members.lookup heading = some found → ∃ inner, found = .table inner

instance (members : List (String × RawSetting)) (heading : String) :
    Decidable (HasTable members heading) :=
  match reached : members.lookup heading with
  | none => .isTrue fun _ same => absurd (reached.symm.trans same) (by simp)
  | some (table inner) =>
      .isTrue fun _ same => ⟨inner, Option.some.inj (same.symm.trans reached)⟩
  | some nothing | some (flag _) | some (integer _) | some (float _) | some (letter _)
  | some (text _) | some (list _) => .isFalse fun tables => by
      obtain ⟨inner, same⟩ := tables _ reached
      cases same

theorem within?_mergeMembers {heading : String} (tables : HasTable members heading)
    (foundTables : HasTable found heading) (tidy : Tidy (.table found)) (key : String) :
    HasTable (mergeMembers members found) heading ∧
      within? (mergeMembers members found) heading key =
        joined (within? members heading key) (within? found heading key) := by
  obtain ⟨once, each⟩ := tidy_table_iff.mp tidy
  unfold HasTable within? at *
  rw [lookup_mergeMembers once]
  cases foundEq : found.lookup heading with
  | none =>
      rw [joined_none, Option.bind_none, joined_none]
      exact ⟨tables, rfl⟩
  | some above =>
      obtain ⟨inner, rfl⟩ := foundTables above foundEq
      obtain ⟨innerOnce, -⟩ := tidy_table_iff.mp (tidy.of_lookup foundEq)
      cases membersEq : members.lookup heading with
      | none =>
          rw [none_joined, Option.bind_none, none_joined, ← foundEq]
          exact ⟨foundTables, rfl⟩
      | some below =>
          obtain ⟨outer, rfl⟩ := tables below membersEq
          simp only [joined, merge_table, Option.some.injEq, Option.bind_some]
          exact ⟨fun other same => ⟨_, same.symm⟩, lookup_mergeMembers innerOnce outer⟩

theorem tidy_nested (path : List String) (tidy : Tidy value) : Tidy (nested path value) := by
  induction path with
  | nil => exact tidy
  | cons name rest ih => exact .table (List.nodup_singleton name) (by simpa using ih)

end RawSetting

end EditorLaunch
