import EditorLaunch.Json.Basic
import EditorLaunch.Proofs.Readers

/-!
# What records say

A record is read field by field, and a field that is found stands in the value
itself: under its name in an object, where that name stands once, or at its place
in an array.  `Json.Carries` says this of one field and `Json.Says` of a path of
fields, so that what a reader makes of a value can be traced back to the value.
-/

namespace EditorLaunch

namespace Json

/-- A value, taken as a record with these names, carries an item under a name. -/
inductive Carries (names : List String) (name : String) (item : Json) : Json → Prop where
  | member {members : List (Option String × Json)}
      (once : members.filter (·.1 == some name) = [(some name, item)]) :
      Carries names name item (.object members)
  | place {items : List Json} (stands : items[names.idxOf name]? = some item) :
      Carries names name item (.array items)

/-- A field of a record, with the names of all its fields in their order. -/
structure Field where
  names : List String
  name : String

/-- What a value says at the end of a path of fields has a property. -/
def Says : List Field → (Json → Prop) → Json → Prop
  | [], said, value => said value
  | field :: path, said, value =>
      ∃ item, Carries field.names field.name item value ∧ Says path said item

/-- Members whose names have texts are the named ones. -/
theorem eq_map_of_namedMembers?_eq_some {members : List (Option String × Json)}
    {named : List (String × Json)} (texts : namedMembers? members = some named) :
    members = named.map fun member => (some member.1, member.2) := by
  induction members generalizing named with
  | nil =>
      simp only [namedMembers?, List.mapM_nil, Option.pure_def, Option.some.injEq] at texts
      simp [← texts]
  | cons member rest ih =>
      obtain ⟨name?, value⟩ := member
      simp only [namedMembers?, List.mapM_cons, Option.bind_eq_bind,
        Option.bind_eq_some_iff, Option.pure_def, Option.some.injEq] at texts
      obtain ⟨head, headText, tail, tailTexts, rfl⟩ := texts
      obtain ⟨name, rfl, rfl⟩ := Option.map_eq_some_iff.mp headText
      rw [List.map_cons, ← ih tailTexts]

theorem eq_some_iff_of_uniqueMember?_eq_some {name : String}
    {named : List (String × Json)} {slot : Option Json}
    (found : uniqueMember? name named = some slot) (item : Json) :
    slot = some item ↔ named.filter (·.1 == name) = [(name, item)] := by
  unfold uniqueMember? at found
  split at found
  · rename_i absent
    simp [absent, ← Option.some.inj found]
  · rename_i otherName value once
    have same : otherName = name := by
      have member : (otherName, value) ∈ named.filter (·.1 == name) := by simp [once]
      simpa using (List.mem_filter.mp member).2
    simp [once, ← Option.some.inj found, same]
  · simp at found

/-- The members of one name are the same whether or not all names have texts. -/
theorem filter_map_eq_singleton_iff {name : String} {named : List (String × Json)}
    {item : Json} :
    (named.map fun member => ((some member.1 : Option String), member.2)).filter
        (·.1 == some name) = [(some name, item)] ↔
      named.filter (·.1 == name) = [(name, item)] := by
  have filtered : (named.map fun member => ((some member.1 : Option String), member.2)).filter
      (·.1 == some name) =
        (named.filter (·.1 == name)).map fun member => (some member.1, member.2) := by
    rw [List.filter_map]
    rfl
  rw [filtered, List.map_eq_singleton_iff]
  constructor
  · rintro ⟨⟨otherName, value⟩, once, same⟩
    simp only [Prod.mk.injEq, Option.some.injEq] at same
    rw [once, same.1, same.2]
  · intro once
    exact ⟨_, once, rfl⟩

/-- Slots that are filled up behind the items of an array hold nothing more. -/
theorem getElem?_filledUp_eq_some_iff (items : List Json) (missing index : Nat)
    (item : Json) :
    (items.map some ++ List.replicate missing none)[index]? = some (some item) ↔
      items[index]? = some item := by
  rcases Nat.lt_or_ge index items.length with inside | outside
  · simp [List.getElem?_append, inside]
  · rw [List.getElem?_append_right (by simpa using outside), List.getElem?_replicate,
      List.getElem?_eq_none outside]
    simp

/-- Reading a record finds in every slot what the value carries under its name. -/
theorem forall₂_of_fields?_eq_some {names : List String} (distinct : names.Nodup)
    {value : Json} {slots : List (Option Json)} (read : value.fields? names = some slots) :
    List.Forall₂ (fun name slot => ∀ item, slot = some item ↔ Carries names name item value)
      names slots := by
  cases value with
  | object members =>
      simp only [fields?, Option.bind_eq_bind, Option.bind_eq_some_iff] at read
      obtain ⟨named, texts, found⟩ := read
      refine (forall₂_of_mapM_eq_some found).imp ?_
      intro name slot unique item
      rw [eq_some_iff_of_uniqueMember?_eq_some unique, ← filter_map_eq_singleton_iff,
        ← eq_map_of_namedMembers?_eq_some texts]
      constructor
      · exact .member
      · intro carries
        cases carries with
        | member once => exact once
  | array items =>
      simp only [fields?] at read
      split at read
      · rename_i fits
        rw [Option.some.injEq] at read
        subst read
        rw [List.forall₂_iff_get]
        refine ⟨by simp [Nat.add_sub_cancel' fits], ?_⟩
        intro index inNames inSlots item
        have place : names.idxOf (names.get ⟨index, inNames⟩) = index :=
          distinct.idxOf_getElem index inNames
        have slot : (items.map some ++
            List.replicate (names.length - items.length) none)[index]? =
              some ((items.map some ++
                List.replicate (names.length - items.length) none).get ⟨index, inSlots⟩) :=
          List.getElem?_eq_getElem inSlots
        have filled := getElem?_filledUp_eq_some_iff items (names.length - items.length)
          index item
        rw [slot, Option.some.injEq] at filled
        rw [filled]
        constructor
        · intro stands
          exact .place (place.symm ▸ stands)
        · intro carries
          cases carries with
          | place stands => exact place ▸ stands
      · simp at read
  | _ => simp [fields?] at read

end Json

end EditorLaunch
