import EditorLaunch.Backend
import EditorLaunch.Proofs.Text.Order
import EditorLaunch.Proofs.Unicode.Lowercase
import Mathlib.Data.Finset.Card
import Mathlib.Data.Finset.Image

/-!
# Which spelling of an extension counts

A catalogue is built from a list whose keys may be spelled in several ways.  For each
extension one spelling decides: the one in lower case, or else the greatest one in the order
of octets.  The keys are sorted so that it is taken last, so the state after any part of the
sorted list is told by the last spelling of each extension in that part: it has been kept, and
each spelling but the first one has been reported.
-/

namespace EditorLaunch

namespace Catalogue

variable {entries others : List (String × EditorAddresses)}
  {extension key : String} {addresses : EditorAddresses}

/-- The value of a key in the map that a list describes, in which the last value counts. -/
def lastValue? (entries : List (String × EditorAddresses)) (key : String) :
    Option EditorAddresses :=
  entries.reverse.lookup key

/-- The spelling of an extension that decides what is found for it. -/
structure Decides (entries : List (String × EditorAddresses)) (extension key : String) :
    Prop where
  listed : key ∈ entries.map Prod.fst
  spells : lowercase key = lowercase extension
  wins : key = lowercase extension ∨
    lowercase extension ∉ entries.map Prod.fst ∧
      ∀ other ∈ entries.map Prod.fst, lowercase other = lowercase extension →
        Utf8.ofText other ≤ Utf8.ofText key

theorem Decides.unique {other : String} (decides : Decides entries extension key)
    (otherDecides : Decides entries extension other) : key = other := by
  rcases decides.wins with lower | ⟨noLower, greatest⟩
  · rcases otherDecides.wins with otherLower | ⟨noLower, -⟩
    · exact lower.trans otherLower.symm
    · exact absurd (lower ▸ decides.listed) noLower
  · rcases otherDecides.wins with otherLower | ⟨-, otherGreatest⟩
    · exact absurd (otherLower ▸ otherDecides.listed) noLower
    · exact String.le_antisymm
        (Utf8.ofText_le_ofText_iff.mp (otherGreatest key decides.listed decides.spells))
        (Utf8.ofText_le_ofText_iff.mp (greatest other otherDecides.listed otherDecides.spells))

theorem lastValue?_cons (entry : String × EditorAddresses) :
    lastValue? (entry :: entries) key =
      (lastValue? entries key).or (if key == entry.1 then some entry.2 else none) := by
  rw [lastValue?, lastValue?, List.reverse_cons, List.lookup_append]
  congr 1
  rw [List.lookup_cons, List.lookup_nil]
  cases key == entry.1 <;> rfl

theorem isSome_lastValue? :
    (lastValue? entries key).isSome ↔ key ∈ entries.map Prod.fst := by
  rw [lastValue?, Option.isSome_iff_ne_none, ne_eq, List.lookup_eq_none_iff]
  simp only [List.mem_reverse, bne_iff_ne, not_forall, not_not, List.mem_map]
  exact ⟨fun ⟨entry, member, same⟩ => ⟨entry, member, same.symm⟩,
    fun ⟨entry, member, same⟩ => ⟨entry, member, same.symm⟩⟩

theorem mem_lastOfEach_iff :
    (key, addresses) ∈ lastOfEach entries ↔ lastValue? entries key = some addresses := by
  induction entries with
  | nil => simp [lastOfEach, lastValue?]
  | cons entry rest ih =>
      obtain ⟨entryKey, value⟩ := entry
      rw [lastOfEach, lastValue?_cons]
      have listedIff : rest.any (·.1 == entryKey) = true ↔ (lastValue? rest entryKey).isSome := by
        rw [isSome_lastValue?]
        simp
      by_cases same : key = entryKey
      · obtain rfl := same
        split
        · rename_i again
          rw [ih]
          obtain ⟨kept, last⟩ := Option.isSome_iff_exists.mp (listedIff.mp again)
          rw [last, Option.some_or]
        · rename_i once
          have missing : lastValue? rest key = none := by
            rwa [listedIff, Option.not_isSome_iff_eq_none] at once
          rw [List.mem_cons, ih, missing]
          simp [eq_comm]
      · have keeps : (if (key == entryKey) = true then some value else none) = none := by
          rw [if_neg (by simpa using same)]
        rw [keeps, Option.or_none, ← ih]
        split
        · exact Iff.rfl
        · simp [same]

theorem mem_keys_lastOfEach :
    key ∈ (lastOfEach entries).map Prod.fst ↔ key ∈ entries.map Prod.fst := by
  rw [← @isSome_lastValue? entries, Option.isSome_iff_exists]
  simp only [List.mem_map, Prod.exists, exists_and_right, exists_eq_right, mem_lastOfEach_iff]

theorem nodup_keys_lastOfEach (entries : List (String × EditorAddresses)) :
    ((lastOfEach entries).map Prod.fst).Nodup := by
  induction entries with
  | nil => exact List.nodup_nil
  | cons entry rest ih =>
      obtain ⟨entryKey, value⟩ := entry
      rw [lastOfEach]
      split
      · exact ih
      · rename_i once
        refine List.nodup_cons.mpr ⟨?_, ih⟩
        rw [mem_keys_lastOfEach]
        simpa using once

theorem nodup_lastOfEach (entries : List (String × EditorAddresses)) :
    (lastOfEach entries).Nodup :=
  .of_map Prod.fst (nodup_keys_lastOfEach entries)

theorem comesBefore_iff {left right : String × EditorAddresses} :
    comesBefore left right = true ↔
      isLowercase left.1 = false ∧ isLowercase right.1 = true ∨
        isLowercase left.1 = isLowercase right.1 ∧ left.1 ≤ right.1 := by
  unfold comesBefore
  cases isLowercase left.1 <;> cases isLowercase right.1 <;> simp

theorem comesBefore_total (left right : String × EditorAddresses) :
    (comesBefore left right || comesBefore right left) = true := by
  rw [Bool.or_eq_true, comesBefore_iff, comesBefore_iff]
  have either := String.le_total left.1 right.1
  cases isLowercase left.1 <;> cases isLowercase right.1 <;> simp [either]

theorem comesBefore_refl (entry : String × EditorAddresses) : comesBefore entry entry = true :=
  comesBefore_iff.mpr (.inr ⟨rfl, String.le_refl _⟩)

theorem comesBefore_trans (first second third : String × EditorAddresses)
    (before : comesBefore first second = true) (behind : comesBefore second third = true) :
    comesBefore first third = true := by
  rw [comesBefore_iff] at *
  rcases before with ⟨firstUpper, secondLower⟩ | ⟨same, below⟩
  · rcases behind with ⟨secondUpper, -⟩ | ⟨same, -⟩
    · rw [secondLower] at secondUpper
      cases secondUpper
    · exact .inl ⟨firstUpper, same ▸ secondLower⟩
  · rcases behind with ⟨secondUpper, thirdLower⟩ | ⟨sameBehind, above⟩
    · exact .inl ⟨same.trans secondUpper, thirdLower⟩
    · exact .inr ⟨same.trans sameBehind, String.le_trans below above⟩

theorem comesBefore_antisymm {left right : String × EditorAddresses}
    (before : comesBefore left right = true) (behind : comesBefore right left = true) :
    left.1 = right.1 := by
  rw [comesBefore_iff] at *
  rcases before with ⟨leftUpper, rightLower⟩ | ⟨same, below⟩
  · rcases behind with ⟨rightUpper, -⟩ | ⟨same, -⟩
    · rw [rightLower] at rightUpper
      cases rightUpper
    · rw [leftUpper, rightLower] at same
      cases same
  · rcases behind with ⟨rightUpper, leftLower⟩ | ⟨-, above⟩
    · rw [leftLower, rightUpper] at same
      cases same
    · exact String.le_antisymm below above

/-- The keys of a list in the order in which they are taken, with their values. -/
def taken (entries : List (String × EditorAddresses)) : List (String × EditorAddresses) :=
  (lastOfEach entries).mergeSort comesBefore

theorem taken_perm (entries : List (String × EditorAddresses)) :
    (taken entries).Perm (lastOfEach entries) :=
  List.mergeSort_perm ..

theorem pairwise_taken (entries : List (String × EditorAddresses)) :
    (taken entries).Pairwise fun left right => comesBefore left right = true :=
  List.pairwise_mergeSort comesBefore_trans comesBefore_total _

theorem mem_taken_iff :
    (key, addresses) ∈ taken entries ↔ lastValue? entries key = some addresses := by
  rw [(taken_perm entries).mem_iff, mem_lastOfEach_iff]

theorem mem_keys_taken :
    key ∈ (taken entries).map Prod.fst ↔ key ∈ entries.map Prod.fst := by
  rw [((taken_perm entries).map Prod.fst).mem_iff, mem_keys_lastOfEach]

theorem nodup_keys_taken (entries : List (String × EditorAddresses)) :
    ((taken entries).map Prod.fst).Nodup :=
  ((taken_perm entries).map Prod.fst).nodup_iff.mpr (nodup_keys_lastOfEach entries)

theorem taken_eq_of_lastValue?_eq
    (same : ∀ key, lastValue? others key = lastValue? entries key) :
    taken others = taken entries := by
  have perm : (lastOfEach others).Perm (lastOfEach entries) := by
    refine (List.perm_ext_iff_of_nodup (nodup_lastOfEach _) (nodup_lastOfEach _)).mpr ?_
    rintro ⟨key, addresses⟩
    rw [mem_lastOfEach_iff, mem_lastOfEach_iff, same]
  refine List.Perm.eq_of_pairwise ?_ (pairwise_taken others) (pairwise_taken entries)
    ((taken_perm others).trans (perm.trans (taken_perm entries).symm))
  rintro ⟨key, addresses⟩ ⟨other, otherAddresses⟩ member otherMember before behind
  -- Two values of one key do not both stand among those that are taken.
  obtain rfl : key = other := comesBefore_antisymm before behind
  rw [mem_taken_iff] at member otherMember
  rw [← same, member] at otherMember
  rw [Option.some.inj otherMember]

/-- The entries of a list that spell an extension. -/
def spellings (entries : List (String × EditorAddresses)) (extension : String) :
    List (String × EditorAddresses) :=
  entries.filter (lowercase ·.1 == extension)

theorem mem_spellings_iff {entry : String × EditorAddresses} :
    entry ∈ spellings entries extension ↔ entry ∈ entries ∧ lowercase entry.1 = extension := by
  rw [spellings, List.mem_filter, beq_iff_eq]

theorem spellings_concat (entries : List (String × EditorAddresses))
    (entry : String × EditorAddresses) (extension : String) :
    spellings (entries ++ [entry]) extension =
      spellings entries extension ++ if lowercase entry.1 = extension then [entry] else [] := by
  rw [spellings, List.filter_append, spellings]
  by_cases same : lowercase entry.1 = extension
  · rw [if_pos same, List.filter_cons_of_pos (by simpa using same), List.filter_nil]
  · rw [if_neg same, List.filter_cons_of_neg (by simpa using same), List.filter_nil]

theorem comesBefore_getLast {last other : String × EditorAddresses}
    (isLast : (spellings (taken entries) extension).getLast? = some last)
    (member : other ∈ spellings (taken entries) extension) :
    comesBefore other last = true := by
  obtain ⟨before, split⟩ := List.getLast?_eq_some_iff.mp isLast
  have sorted : (spellings (taken entries) extension).Pairwise fun left right =>
      comesBefore left right = true := (pairwise_taken entries).filter _
  rw [split] at member sorted
  rcases List.mem_append.mp member with earlier | same
  · exact (List.pairwise_append.mp sorted).2.2 other earlier last List.mem_cons_self
  · rw [List.mem_singleton.mp same]
    exact comesBefore_refl last

theorem decides_of_last
    (isLast : (spellings (taken entries) (lowercase extension)).getLast? =
      some (key, addresses)) :
    Decides entries extension key := by
  obtain ⟨member, spells⟩ := mem_spellings_iff.mp (List.mem_of_getLast? isLast)
  have listed : ∀ {other}, other ∈ entries.map Prod.fst → lowercase other = lowercase extension →
      ∃ value, comesBefore (other, value) (key, addresses) = true := by
    intro other otherListed otherSpells
    obtain ⟨⟨_, value⟩, otherMember, rfl⟩ := List.mem_map.mp (mem_keys_taken.mpr otherListed)
    exact ⟨value, comesBefore_getLast isLast (mem_spellings_iff.mpr ⟨otherMember, otherSpells⟩)⟩
  refine ⟨mem_keys_taken.mp (List.mem_map_of_mem member), spells, ?_⟩
  by_cases lower : key = lowercase extension
  · exact .inl lower
  · have upper : isLowercase key = false := by
      rw [isLowercase, beq_eq_false_iff_ne, spells]
      exact lower
    refine .inr ⟨fun lowerListed => ?_, fun other otherListed otherSpells => ?_⟩
    · obtain ⟨value, before⟩ := listed lowerListed (lowercase_lowercase extension)
      have isLower : isLowercase (lowercase extension) = true := by
        rw [isLowercase, lowercase_lowercase, beq_self_eq_true]
      rw [comesBefore_iff, isLower, upper] at before
      rcases before with ⟨impossible, -⟩ | ⟨impossible, -⟩ <;> cases impossible
    · obtain ⟨value, before⟩ := listed otherListed otherSpells
      rw [comesBefore_iff, upper] at before
      rcases before with ⟨-, impossible⟩ | ⟨-, below⟩
      · cases impossible
      · exact Utf8.ofText_le_ofText_iff.mpr below

theorem spellings_taken_ne_nil_iff :
    spellings (taken entries) (lowercase extension) ≠ [] ↔
      ∃ key ∈ entries.map Prod.fst, lowercase key = lowercase extension := by
  constructor
  · intro filled
    obtain ⟨entry, member⟩ := List.exists_mem_of_ne_nil _ filled
    obtain ⟨entryMember, spells⟩ := mem_spellings_iff.mp member
    exact ⟨entry.1, mem_keys_taken.mp (List.mem_map_of_mem entryMember), spells⟩
  · rintro ⟨key, listed, spells⟩
    obtain ⟨entry, member, rfl⟩ := List.mem_map.mp (mem_keys_taken.mpr listed)
    exact List.ne_nil_of_mem (mem_spellings_iff.mpr ⟨member, spells⟩)

/-- The state after keys have been taken: the last spelling of each extension has been kept,
and each but the first one has been reported. -/
structure Tells (done : List (String × EditorAddresses))
    (state : Catalogue × List Collision) : Prop where
  nodup : (state.1.entries.map Prod.fst).Nodup
  kept : ∀ extension, state.1.entries.lookup extension =
    (spellings done extension).getLast?.map Prod.snd
  reported : ∀ extension, state.2.filter (·.extension == extension) =
    (spellings done extension).tail.map fun entry => ⟨extension, entry.1⟩
  counted : state.2.length + state.1.size = done.length

variable {done : List (String × EditorAddresses)} {state : Catalogue × List Collision}

theorem Tells.isTaken_iff (tells : Tells done state) :
    extension ∈ state.1.entries.map Prod.fst ↔ spellings done extension ≠ [] := by
  have missing : state.1.entries.lookup extension = none ↔
      extension ∉ state.1.entries.map Prod.fst := by
    rw [List.lookup_eq_none_iff]
    simp only [bne_iff_ne, List.mem_map, not_exists, not_and]
    exact ⟨fun differ entry member same => differ entry member same.symm,
      fun differ entry member same => differ entry member same.symm⟩
  rw [← not_iff_not, ← missing, tells.kept, Option.map_eq_none_iff, List.getLast?_eq_none_iff,
    not_not]

theorem any_extension_iff :
    state.1.entries.any (·.1 == extension) = true ↔
      extension ∈ state.1.entries.map Prod.fst := by
  simp

theorem lookup_filter_ne {other : String} (differ : other ≠ extension)
    (entries : List (String × EditorAddresses)) :
    (entries.filter (·.1 != extension)).lookup other = entries.lookup other := by
  induction entries with
  | nil => rfl
  | cons entry rest ih =>
      by_cases same : entry.1 = extension
      · rw [List.filter_cons_of_neg (by simpa using same), ih, List.lookup_cons,
          beq_eq_false_iff_ne.mpr fun equal => differ (equal.trans same)]
      · rw [List.filter_cons_of_pos (by simpa using same), List.lookup_cons, List.lookup_cons, ih]

theorem length_filter_ne (nodup : (entries.map Prod.fst).Nodup) (extension : String) :
    (entries.filter (·.1 != extension)).length +
      (if extension ∈ entries.map Prod.fst then 1 else 0) = entries.length := by
  have counted := entries.length_eq_length_filter_add (·.1 != extension)
  have once : (entries.filter fun entry => !(entry.1 != extension)).length =
      if extension ∈ entries.map Prod.fst then 1 else 0 := by
    rw [← nodup.count, List.count, List.countP_map, List.countP_eq_length_filter]
    congr 2
    funext entry
    simp [bne]
  omega

theorem Tells.take (tells : Tells done state) (entry : String × EditorAddresses) :
    Tells (done ++ [entry]) (take state entry) := by
  have replaces : state.1.entries.any (·.1 == lowercase entry.1) = true ↔
      spellings done (lowercase entry.1) ≠ [] :=
    any_extension_iff.trans tells.isTaken_iff
  refine ⟨?_, fun extension => ?_, fun extension => ?_, ?_⟩
  · refine List.nodup_cons.mpr ⟨?_, ?_⟩
    · simp
    · exact tells.nodup.sublist (List.filter_sublist.map Prod.fst)
  · rw [spellings_concat]
    by_cases same : lowercase entry.1 = extension
    · rw [if_pos same, List.getLast?_concat, Option.map_some, Catalogue.take, set,
        List.lookup_cons, beq_iff_eq.mpr same.symm]
    · rw [if_neg same, List.append_nil, ← tells.kept, Catalogue.take, set, List.lookup_cons,
        beq_eq_false_iff_ne.mpr (Ne.symm same)]
      exact lookup_filter_ne (Ne.symm same) _
  · rw [spellings_concat, Catalogue.take]
    by_cases same : lowercase entry.1 = extension
    · obtain rfl := same
      rw [if_pos rfl, List.tail_append]
      by_cases again : spellings done (lowercase entry.1) = []
      · rw [if_neg (mt replaces.mp (not_not.mpr again)), tells.reported, again]
        rfl
      · rw [if_pos (replaces.mpr again), if_neg (by simpa using again), List.filter_append,
          tells.reported, List.map_append]
        simp
    · rw [if_neg same, List.append_nil, ← tells.reported]
      split
      · rw [List.filter_append, List.filter_cons_of_neg (by simpa using same), List.filter_nil,
          List.append_nil]
      · rfl
  · have counted := tells.counted
    have removed := length_filter_ne tells.nodup (lowercase entry.1)
    rw [Catalogue.take, size, set, List.length_cons, List.length_append, List.length_singleton]
    rw [size] at counted
    by_cases again : lowercase entry.1 ∈ state.1.entries.map Prod.fst
    · rw [if_pos again] at removed
      rw [if_pos (any_extension_iff.mpr again), List.length_append, List.length_singleton]
      omega
    · rw [if_neg again] at removed
      rw [if_neg (mt any_extension_iff.mp again)]
      change state.2.length + _ = _
      omega

theorem tells_foldl (done : List (String × EditorAddresses)) :
    Tells done (done.foldl take (empty, [])) := by
  induction done using List.reverseRecOn with
  | nil => exact ⟨List.nodup_nil, fun _ => rfl, fun _ => rfl, rfl⟩
  | append_singleton done entry ih =>
      rw [List.foldl_concat]
      exact ih.take entry

theorem tells_ofEntries (entries : List (String × EditorAddresses)) :
    Tells (taken entries) (ofEntries entries) :=
  tells_foldl (taken entries)

theorem find?_ofEntries (entries : List (String × EditorAddresses)) (extension : String) :
    (ofEntries entries).1.find? extension =
      (spellings (taken entries) (lowercase extension)).getLast?.map Prod.snd :=
  (tells_ofEntries entries).kept _

theorem find?_ofEntries_eq_some_iff :
    (ofEntries entries).1.find? extension = some addresses ↔
      ∃ key, Decides entries extension key ∧ lastValue? entries key = some addresses := by
  rw [find?_ofEntries]
  constructor
  · intro found
    obtain ⟨⟨key, value⟩, isLast, rfl⟩ := Option.map_eq_some_iff.mp found
    exact ⟨key, decides_of_last isLast,
      mem_taken_iff.mp (mem_spellings_iff.mp (List.mem_of_getLast? isLast)).1⟩
  · rintro ⟨key, decides, value⟩
    have filled := spellings_taken_ne_nil_iff.mpr ⟨key, decides.listed, decides.spells⟩
    obtain ⟨⟨last, lastAddresses⟩, isLast⟩ :=
      Option.ne_none_iff_exists'.mp (mt List.getLast?_eq_none_iff.mp filled)
    obtain rfl : key = last := decides.unique (decides_of_last isLast)
    have lastOf := mem_taken_iff.mp (mem_spellings_iff.mp (List.mem_of_getLast? isLast)).1
    rw [isLast, Option.map_some, ← lastOf, value]

theorem find?_ofEntries_eq_none_iff :
    (ofEntries entries).1.find? extension = none ↔
      ∀ key ∈ entries.map Prod.fst, lowercase key ≠ lowercase extension := by
  rw [find?_ofEntries, Option.map_eq_none_iff, List.getLast?_eq_none_iff, ← not_ne_iff,
    spellings_taken_ne_nil_iff]
  simp

theorem size_ofEntries (entries : List (String × EditorAddresses)) :
    (ofEntries entries).1.size = (entries.map fun entry => lowercase entry.1).toFinset.card := by
  have tells := tells_ofEntries entries
  rw [size, ← List.length_map Prod.fst, ← List.toFinset_card_of_nodup tells.nodup]
  congr 1
  ext extension
  rw [List.mem_toFinset, tells.isTaken_iff, List.mem_toFinset, List.mem_map]
  constructor
  · intro filled
    obtain ⟨entry, member⟩ := List.exists_mem_of_ne_nil _ filled
    obtain ⟨entryMember, rfl⟩ := mem_spellings_iff.mp member
    obtain ⟨origin, originMember, same⟩ :=
      List.mem_map.mp (mem_keys_taken.mp (List.mem_map_of_mem entryMember))
    exact ⟨origin, originMember, by rw [same]⟩
  · rintro ⟨entry, member, rfl⟩
    exact spellings_taken_ne_nil_iff.mpr ⟨entry.1, List.mem_map_of_mem member, rfl⟩

theorem card_keys (entries : List (String × EditorAddresses)) :
    (entries.map Prod.fst).toFinset.card = (taken entries).length := by
  rw [← List.length_map Prod.fst, ← List.toFinset_card_of_nodup (nodup_keys_taken entries)]
  congr 1
  ext key
  rw [List.mem_toFinset, List.mem_toFinset, mem_keys_taken]

theorem decides_of_last_reported {collision : Collision}
    (isLast : ((ofEntries entries).2.filter (·.extension == lowercase extension)).getLast? =
      some collision) :
    Decides entries extension collision.kept := by
  rw [(tells_ofEntries entries).reported, List.getLast?_map, List.getLast?_tail] at isLast
  split at isLast
  · cases isLast
  · obtain ⟨⟨key, value⟩, last, rfl⟩ := Option.map_eq_some_iff.mp isLast
    exact decides_of_last last

theorem card_spellings (entries : List (String × EditorAddresses)) (extension : String) :
    ((entries.map Prod.fst).toFinset.filter (lowercase · = lowercase extension)).card =
      (spellings (taken entries) (lowercase extension)).length := by
  have nodup : ((spellings (taken entries) (lowercase extension)).map Prod.fst).Nodup :=
    (nodup_keys_taken entries).sublist (List.filter_sublist.map Prod.fst)
  rw [← List.length_map Prod.fst, ← List.toFinset_card_of_nodup nodup]
  congr 1
  ext key
  rw [Finset.mem_filter, List.mem_toFinset, List.mem_toFinset, ← mem_keys_taken]
  simp only [List.mem_map, mem_spellings_iff]
  constructor
  · rintro ⟨⟨entry, member, rfl⟩, spells⟩
    exact ⟨entry, ⟨member, spells⟩, rfl⟩
  · rintro ⟨entry, ⟨member, spells⟩, rfl⟩
    exact ⟨⟨entry, member, rfl⟩, spells⟩

/-- What is found for an extension is the value of the spelling that decides, and nothing only
if it is not listed in any spelling.  Extensions are counted once, each further spelling is
reported, and the last one that is reported for an extension decides.  The case of what is
looked up does not matter, nor does the order of the list beyond the last value of each key. -/
theorem ofEntries_keeps_deciding_spelling (entries : List (String × EditorAddresses)) :
    (∀ extension addresses, (ofEntries entries).1.find? extension = some addresses ↔
      ∃ key, Decides entries extension key ∧ lastValue? entries key = some addresses) ∧
    (∀ extension, (ofEntries entries).1.find? extension = none ↔
      ∀ key ∈ entries.map Prod.fst, lowercase key ≠ lowercase extension) ∧
    (ofEntries entries).1.size =
      (entries.map fun entry => lowercase entry.1).toFinset.card ∧
    (reportCollisions (ofEntries entries).2 : Traced Outgoing Unit).steps.length +
      (ofEntries entries).1.size = (entries.map Prod.fst).toFinset.card ∧
    (∀ extension, ((ofEntries entries).2.filter (·.extension == lowercase extension)).length =
      ((entries.map Prod.fst).toFinset.filter (lowercase · = lowercase extension)).card - 1) ∧
    (∀ extension collision,
      ((ofEntries entries).2.filter (·.extension == lowercase extension)).getLast? =
        some collision → Decides entries extension collision.kept) ∧
    (∀ extension, (ofEntries entries).1.find? extension =
      (ofEntries entries).1.find? (lowercase extension)) ∧
    (∀ metadata : Metadata, (ofEntries entries).1.find? metadata.extension =
      (ofEntries entries).1.find? (Path.extension metadata.path)) ∧
    ∀ others, (∀ key, lastValue? others key = lastValue? entries key) →
      ofEntries others = ofEntries entries := by
  have anyCase : ∀ extension, (ofEntries entries).1.find? extension =
      (ofEntries entries).1.find? (lowercase extension) := fun extension => by
    rw [find?, find?, lowercase_lowercase]
  refine ⟨fun _ _ => find?_ofEntries_eq_some_iff, fun _ => find?_ofEntries_eq_none_iff,
    size_ofEntries entries, ?_, fun extension => ?_, fun _ _ => decides_of_last_reported,
    anyCase, fun metadata => (anyCase _).symm, fun others same => ?_⟩
  · rw [reportCollisions, List.length_map, card_keys, (tells_ofEntries entries).counted]
  · rw [(tells_ofEntries entries).reported, List.length_map, List.length_tail, card_spellings]
  · have same := taken_eq_of_lastValue?_eq same
    rw [taken, taken] at same
    rw [ofEntries, ofEntries, same]

end Catalogue

end EditorLaunch
