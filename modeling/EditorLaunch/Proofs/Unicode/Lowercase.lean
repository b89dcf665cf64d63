import EditorLaunch.Unicode.Lowercase
import Mathlib

/-!
# Lower case is settled

Lower-casing a text twice comes to the same as doing it once.  What a character becomes is
outside of the mapping, and no capital sigma, so it is left as it is whatever stands around
it.  That the mapping leads out of itself is a matter of comparing its entries in pairs: the
run of characters that one of them leads to and the run that the other one covers lie
apart, or take turns.
-/

namespace EditorLaunch

namespace CodeEntry

variable {entry other : CodeEntry} {code : Nat}

/-- Whether two entries can be seen to be such that the first one leads to nothing that the
second one covers. -/
def leavesAlone (entry other : CodeEntry) : Bool :=
  match entry.image with
  | [target] =>
      target + (entry.last - entry.first) < other.first || other.last < target ||
        ((entry.step == 2 || entry.first == entry.last) && other.step == 2 &&
          (target + other.first) % 2 == 1)
  | image => image.all fun reached => !other.covers reached

theorem covers_eq_true_iff :
    entry.covers code = true ↔ entry.first ≤ code ∧ code ≤ entry.last ∧
      (entry.step = 0 ∨ (code - entry.first) % entry.step = 0) := by
  simp [covers, and_assoc]

theorem apply_of_singleton {target : Nat} (single : entry.image = [target]) :
    entry.apply code = [if entry.step = 0 then target else target + (code - entry.first)] := by
  unfold apply
  rw [single]
  cases step : entry.step with
  | zero => rfl
  | succ rest =>
      rw [if_neg rest.succ_ne_zero]
      rfl

theorem apply_of_not_singleton (several : ∀ target, entry.image ≠ [target]) :
    entry.apply code = entry.image := by
  unfold apply
  split
  · rfl
  · rename_i imageEq _
    exact absurd imageEq (several _)
  · rfl

theorem mem_apply_of_singleton {target reached : Nat} (single : entry.image = [target])
    (covered : entry.covers code = true) (member : reached ∈ entry.apply code) :
    target ≤ reached ∧ reached ≤ target + (entry.last - entry.first) ∧
      (entry.step = 2 ∨ entry.first = entry.last → (reached - target) % 2 = 0) := by
  obtain ⟨above, below, steps⟩ := covers_eq_true_iff.mp covered
  rw [apply_of_singleton single, List.mem_singleton] at member
  split at member
  · omega
  · refine ⟨by omega, by omega, ?_⟩
    rintro (isTwo | alone)
    · rw [isTwo] at steps
      omega
    · omega

theorem covers_of_leavesAlone {reached : Nat} (alone : entry.leavesAlone other = true)
    (covered : entry.covers code = true) (member : reached ∈ entry.apply code) :
    other.covers reached = false := by
  rw [← Bool.not_eq_true, covers_eq_true_iff]
  rintro ⟨above, below, steps⟩
  unfold leavesAlone at alone
  split at alone
  · rename_i target single
    obtain ⟨fromTarget, toLast, even⟩ := mem_apply_of_singleton single covered member
    simp only [Bool.or_eq_true, Bool.and_eq_true, decide_eq_true_eq, beq_iff_eq] at alone
    rcases alone with (before | behind) | ⟨⟨turning, otherTwo⟩, turns⟩
    · omega
    · omega
    · have even := even turning
      rw [otherTwo] at steps
      omega
  · rename_i several
    rw [apply_of_not_singleton several] at member
    have missed := List.all_eq_true.mp alone reached member
    rw [Bool.not_eq_true', ← Bool.not_eq_true, covers_eq_true_iff] at missed
    exact missed ⟨above, below, steps⟩

end CodeEntry

namespace CodeTable

variable {table : CodeTable}

theorem mem_of_find? {code : Nat} {entry : CodeEntry} (found : table.find? code = some entry) :
    entry ∈ table.entries.toList ∧ entry.covers code = true := by
  unfold find? at found
  split at found
  · cases found
  · obtain ⟨reached, covers⟩ := Option.filter_eq_some_iff.mp found
    exact ⟨Array.mem_toList_iff.mpr (Array.mem_of_getElem? reached), covers⟩

theorem image?_eq_none {character : Char}
    (missed : ∀ entry ∈ table.entries.toList, entry.covers character.toNat = false) :
    table.image? character = none := by
  cases found : table.find? character.toNat with
  | none => rw [image?, found, Option.map_none]
  | some entry =>
      obtain ⟨member, covers⟩ := mem_of_find? found
      rw [missed entry member] at covers
      cases covers

/-- The entries of a table that is written in these letters. -/
def entriesOf (letters : List Char) : List CodeEntry :=
  ((letters.splitOnP isGap).filter (!·.isEmpty)).map CodeEntry.ofWord

theorem toList_ofText (letters : List Char) :
    (ofText (String.ofList letters)).entries.toList = entriesOf letters := by
  rw [ofText, String.toList_ofList, Array.toList_map]
  rfl

end CodeTable

namespace Lowercase

/-- What is checked of the entries of the mapping: they lead out of it, but not to the
character zero, and it covers the capital sigma but not the small ones. -/
def isSettled (entries : List CodeEntry) : Bool :=
  entries.all (fun entry => entries.all entry.leavesAlone) &&
    entries.all (fun entry => !entry.covers 0 && !entry.covers 0x3C2 && !entry.covers 0x3C3) &&
    entries.any (·.covers 0x3A3)

set_option maxRecDepth 100000 in
theorem isSettled_mapping : isSettled mapping.entries.toList = true := by
  have written : ∃ letters, mapping.entries.toList = CodeTable.entriesOf letters ∧
      isSettled (CodeTable.entriesOf letters) = true :=
    ⟨_, CodeTable.toList_ofText _, by decide +kernel⟩
  obtain ⟨letters, entries, settled⟩ := written
  rw [entries]
  exact settled

/-- A character that is left as it is, whatever stands around it. -/
def Settled (character : Char) : Prop :=
  character ≠ capitalSigma ∧ mapping.image? character = none

theorem character_of_settled {current : Char} (settled : Settled current)
    (before behind : List Char) : character before current behind = [current] := by
  rw [character, if_neg settled.1, settled.2, Option.getD_none]

theorem text_of_settled {characters : List Char}
    (settled : ∀ current ∈ characters, Settled current) (before : List Char) :
    text before characters = characters := by
  induction characters generalizing before with
  | nil => rfl
  | cons current behind ih =>
      rw [text, character_of_settled (settled current List.mem_cons_self),
        ih fun other member => settled other (List.mem_cons_of_mem _ member), List.singleton_append]

theorem settled_of_not_covered {current : Char}
    (missed : ∀ entry ∈ mapping.entries.toList, entry.covers current.toNat = false) :
    Settled current := by
  refine ⟨?_, CodeTable.image?_eq_none missed⟩
  rintro rfl
  have checked := isSettled_mapping
  simp only [isSettled, Bool.and_eq_true, List.any_eq_true] at checked
  obtain ⟨-, entry, member, covers⟩ := checked
  exact Bool.false_ne_true ((missed entry member).symm.trans covers)

theorem not_covered_plain {entry : CodeEntry} (member : entry ∈ mapping.entries.toList) :
    entry.covers 0 = false ∧ entry.covers 0x3C2 = false ∧ entry.covers 0x3C3 = false := by
  have checked := isSettled_mapping
  simp only [isSettled, Bool.and_eq_true, List.all_eq_true, Bool.not_eq_true'] at checked
  obtain ⟨⟨-, plain⟩, -⟩ := checked
  obtain ⟨⟨zero, final⟩, sigma⟩ := plain entry member
  exact ⟨zero, final, sigma⟩

theorem settled_of_mem_image {current reached : Char} {image : List Char}
    (found : mapping.image? current = some image) (member : reached ∈ image) :
    Settled reached := by
  have checked := isSettled_mapping
  simp only [isSettled, Bool.and_eq_true, List.all_eq_true] at checked
  obtain ⟨⟨alone, -⟩, -⟩ := checked
  obtain ⟨entry, here, rfl⟩ := Option.map_eq_some_iff.mp found
  obtain ⟨entryMember, covered⟩ := CodeTable.mem_of_find? here
  obtain ⟨code, codeMember, rfl⟩ := List.mem_map.mp member
  refine settled_of_not_covered fun other otherMember => ?_
  -- A number that is no code point becomes the character zero.
  rw [Char.toNat_ofNat]
  split
  · exact CodeEntry.covers_of_leavesAlone (alone entry entryMember other otherMember) covered
      codeMember
  · exact (not_covered_plain otherMember).1

theorem settled_of_mem_character {before behind : List Char} {current reached : Char}
    (member : reached ∈ character before current behind) : Settled reached := by
  unfold character at member
  split at member
  · refine settled_of_not_covered fun other otherMember => ?_
    obtain ⟨-, final, sigma⟩ := not_covered_plain otherMember
    split at member
    · obtain rfl := List.mem_singleton.mp member
      exact final
    · obtain rfl := List.mem_singleton.mp member
      exact sigma
  · rename_i notSigma
    cases found : mapping.image? current with
    | none =>
        rw [found, Option.getD_none, List.mem_singleton] at member
        rw [member]
        exact ⟨notSigma, found⟩
    | some image =>
        rw [found, Option.getD_some] at member
        exact settled_of_mem_image found member

theorem settled_of_mem_text {before characters : List Char} {reached : Char}
    (member : reached ∈ text before characters) : Settled reached := by
  induction characters generalizing before with
  | nil => cases member
  | cons current behind ih =>
      rcases List.mem_append.mp member with here | later
      · exact settled_of_mem_character here
      · exact ih later

end Lowercase

/-- Lower-casing a text again changes nothing. -/
@[simp]
theorem lowercase_lowercase (text : String) : lowercase (lowercase text) = lowercase text := by
  rw [lowercase, lowercase, String.toList_ofList,
    Lowercase.text_of_settled fun _ => Lowercase.settled_of_mem_text]

end EditorLaunch
