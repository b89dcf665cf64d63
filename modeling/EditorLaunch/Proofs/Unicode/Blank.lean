import EditorLaunch.Unicode.Blank
import Mathlib.Data.List.DropRight
import Mathlib.Data.List.TakeWhile

/-!
# Trimming

Trimming takes the blanks away from both ends of a text and nothing else.  What is left
is a part of the text that neither begins nor ends with a blank, and nothing is trimmed
from such a text.
-/

namespace EditorLaunch

variable {characters behind : List Char}

theorem trimEndWhile_eq_rdropWhile (test : Char → Bool) (characters : List Char) :
    trimEndWhile test characters = characters.rdropWhile test :=
  rfl

theorem trimEndWhile_append {test : Char → Bool}
    (passes : ∀ character ∈ behind, test character = true) :
    trimEndWhile test (characters ++ behind) = trimEndWhile test characters := by
  have reversed : ∀ character ∈ behind.reverse, test character = true := fun character member =>
    passes character (List.mem_reverse.mp member)
  rw [trimEndWhile, List.reverse_append, List.dropWhile_append_of_pos reversed, trimEndWhile]

theorem length_trimEndWhile_le (test : Char → Bool) (characters : List Char) :
    (trimEndWhile test characters).length ≤ characters.length := by
  rw [trimEndWhile, List.length_reverse]
  exact (List.length_dropWhile_le _ _).trans_eq List.length_reverse

/-- What is taken away stands at the end and is of the kind that is taken away. -/
theorem exists_append_of_trimEndWhile (test : Char → Bool) (characters : List Char) :
    ∃ behind, (∀ character ∈ behind, test character = true) ∧
      characters = trimEndWhile test characters ++ behind :=
  ⟨characters.rtakeWhile test, fun _ => List.mem_rtakeWhile_imp,
    List.rdropWhile_append_rtakeWhile.symm⟩

theorem not_of_mem_getLast?_trimEndWhile {test : Char → Bool} {last : Char}
    (isLast : last ∈ (trimEndWhile test characters).getLast?) : test last = false := by
  rw [trimEndWhile_eq_rdropWhile] at isLast
  obtain ⟨filled, rfl⟩ := List.mem_getLast?_eq_getLast isLast
  simpa using List.rdropWhile_last_not _ _ filled

theorem trimBlanks_eq_nil_iff :
    trimBlanks characters = [] ↔ ∀ character ∈ characters, isBlank character = true := by
  rw [trimBlanks, trimEndWhile, List.reverse_eq_nil_iff, List.dropWhile_eq_nil_iff]
  constructor
  · intro blankBehind character member
    rw [← List.takeWhile_append_dropWhile (p := isBlank) (l := characters),
      List.mem_append] at member
    rcases member with inFront | behind
    · exact List.mem_takeWhile_imp inFront
    · exact blankBehind character (List.mem_reverse.mpr behind)
  · intro blank character member
    exact blank character (List.dropWhile_subset _ (List.mem_reverse.mp member))

/-- Nothing is trimmed from a text that begins and ends without a blank. -/
theorem trimBlanks_eq_self (begins : ∀ first ∈ characters.head?, isBlank first = false)
    (ends : ∀ last ∈ characters.getLast?, isBlank last = false) :
    trimBlanks characters = characters := by
  have front : characters.dropWhile isBlank = characters := by
    cases characters with
    | nil => rfl
    | cons first rest => rw [List.dropWhile_cons_of_neg (by simp [begins first rfl])]
  rw [trimBlanks, front, trimEndWhile_eq_rdropWhile, List.rdropWhile_eq_self_iff]
  intro filled
  simp [ends _ (List.getLast?_eq_some_getLast filled)]

theorem isInfix_trimBlanks (characters : List Char) : trimBlanks characters <:+: characters :=
  (List.rdropWhile_prefix _ _).isInfix.trans (List.dropWhile_suffix _).isInfix

theorem isBlank_of_mem_head?_trimBlanks {first : Char}
    (isFirst : first ∈ (trimBlanks characters).head?) : isBlank first = false := by
  obtain ⟨rest, divided⟩ := List.rdropWhile_prefix isBlank (characters.dropWhile isBlank)
  obtain ⟨others, filled⟩ := List.head?_eq_some_iff.mp isFirst
  have stops := List.head?_dropWhile_not isBlank characters
  rw [trimBlanks, trimEndWhile_eq_rdropWhile] at filled
  rw [← divided, filled] at stops
  simpa using stops

theorem isBlank_of_mem_getLast?_trimBlanks {last : Char}
    (isLast : last ∈ (trimBlanks characters).getLast?) : isBlank last = false :=
  not_of_mem_getLast?_trimEndWhile isLast

end EditorLaunch
