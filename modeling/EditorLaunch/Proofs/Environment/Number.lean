import EditorLaunch.Environment.Value
import EditorLaunch.Proofs.Readers
import Mathlib.Data.List.TakeWhile

/-!
# Numbers in variables

A number is spelled with a point and perhaps an exponent, or it is a whole one of 64 bits.
Each way of spelling is a grammar of its own, and the reader for it finds a number in just
the texts that the grammar has.
-/

namespace EditorLaunch

namespace Environment

variable {letters : List Char}

/-- Digits, at least one. -/
structure AreDigits (letters : List Char) : Prop where
  filled : letters ≠ []
  each : ∀ digit ∈ letters, digit.isDigit = true

/-- The signs that a number may begin with. -/
def signs : List (List Char) :=
  [[], ['+'], ['-']]

/-- A whole number of 64 bits. -/
inductive IsInteger : List Char → Prop
  | unsigned {digits : List Char} (digital : AreDigits digits)
      (fits : digitsValue digits < 0x10000000000000000) : IsInteger digits
  | positive {digits : List Char} (digital : AreDigits digits)
      (fits : digitsValue digits < 0x10000000000000000) : IsInteger ('+' :: digits)
  | negative {digits : List Char} (digital : AreDigits digits)
      (fits : digitsValue digits ≤ 0x8000000000000000) : IsInteger ('-' :: digits)

/-- An exponent with its mark, or nothing. -/
inductive IsExponent : List Char → Prop
  | none : IsExponent []
  | some {mark : Char} {sign digits : List Char} (isMark : mark = 'e' ∨ mark = 'E')
      (isSign : sign ∈ signs) (digital : AreDigits digits) : IsExponent (mark :: (sign ++ digits))

/-- A number with a point and digits before or behind it. -/
inductive IsDecimal : List Char → Prop
  | intro {sign whole fraction power : List Char} (isSign : sign ∈ signs)
      (wholeDigits : ∀ digit ∈ whole, digit.isDigit = true)
      (fractionDigits : ∀ digit ∈ fraction, digit.isDigit = true)
      (filled : whole ≠ [] ∨ fraction ≠ []) (isPower : IsExponent power) :
      IsDecimal (sign ++ (whole ++ '.' :: (fraction ++ power)))

theorem digits?_eq_some_iff {number : Nat} :
    digits? letters = some number ↔ AreDigits letters ∧ number = digitsValue letters := by
  unfold digits?
  constructor
  · intro found
    split_ifs at found with refused
    simp only [Bool.or_eq_true, List.isEmpty_iff, Bool.not_eq_true', not_or, Bool.not_eq_false,
      List.all_eq_true] at refused
    exact ⟨⟨refused.1, refused.2⟩, (Option.some.inj found).symm⟩
  · rintro ⟨⟨filled, each⟩, rfl⟩
    simp [filled, List.all_eq_true.mpr each]

/-- A sign is split off what begins with none. -/
theorem splitSign_append {sign : List Char} (isSign : sign ∈ signs)
    (begins : ∀ first ∈ letters.head?, first ≠ '+' ∧ first ≠ '-') :
    splitSign (sign ++ letters) = (decide (sign = ['-']), letters) := by
  simp only [signs, List.mem_cons, List.not_mem_nil, or_false] at isSign
  rcases isSign with rfl | rfl | rfl
  · cases letters with
    | nil => rfl
    | cons first others =>
        obtain ⟨noPlus, noMinus⟩ := begins first rfl
        rw [List.nil_append, splitSign.eq_3 _ (by simp [noMinus]) (by simp [noPlus])]
        rfl
  · rfl
  · rfl

theorem exists_sign (letters : List Char) :
    ∃ sign ∈ signs, ∃ unsigned, letters = sign ++ unsigned ∧
      splitSign letters = (decide (sign = ['-']), unsigned) := by
  unfold splitSign
  split
  · exact ⟨['-'], by decide, _, rfl, rfl⟩
  · exact ⟨['+'], by decide, _, rfl, rfl⟩
  · exact ⟨[], by decide, _, rfl, rfl⟩

theorem AreDigits.begins (digital : AreDigits letters) :
    ∀ first ∈ letters.head?, first ≠ '+' ∧ first ≠ '-' := by
  intro first isFirst
  have isDigit := digital.each first (List.mem_of_head? isFirst)
  constructor <;> rintro rfl <;> cases isDigit

theorem exists_integer?_iff : (∃ number, integer? letters = some number) ↔ IsInteger letters := by
  constructor
  · rintro ⟨number, found⟩
    obtain ⟨sign, isSign, unsigned, rfl, split⟩ := exists_sign letters
    simp only [integer?, split, Option.bind_eq_bind, Option.bind_eq_some_iff] at found
    obtain ⟨size, digits, found⟩ := found
    obtain ⟨digital, rfl⟩ := digits?_eq_some_iff.mp digits
    simp only [signs, List.mem_cons, List.not_mem_nil, or_false] at isSign
    rcases isSign with rfl | rfl | rfl
    all_goals
      simp only [List.ne_cons_self, List.cons.injEq, Char.reduceEq, and_true, decide_false,
        decide_true, Bool.false_eq_true, if_false, if_true, Option.ite_none_right_eq_some] at found
    · exact .unsigned digital found.1
    · exact .positive digital found.1
    · exact .negative digital found.1
  · intro isInteger
    cases isInteger with
    | unsigned digital fits =>
        have split := splitSign_append (show [] ∈ signs by decide) digital.begins
        have digits := digits?_eq_some_iff.mpr ⟨digital, rfl⟩
        rw [List.nil_append] at split
        exact ⟨_, by simp [integer?, split, digits, fits]; rfl⟩
    | positive digital fits =>
        have digits := digits?_eq_some_iff.mpr ⟨digital, rfl⟩
        exact ⟨_, by simp [integer?, splitSign, digits, fits]; rfl⟩
    | negative digital fits =>
        have digits := digits?_eq_some_iff.mpr ⟨digital, rfl⟩
        exact ⟨_, by simp [integer?, splitSign, digits, fits]; rfl⟩

theorem exists_exponent?_iff : (∃ power, exponent? letters = some power) ↔ IsExponent letters := by
  cases letters with
  | nil => exact iff_of_true ⟨0, rfl⟩ .none
  | cons mark others =>
      constructor
      · rintro ⟨power, found⟩
        obtain ⟨sign, isSign, unsigned, rfl, split⟩ := exists_sign others
        simp only [exponent?, split, Option.bind_eq_bind, Option.bind_eq_some_iff] at found
        obtain ⟨size, digits, found⟩ := found
        obtain ⟨digital, -⟩ := digits?_eq_some_iff.mp digits
        exact .some (by by_contra noMark; simp [noMark] at found) isSign digital
      · generalize spelled : mark :: others = all
        rintro (_ | ⟨isMark, isSign, digital⟩)
        · cases spelled
        · obtain ⟨rfl, rfl⟩ := List.cons.inj spelled
          have split := splitSign_append isSign digital.begins
          have digits := digits?_eq_some_iff.mpr ⟨digital, rfl⟩
          exact ⟨_, by simp only [exponent?, split, digits, Option.bind_eq_bind, Option.bind_some,
            if_pos isMark]; rfl⟩

theorem IsExponent.stops (isExponent : IsExponent letters) :
    ∀ first ∈ letters.head?, first.isDigit = false := by
  cases isExponent with
  | none => simp
  | some isMark =>
      rcases isMark with rfl | rfl
      · simp
      · simp

theorem exists_decimal?_iff : (∃ number, decimal? letters = some number) ↔ IsDecimal letters := by
  constructor
  · rintro ⟨number, found⟩
    obtain ⟨sign, isSign, unsigned, rfl, split⟩ := exists_sign letters
    simp only [decimal?, split, List.span_eq_takeWhile_dropWhile] at found
    split at found
    · rename_i behind pointed
      split_ifs at found with missing
      obtain ⟨power, exponent, -⟩ := Option.bind_eq_some_iff.mp found
      have whole := List.takeWhile_append_dropWhile (p := Char.isDigit) (l := unsigned)
      have fraction := List.takeWhile_append_dropWhile (p := Char.isDigit) (l := behind)
      rw [← whole, pointed, ← fraction]
      refine .intro isSign (fun _ => List.mem_takeWhile_imp) (fun _ => List.mem_takeWhile_imp) ?_
        (exists_exponent?_iff.mp ⟨power, exponent⟩)
      by_contra neither
      push Not at neither
      simp [neither.1, neither.2] at missing
    · cases found
  · rintro ⟨isSign, wholeDigits, fractionDigits, filled, isPower⟩
    rename_i sign whole fraction power
    obtain ⟨exponent, exponentEq⟩ := exists_exponent?_iff.mpr isPower
    have begins : ∀ first ∈ (whole ++ '.' :: (fraction ++ power)).head?,
        first ≠ '+' ∧ first ≠ '-' := by
      intro first isFirst
      rw [List.head?_append] at isFirst
      cases whole with
      | nil =>
          obtain rfl := Option.some.inj isFirst
          decide
      | cons digit others =>
          obtain rfl := Option.some.inj isFirst
          have isDigit := wholeDigits digit List.mem_cons_self
          constructor <;> rintro rfl <;> cases isDigit
    have split := splitSign_append isSign begins
    have point : ∀ first ∈ ('.' :: (fraction ++ power)).head?, first.isDigit = false := by
      simp
    have missing : (whole.isEmpty && fraction.isEmpty) = false := by
      rcases filled with isFilled | isFilled <;> simp [isFilled]
    exact ⟨_, by
      simp only [decimal?, split, span_append wholeDigits point,
        span_append fractionDigits isPower.stops, missing, exponentEq]
      rfl⟩

end Environment

end EditorLaunch
