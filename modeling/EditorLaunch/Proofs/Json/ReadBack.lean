import EditorLaunch.Json.Printer
import EditorLaunch.Json.Reader
import EditorLaunch.Proofs.Readers
import EditorLaunch.Proofs.Text.Utf8
import Mathlib.Data.List.TakeDrop
import Mathlib.Data.List.TakeWhile
import Mathlib.Tactic.IntervalCases

/-!
# JSON read back

A value that is written is read back, whatever stands behind it in a larger one.  Strings
are read character by character, the escaped ones included, and numbers up to the first
sign that no number goes on with.  Two kinds of values are left out, because a text does
not tell them from others: a string without a text is written as an empty one, and a
whole number beyond 64 bits would be read as a decimal.
-/

namespace EditorLaunch

namespace Json

open Reader

variable {rest : List Char}

theorem stringCodes_escape (letter : Char) {character : Char}
    (named : simpleEscape? letter = some character) (rest : List Char) :
    stringCodes ('\\' :: letter :: rest) =
      (stringCodes rest).map fun found => (character.toNat :: found.1, found.2) := by
  have notCode : letter ≠ 'u' := by
    rintro rfl
    cases named
  rw [stringCodes.eq_3 _ _ (by simp [notCode]), named]
  cases stringCodes rest <;> rfl

theorem number?_control :
    ∀ code < 0x20,
      Hex.number? ['0', '0', Hex.digit (code / 16), Hex.digit (code % 16)] = some code := by
  decide

/-- A character of a string is read back, escaped or not. -/
theorem stringCodes_character (character : Char) (rest : List Char) :
    stringCodes (Printer.character character ++ rest) =
      (stringCodes rest).map fun found => (character.toNat :: found.1, found.2) := by
  unfold Printer.character
  split_ifs with quote backslash backspace formFeed newline carriageReturn tab control
  · subst quote
    exact stringCodes_escape '"' rfl rest
  · subst backslash
    exact stringCodes_escape '\\' rfl rest
  · subst backspace
    exact stringCodes_escape 'b' rfl rest
  · subst formFeed
    exact stringCodes_escape 'f' rfl rest
  · subst newline
    exact stringCodes_escape 'n' rfl rest
  · subst carriageReturn
    exact stringCodes_escape 'r' rfl rest
  · subst tab
    exact stringCodes_escape 't' rfl rest
  · simp only [List.cons_append, List.nil_append, stringCodes, number?_control _ control]
    cases stringCodes rest <;> rfl
  · rw [List.singleton_append, stringCodes.eq_4 _ _ quote (by simp [backslash])
      (by simp [backslash]), if_neg (by simp [control, backslash])]
    cases stringCodes rest <;> rfl

theorem stringCodes_flatMap (characters rest : List Char) :
    stringCodes (characters.flatMap Printer.character ++ '"' :: rest) =
      some (characters.map Char.toNat, rest) := by
  induction characters with
  | nil => rfl
  | cons character others ih =>
      rw [List.flatMap_cons, List.append_assoc, stringCodes_character, ih]
      rfl

/-- The codes of characters are no halves of pairs. -/
theorem joinSurrogates_map (characters : List Char) :
    joinSurrogates (characters.map Char.toNat) = some characters := by
  induction characters with
  | nil => rfl
  | cons character others ih =>
      have scalar : Utf8.IsScalar character.toNat := character.valid
      unfold Utf8.IsScalar at scalar
      rw [List.map_cons, joinSurrogates.eq_def]
      simp only [if_neg (show ¬(0xD800 ≤ character.toNat ∧ character.toNat ≤ 0xDBFF) by omega),
        if_neg (show ¬(0xDC00 ≤ character.toNat ∧ character.toNat ≤ 0xDFFF) by omega), ih,
        Char.ofNat_toNat]
      rfl

theorem string_print (text : String) (rest : List Char) :
    Reader.string (text.toList.flatMap Printer.character ++ '"' :: rest) =
      some (some text, rest) := by
  simp [Reader.string, stringCodes_flatMap, joinSurrogates_map]

/-- A text that is over, or goes on with a sign that stands behind values. -/
def Ends (rest : List Char) : Prop :=
  ∀ sign ∈ rest.head?, sign = ',' ∨ sign = ']' ∨ sign = '\x7d'

/-- A text that does not go on with a digit. -/
def Stops (rest : List Char) : Prop :=
  ∀ sign ∈ rest.head?, sign.isDigit = false

theorem Ends.stops (ends : Ends rest) : Stops rest := by
  intro sign first
  rcases ends sign first with rfl | rfl | rfl
  · rfl
  · rfl
  · rfl

theorem digitsValue_toDigits (number : Nat) : digitsValue (Nat.toDigits 10 number) = number := by
  have same : (fun value (digit : Char) => value * 10 + (digit.toNat - '0'.toNat)) =
      fun value digit => 10 * value + (digit.toNat - '0'.toNat) := by
    funext value digit
    rw [Nat.mul_comm]
  rw [digitsValue, same]
  exact Nat.ofDigitChars_ten_toDigits

theorem exists_first_digit (number : Nat) :
    ∃ first others, Nat.toDigits 10 number = first :: others ∧ first.isDigit = true := by
  have areDigits : ∀ digit ∈ Nat.toDigits 10 number, digit.isDigit = true := fun _ =>
    Nat.isDigit_of_mem_toDigits (by omega) (by omega)
  have filled : Nat.toDigits 10 number ≠ [] := Nat.toDigits_ne_nil
  obtain ⟨first, others, isFilled⟩ := List.exists_cons_of_ne_nil filled
  exact ⟨first, others, isFilled, areDigits first (by simp [isFilled])⟩

/-- The first digit of a number is no zero, unless the number is one. -/
theorem head?_toDigits_ne_zero {number : Nat} (positive : 0 < number) :
    (Nat.toDigits 10 number).head? ≠ some '0' := by
  induction number using Nat.strongRecOn with
  | ind number ih =>
      rcases Nat.lt_or_ge number 10 with small | large
      · rw [Nat.toDigits_of_lt_base small]
        interval_cases number <;> decide
      · have higher := ih (number / 10) (by omega) (by omega)
        obtain ⟨first, others, filled, -⟩ := exists_first_digit (number / 10)
        rw [Nat.toDigits_of_base_le (by omega) large]
        rw [filled] at higher ⊢
        exact higher

theorem digits_append {found : List Char} (areDigits : ∀ digit ∈ found, digit.isDigit = true)
    (stops : Stops rest) : digits (found ++ rest) = (found, rest) :=
  span_append areDigits stops

theorem digits_toDigits (number : Nat) (stops : Stops rest) :
    digits (Nat.toDigits 10 number ++ rest) = (Nat.toDigits 10 number, rest) :=
  digits_append (fun _ => Nat.isDigit_of_mem_toDigits (by omega) (by omega)) stops

theorem wholePart_toDigits (number : Nat) (stops : Stops rest) :
    wholePart (Nat.toDigits 10 number ++ rest) = some (Nat.toDigits 10 number, rest) := by
  rcases Nat.eq_zero_or_pos number with rfl | positive
  · cases rest with
    | nil => rfl
    | cons sign others =>
        rw [Nat.toDigits_zero, List.singleton_append, wholePart]
        simp [stops sign rfl]
  · have read := digits_toDigits number stops
    have noZero := head?_toDigits_ne_zero positive
    obtain ⟨first, others, filled, -⟩ := exists_first_digit number
    rw [filled] at read noZero ⊢
    rw [List.cons_append] at read ⊢
    rw [wholePart.eq_def]
    split
    · simp_all
    · rw [read]

theorem exponentDigits_toDigits (negative : Bool) (number : Nat) (stops : Stops rest) :
    exponentDigits negative (Nat.toDigits 10 number ++ rest) =
      some (some (if negative then -Int.ofNat number else Int.ofNat number), rest) := by
  have counted := digitsValue_toDigits number
  rw [exponentDigits, digits_toDigits number stops]
  obtain ⟨first, others, filled, -⟩ := exists_first_digit number
  rw [filled] at counted ⊢
  simp only [counted]

theorem exponent_integer (power : Int) (stops : Stops rest) :
    exponent ('e' :: (Printer.integer power ++ rest)) = some (some power, rest) := by
  cases power with
  | ofNat size =>
      have read := exponentDigits_toDigits false size stops
      obtain ⟨first, others, filled, isDigit⟩ := exists_first_digit size
      rw [Printer.integer, Printer.natural, filled, List.cons_append]
      rw [filled, List.cons_append] at read
      rw [exponent.eq_def]
      simp only [true_or, ↓reduceIte]
      split
      · simp_all
      · simp_all
      · exact read
  | negSucc size => exact exponentDigits_toDigits true (size + 1) stops

theorem fraction_of_ne {characters : List Char} (noPoint : characters.head? ≠ some '.') :
    fraction characters = some (none, characters) := by
  unfold fraction
  split
  · simp at noPoint
  · rfl

theorem Ends.fraction_eq (ends : Ends rest) : fraction rest = some (none, rest) := by
  apply fraction_of_ne
  intro first
  rcases ends _ first with isSign | isSign | isSign <;> cases isSign

theorem Ends.exponent_eq (ends : Ends rest) : exponent rest = some (none, rest) := by
  cases rest with
  | nil => rfl
  | cons sign others =>
      rcases ends sign rfl with rfl | rfl | rfl
      · rfl
      · rfl
      · rfl

/-- Digits with or without a minus sign before them. -/
def signedDigits (negative : Bool) (number : Nat) : List Char :=
  (if negative then ['-'] else []) ++ Nat.toDigits 10 number

theorem number_signedDigits (negative : Bool) (whole : Nat) (stops : Stops rest) :
    number (signedDigits negative whole ++ rest) = (do
      let (fractional, afterFraction) ← fraction rest
      let (power, behind) ← exponent afterFraction
      return (numberValue negative (Nat.toDigits 10 whole) fractional power, behind)) := by
  have read := wholePart_toDigits whole stops
  cases negative with
  | true => simp [number, signedDigits, read]
  | false =>
      obtain ⟨first, others, filled, isDigit⟩ := exists_first_digit whole
      have noSign : (first == '-') = false := by
        rw [beq_eq_false_iff_ne]
        rintro rfl
        cases isDigit
      rw [filled] at read
      simp only [List.cons_append] at read
      simp [number, signedDigits, filled, read, noSign]

/-- A whole number is read as one, or as a decimal if it is beyond 64 bits. -/
theorem number_printInteger (number : Int) (ends : Ends rest) :
    Reader.number (Printer.integer number ++ rest) =
      some (if isWhole number then .integer number
        else .decimal ⟨decide (number < 0), number.natAbs, 0⟩, rest) := by
  have read := fun negative size =>
    number_signedDigits negative size ends.stops
  cases number with
  | ofNat size =>
      have written : Printer.integer (.ofNat size) = signedDigits false size := rfl
      rw [written, read, ends.fraction_eq]
      have notNegative : ¬ (size : Int) < 0 := by omega
      simp only [Option.bind_eq_bind, Option.bind_some, ends.exponent_eq, numberValue,
        digitsValue_toDigits]
      simp [notNegative]
  | negSucc size =>
      have written : Printer.integer (.negSucc size) = signedDigits true (size + 1) := rfl
      rw [written, read, ends.fraction_eq]
      have negated : -Int.ofNat (size + 1) = Int.negSucc size := rfl
      simp only [Option.bind_eq_bind, Option.bind_some, ends.exponent_eq, numberValue,
        digitsValue_toDigits, ↓reduceIte, negated]
      simp [Int.negSucc_lt_zero]

theorem number_integer {number : Int} (whole : isWhole number = true) (ends : Ends rest) :
    Reader.number (Printer.integer number ++ rest) = some (.integer number, rest) := by
  rw [number_printInteger number ends, if_pos whole]

theorem number_decimal (number : Decimal) (stops : Stops rest) :
    Reader.number (Printer.decimal number ++ rest) = some (.decimal number, rest) := by
  have mark : Stops ('e' :: (Printer.integer number.exponent ++ rest)) := by
    intro sign first
    obtain rfl := Option.some.inj first
    rfl
  have written : Printer.decimal number ++ rest =
      signedDigits number.negative number.coefficient ++
        'e' :: (Printer.integer number.exponent ++ rest) := by
    simp [Printer.decimal, Printer.natural, signedDigits]
  rw [written, number_signedDigits _ _ mark, fraction_of_ne (by simp)]
  simp [exponent_integer _ stops, numberValue, digitsValue_toDigits]

mutual

/-- A value that is told by its text. -/
def Writable : Json → Prop
  | .integer value => isWhole value = true
  | .string text? => text?.isSome = true
  | .array items => WritableItems items
  | .object members => WritableMembers members
  | _ => True

def WritableItems : List Json → Prop
  | [] => True
  | item :: rest => Writable item ∧ WritableItems rest

def WritableMembers : List (Option String × Json) → Prop
  | [] => True
  | (name?, item) :: rest => name?.isSome = true ∧ Writable item ∧ WritableMembers rest

end

/-- Text starts where a value or a name can: no blank comes first, and no end. -/
def Starts (characters : List Char) : Prop :=
  ∃ first others, characters = first :: others ∧ isGap first = false ∧
    first ≠ ']' ∧ first ≠ '\x7d'

theorem Starts.append {characters : List Char} (starts : Starts characters)
    (rest : List Char) : Starts (characters ++ rest) := by
  obtain ⟨first, others, rfl, noGap, inside⟩ := starts
  exact ⟨first, others ++ rest, rfl, noGap, inside⟩

theorem Starts.skipGap_eq {characters : List Char} (starts : Starts characters) :
    skipGap characters = characters := by
  obtain ⟨first, others, rfl, noGap, -⟩ := starts
  rw [skipGap, List.dropWhile_cons_of_neg (by simp [noGap])]

theorem skipGap_of_isGap_eq_false {sign : Char} (noGap : isGap sign = false) :
    skipGap (sign :: rest) = sign :: rest :=
  List.dropWhile_cons_of_neg (by simp [noGap])

theorem starts_cons {sign : Char}
    (inside : isGap sign = false ∧ sign ≠ ']' ∧ sign ≠ '\x7d' := by decide) :
    Starts (sign :: rest) :=
  ⟨sign, rest, rfl, inside⟩

theorem starts_signedDigits (negative : Bool) (whole : Nat) :
    Starts (signedDigits negative whole) := by
  cases negative with
  | true => exact starts_cons
  | false =>
      obtain ⟨first, others, filled, isDigit⟩ := exists_first_digit whole
      refine ⟨first, others, filled, ?_, ?_, ?_⟩
      · rw [Bool.eq_false_iff]
        intro gap
        simp only [isGap, Bool.or_eq_true, beq_iff_eq] at gap
        rcases gap with ((rfl | rfl) | rfl) | rfl <;> cases isDigit
      · rintro rfl
        cases isDigit
      · rintro rfl
        cases isDigit

theorem starts_integer (number : Int) : Starts (Printer.integer number) := by
  cases number with
  | ofNat size => exact starts_signedDigits false size
  | negSucc size => exact starts_signedDigits true (size + 1)

theorem starts_value (item : Json) : Starts (Printer.value item) := by
  cases item with
  | null => exact starts_cons
  | boolean value => cases value <;> exact starts_cons
  | integer number => exact starts_integer number
  | decimal number =>
      rw [Printer.value, Printer.decimal]
      exact (starts_signedDigits number.negative number.coefficient).append _
  | string text? => exact starts_cons
  | array items => exact starts_cons
  | object members => exact starts_cons

theorem value_of_digit {first : Char} (isDigit : first.isDigit = true) (fuel : Nat)
    (others : List Char) :
    value (fuel + 1) (first :: others) = number (first :: others) := by
  rw [value.eq_def]
  simp only
  split
  case h_7 => rfl
  all_goals
    rename_i isMark
    obtain ⟨rfl, -⟩ := List.cons.inj isMark
    cases isDigit

theorem value_signedDigits (negative : Bool) (whole fuel : Nat) (rest : List Char) :
    value (fuel + 1) (signedDigits negative whole ++ rest) =
      number (signedDigits negative whole ++ rest) := by
  cases negative with
  | true => rfl
  | false =>
      obtain ⟨first, others, filled, isDigit⟩ := exists_first_digit whole
      have written : signedDigits false whole ++ rest = first :: (others ++ rest) := by
        simp [signedDigits, filled]
      rw [written, value_of_digit isDigit]

theorem value_integer (number : Int) (fuel : Nat) (rest : List Char) :
    value (fuel + 1) (Printer.integer number ++ rest) =
      Reader.number (Printer.integer number ++ rest) := by
  cases number with
  | ofNat size => exact value_signedDigits false size fuel rest
  | negSucc size => exact value_signedDigits true (size + 1) fuel rest

theorem value_array {items : List Char} (starts : Starts items) (fuel : Nat) :
    value (fuel + 1) ('[' :: items) =
      (elements fuel items).map fun found => (.array found.1, found.2) := by
  have noGap := starts.skipGap_eq
  obtain ⟨first, others, rfl, -, noEnd, -⟩ := starts
  rw [value.eq_def]
  simp only [noGap]
  split
  · simp_all
  · cases elements fuel (first :: others) <;> rfl

theorem value_object {items : List Char} (starts : Starts items) (fuel : Nat) :
    value (fuel + 1) ('\x7b' :: items) =
      (members fuel items).map fun found => (.object found.1, found.2) := by
  have noGap := starts.skipGap_eq
  obtain ⟨first, others, rfl, -, -, noEnd⟩ := starts
  rw [value.eq_def]
  simp only [noGap]
  split
  · simp_all
  · cases members fuel (first :: others) <;> rfl

theorem members_string (name : String) (fuel : Nat) (characters : List Char) :
    members (fuel + 1) (Printer.string name ++ ':' :: characters) = (do
      let (item, rest) ← value fuel (skipGap characters)
      match skipGap rest with
      | ',' :: behind => do
          let (items, last) ← members fuel behind
          return ((some name, item) :: items, last)
      | '\x7d' :: behind => some ([(some name, item)], behind)
      | _ => none) := by
  have written : Printer.string name ++ ':' :: characters =
      '"' :: (name.toList.flatMap Printer.character ++ '"' :: ':' :: characters) := by
    simp [Printer.string]
  rw [written, members, skipGap_of_isGap_eq_false rfl]
  conv_lhs =>
    simp only [string_print, Option.bind_eq_bind, Option.bind_some,
      skipGap_of_isGap_eq_false (show isGap ':' = false from rfl)]
  rfl

theorem ends_cons {sign : Char}
    (isEnd : sign = ',' ∨ sign = ']' ∨ sign = '\x7d' := by decide) : Ends (sign :: rest) := by
  intro first isFirst
  obtain rfl := Option.some.inj isFirst
  exact isEnd

mutual

/-- A value is read back from its text, given fuel for every character. -/
theorem value_print : ∀ (item : Json) (fuel : Nat) (rest : List Char), Writable item →
    Ends rest → (Printer.value item).length ≤ fuel →
    value fuel (Printer.value item ++ rest) = some (item, rest)
  | item, 0, rest, _, _, enough => by
      obtain ⟨first, others, filled, -⟩ := starts_value item
      simp [filled] at enough
  | .null, fuel + 1, rest, _, _, _ => rfl
  | .boolean true, fuel + 1, rest, _, _, _ => rfl
  | .boolean false, fuel + 1, rest, _, _, _ => rfl
  | .integer number, fuel + 1, rest, writable, ends, _ => by
      rw [Writable] at writable
      rw [Printer.value, ← number_integer writable ends]
      exact value_integer number fuel rest
  | .decimal number, fuel + 1, rest, _, ends, _ => by
      have read := value_signedDigits number.negative number.coefficient fuel
        ('e' :: (Printer.integer number.exponent ++ rest))
      rw [Printer.value, ← number_decimal number ends.stops]
      simpa [Printer.decimal, Printer.natural, signedDigits] using read
  | .string text?, fuel + 1, rest, writable, _, _ => by
      rw [Writable] at writable
      obtain ⟨text, rfl⟩ := Option.isSome_iff_exists.mp writable
      simp [Printer.value, Printer.string, value, string_print]
  | .array [], fuel + 1, rest, _, _, _ => rfl
  | .array (item :: others), fuel + 1, rest, writable, _, enough => by
      rw [Writable] at writable
      rw [Printer.value, List.cons_append, List.length_cons, List.length_append,
        List.length_singleton] at enough
      have read := elements_print item others fuel rest writable (by omega)
      have starts : Starts (Printer.elements (item :: others) ++ ']' :: rest) := by
        cases others with
        | nil => exact (starts_value item).append _
        | cons next more => exact ((starts_value item).append _).append _
      have written : Printer.value (.array (item :: others)) ++ rest =
          '[' :: (Printer.elements (item :: others) ++ ']' :: rest) := by
        simp [Printer.value]
      rw [written, value_array starts, read]
      rfl
  | .object [], fuel + 1, rest, _, _, _ => rfl
  | .object ((name?, item) :: others), fuel + 1, rest, writable, _, enough => by
      rw [Writable] at writable
      rw [Printer.value, List.cons_append, List.length_cons, List.length_append,
        List.length_singleton] at enough
      have read := members_print name? item others fuel rest writable (by omega)
      have starts : Starts (Printer.members ((name?, item) :: others) ++ '\x7d' :: rest) := by
        cases others <;> exact starts_cons
      have written : Printer.value (.object ((name?, item) :: others)) ++ rest =
          '\x7b' :: (Printer.members ((name?, item) :: others) ++ '\x7d' :: rest) := by
        simp [Printer.value]
      rw [written, value_object starts, read]
      rfl

theorem elements_print : ∀ (item : Json) (others : List Json) (fuel : Nat) (rest : List Char),
    WritableItems (item :: others) → (Printer.elements (item :: others)).length < fuel →
    elements fuel (Printer.elements (item :: others) ++ ']' :: rest) =
      some (item :: others, rest)
  | _, _, 0, _, _, enough => absurd enough (Nat.not_lt_zero _)
  | item, [], fuel + 1, rest, writable, enough => by
      rw [WritableItems] at writable
      rw [Printer.elements] at enough ⊢
      have read := value_print item fuel (']' :: rest) writable.1 ends_cons (by omega)
      rw [elements, ((starts_value item).append _).skipGap_eq, read]
      rfl
  | item, next :: others, fuel + 1, rest, writable, enough => by
      rw [WritableItems] at writable
      have written : Printer.elements (item :: next :: others) =
          Printer.value item ++ ',' :: Printer.elements (next :: others) := rfl
      rw [written, List.length_append, List.length_cons] at enough
      have read := value_print item fuel
        (',' :: (Printer.elements (next :: others) ++ ']' :: rest)) writable.1 ends_cons
        (by omega)
      have readOthers := elements_print next others fuel rest writable.2 (by omega)
      rw [written, List.append_assoc, List.cons_append, elements,
        ((starts_value item).append _).skipGap_eq, read]
      simp only [Option.bind_eq_bind, Option.bind_some,
        skipGap_of_isGap_eq_false (show isGap ',' = false from rfl), readOthers]
      rfl

theorem members_print : ∀ (name? : Option String) (item : Json)
    (others : List (Option String × Json)) (fuel : Nat) (rest : List Char),
    WritableMembers ((name?, item) :: others) →
    (Printer.members ((name?, item) :: others)).length < fuel →
    members fuel (Printer.members ((name?, item) :: others) ++ '\x7d' :: rest) =
      some ((name?, item) :: others, rest)
  | _, _, _, 0, _, _, enough => absurd enough (Nat.not_lt_zero _)
  | name?, item, [], fuel + 1, rest, writable, enough => by
      rw [WritableMembers] at writable
      obtain ⟨name, rfl⟩ := Option.isSome_iff_exists.mp writable.1
      have written : Printer.members [(some name, item)] =
          Printer.string name ++ ':' :: Printer.value item := rfl
      rw [written, List.length_append, List.length_cons] at enough
      have read := value_print item fuel ('\x7d' :: rest) writable.2.1 ends_cons (by omega)
      rw [written, List.append_assoc, List.cons_append, members_string,
        ((starts_value item).append _).skipGap_eq, read]
      rfl
  | name?, item, (nextName?, next) :: others, fuel + 1, rest, writable, enough => by
      rw [WritableMembers] at writable
      obtain ⟨name, rfl⟩ := Option.isSome_iff_exists.mp writable.1
      have written : Printer.members ((some name, item) :: (nextName?, next) :: others) =
          Printer.string name ++ ':' :: (Printer.value item ++
            ',' :: Printer.members ((nextName?, next) :: others)) := by
        simp [Printer.members]
      rw [written, List.length_append, List.length_cons, List.length_append, List.length_cons]
        at enough
      have read := value_print item fuel
        (',' :: (Printer.members ((nextName?, next) :: others) ++ '\x7d' :: rest))
        writable.2.1 ends_cons (by omega)
      have readOthers := members_print nextName? next others fuel rest writable.2.2 (by omega)
      rw [written, List.append_assoc, List.cons_append, members_string, List.append_assoc,
        List.cons_append, ((starts_value item).append _).skipGap_eq, read]
      simp only [Option.bind_eq_bind, Option.bind_some,
        skipGap_of_isGap_eq_false (show isGap ',' = false from rfl), readOthers]
      rfl

end

/-- The digits of a whole number are read as it, or as a decimal if it is beyond 64 bits. -/
theorem read?_integer (number : Int) :
    read? (String.ofList (Printer.integer number)) =
      some (if isWhole number then .integer number
        else .decimal ⟨decide (number < 0), number.natAbs, 0⟩) := by
  have read := value_integer number (Printer.integer number).length []
  rw [number_printInteger number (show Ends [] from nofun), List.append_nil] at read
  rw [read?, String.toList_ofList, (starts_integer number).skipGap_eq, read]
  rfl

/-- What is written is read back. -/
theorem read?_print {item : Json} (writable : Writable item) :
    read? item.print = some item := by
  have read := value_print item ((Printer.value item).length + 1) [] writable nofun
    (Nat.le_succ _)
  rw [List.append_nil] at read
  rw [read?, print, String.toList_ofList, (starts_value item).skipGap_eq, read]
  rfl

end Json

end EditorLaunch
