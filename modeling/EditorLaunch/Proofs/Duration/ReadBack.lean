import EditorLaunch.Duration.Printer
import EditorLaunch.Duration.Setting
import EditorLaunch.Proofs.Duration
import EditorLaunch.Proofs.Json.ReadBack
import EditorLaunch.Settings.Decode
import Mathlib.Data.List.Basic

/-!
# Durations read back

A written duration is a sequence of terms, each a count with the name of its unit.  Reading
goes from term to term: the digits give the count back, the letters name the unit, and the
amount grows by what the term stands for.  The terms of a duration add up to its seconds
and to the nanoseconds beyond them, so that nothing overflows on the way, however long the
duration is, and nothing is carried.
-/

namespace EditorLaunch

namespace Duration

/-- A letter that a name of a unit is made of, and no other part of a term. -/
def IsNameLetter (letter : Char) : Prop :=
  letter.isDigit = false ∧ isBlank letter = false ∧ isUnitLetter letter = true

instance (letter : Char) : Decidable (IsNameLetter letter) :=
  inferInstanceAs (Decidable (_ ∧ _ ∧ _))

/-- A unit with the names that are written for one of it and for more.  Both are read. -/
structure NamedUnit where
  one : String
  many : String
  unit : TimeUnit
  sized : 0 < unit.size := by decide
  filled : ∀ name ∈ [one, many], name ≠ "" := by decide
  letters : ∀ name ∈ [one, many], name.toList.Forall IsNameLetter := by decide
  reads : ∀ name ∈ [one, many], unitNamed? name = some unit := by decide

/-- A count of a unit. -/
structure Term where
  count : Nat
  named : NamedUnit

namespace Term

variable {term : Term}

def name (term : Term) : String :=
  if term.count = 1 then term.named.one else term.named.many

def text (term : Term) : String :=
  toString term.count ++ term.name

/-- The seconds that a term stands for. -/
def seconds (term : Term) : Nat :=
  if term.named.unit.inSeconds then term.count * term.named.unit.size else 0

/-- The nanoseconds that a term stands for, unless it counts in seconds. -/
def nanoseconds (term : Term) : Nat :=
  if term.named.unit.inSeconds then 0 else term.count * term.named.unit.size

/-- A count is no larger than what it stands for. -/
theorem count_lt {bound : Nat} (below : term.nanoseconds < bound) (fits : term.seconds < bound) :
    term.count < bound := by
  have sized := Nat.le_mul_of_pos_right term.count term.named.sized
  unfold seconds nanoseconds at *
  split_ifs at below fits
  · exact Nat.lt_of_le_of_lt sized fits
  · exact Nat.lt_of_le_of_lt sized below

theorem name_mem (term : Term) : term.name ∈ [term.named.one, term.named.many] := by
  unfold name
  split_ifs <;> simp

theorem toList_text (term : Term) :
    term.text.toList = Nat.toDigits 10 term.count ++ term.name.toList := by
  rw [text, String.toList_append, Nat.toString_eq_repr, Nat.toList_repr]

theorem item_eq (term : Term) :
    item term.count term.named.one term.named.many =
      if term.count = 0 then [] else [term.text] := by
  unfold item text name
  split_ifs <;> rfl

end Term

/-- A measure of terms that no term of nothing adds to. -/
structure Measure where
  of : Term → Nat
  ofNothing : ∀ term : Term, term.count = 0 → of term = 0

def Measure.seconds : Measure where
  of := Term.seconds
  ofNothing term nothing := by simp [Term.seconds, nothing]

def Measure.nanoseconds : Measure where
  of := Term.nanoseconds
  ofNothing term nothing := by simp [Term.nanoseconds, nothing]

theorem Measure.of_seconds (term : Term) : Measure.seconds.of term = term.seconds :=
  rfl

theorem Measure.of_nanoseconds (term : Term) : Measure.nanoseconds.of term = term.nanoseconds :=
  rfl

/-- What terms add up to. -/
def Measure.total (measure : Measure) (terms : List Term) : Nat :=
  (terms.map measure.of).sum

theorem Measure.total_nil (measure : Measure) : measure.total [] = 0 :=
  rfl

theorem Measure.total_cons (measure : Measure) (term : Term) (rest : List Term) :
    measure.total (term :: rest) = measure.of term + measure.total rest :=
  List.sum_cons

/-- Terms with their counts, those of nothing being left out. -/
def counted (terms : List Term) : List Term :=
  terms.filter (·.count ≠ 0)

section Counted

variable (terms : List Term)

theorem Measure.total_counted (measure : Measure) :
    measure.total (counted terms) = measure.total terms := by
  induction terms with
  | nil => rfl
  | cons term rest ih =>
      unfold counted at ih ⊢
      by_cases none : term.count = 0
      · rw [List.filter_cons_of_neg (by simpa using none), ih, total_cons,
          measure.ofNothing term none, Nat.zero_add]
      · rw [List.filter_cons_of_pos (by simpa using none), total_cons, ih, total_cons]

theorem flatMap_item :
    (terms.flatMap fun term => item term.count term.named.one term.named.many) =
      (counted terms).map Term.text := by
  induction terms with
  | nil => rfl
  | cons term rest ih =>
      unfold counted at ih ⊢
      rw [List.flatMap_cons, ih, Term.item_eq]
      by_cases none : term.count = 0
      · rw [List.filter_cons_of_neg (by simpa using none), if_pos none, List.nil_append]
      · rw [List.filter_cons_of_pos (by simpa using none), if_neg none, List.map_cons,
          List.singleton_append]

end Counted

def second : NamedUnit := { one := "s", many := "s", unit := ⟨1, true, some 1000000000⟩ }

/-- All units of a duration with their counts. -/
def unitCounts (duration : Duration) : List Term :=
  let inYear := duration.seconds % yearSeconds
  let inMonth := inYear % monthSeconds
  let inDay := inMonth % daySeconds
  let below := duration.subsecond
  [⟨duration.seconds / yearSeconds,
      { one := "year", many := "years", unit := ⟨31557600, true, some 31557600⟩ }⟩,
    ⟨inYear / monthSeconds,
      { one := "month", many := "months", unit := ⟨2630016, true, some 2630016⟩ }⟩,
    ⟨inMonth / daySeconds, { one := "day", many := "days", unit := ⟨86400, true, some 86400⟩ }⟩,
    ⟨inDay / 3600, { one := "h", many := "h", unit := ⟨3600, true, some 3600⟩ }⟩,
    ⟨inDay % 3600 / 60, { one := "m", many := "m", unit := ⟨60, true, some (60 * 1000000000)⟩ }⟩,
    ⟨inDay % 60, second⟩,
    ⟨below / 1000000, { one := "ms", many := "ms", unit := ⟨1000000, false, some 1000000⟩ }⟩,
    ⟨below / 1000 % 1000, { one := "us", many := "us", unit := ⟨1000, false, some 1000⟩ }⟩,
    ⟨below % 1000, { one := "ns", many := "ns", unit := ⟨1, false, none⟩ }⟩]

/-- The terms that a duration is written as. -/
def terms (duration : Duration) : List Term :=
  if duration.nanoseconds = 0 then [⟨0, second⟩] else counted duration.unitCounts

variable {duration : Duration}

/-- The terms of a duration add up to what all its units do. -/
theorem Measure.total_terms (measure : Measure) (duration : Duration) :
    measure.total duration.terms = measure.total duration.unitCounts := by
  unfold terms
  split_ifs with none
  · have noCounts : counted duration.unitCounts = [] := by
      simp [counted, unitCounts, Duration.seconds, subsecond, none]
    rw [← measure.total_counted duration.unitCounts, noCounts, total_cons,
      measure.ofNothing _ rfl, total_nil]
  · exact measure.total_counted _

theorem total_seconds (duration : Duration) :
    Measure.seconds.total duration.terms = duration.seconds := by
  rw [Measure.total_terms]
  simp only [unitCounts, Measure.total_cons, Measure.total_nil, Measure.of_seconds, Term.seconds,
    second, yearSeconds, monthSeconds, daySeconds, if_true, Bool.false_eq_true, if_false]
  omega

theorem total_nanoseconds (duration : Duration) :
    Measure.nanoseconds.total duration.terms = duration.subsecond := by
  rw [Measure.total_terms]
  simp only [unitCounts, Measure.total_cons, Measure.total_nil, Measure.of_nanoseconds,
    Term.nanoseconds, second, if_true, Bool.false_eq_true, if_false]
  omega

theorem seconds_mul_add (duration : Duration) :
    duration.seconds * perSecond + duration.subsecond = duration.nanoseconds :=
  Nat.div_add_mod' _ _

theorem terms_ne_nil (duration : Duration) : duration.terms ≠ [] := by
  intro none
  have noSeconds := duration.total_seconds
  have noNanoseconds := duration.total_nanoseconds
  have whole := duration.seconds_mul_add
  rw [none] at noSeconds noNanoseconds
  rw [← noSeconds, ← noNanoseconds] at whole
  have zero : duration.nanoseconds = 0 := whole.symm
  simp [terms, zero] at none

theorem text_eq (duration : Duration) :
    duration.text = " ".intercalate (duration.terms.map Term.text) := by
  unfold text terms
  split_ifs
  · rfl
  · rw [← flatMap_item]
    simp [items, unitCounts, second]

theorem intercalate_cons (sign : Char) (first : List Char) (rest : List (List Char)) :
    [sign].intercalate (first :: rest) = first ++ rest.flatMap (sign :: ·) := by
  induction rest generalizing first with
  | nil => simp
  | cons second others ih =>
      rw [List.intercalate_cons_cons, ih, List.flatMap_cons, List.append_assoc]
      rfl

/-- What stands behind the first term. -/
def writtenBehind (terms : List Term) : List Char :=
  terms.flatMap fun term => ' ' :: term.text.toList

theorem toList_text {first : Term} {rest : List Term} (divided : duration.terms = first :: rest) :
    duration.text.toList =
      Nat.toDigits 10 first.count ++ (first.name.toList ++ writtenBehind rest) := by
  rw [text_eq, divided, String.toList_intercalate, List.map_cons, List.map_cons,
    Term.toList_text]
  change [' '].intercalate _ = _
  rw [intercalate_cons, List.flatMap_map, List.flatMap_map, List.append_assoc]
  rfl

theorem Amount.add_eq_ok {amount : Amount} {seconds nanoseconds : Nat}
    (below : amount.nanoseconds + nanoseconds < perSecond)
    (fits : amount.seconds + seconds < 0x10000000000000000) :
    amount.add seconds nanoseconds =
      .ok ⟨amount.seconds + seconds, amount.nanoseconds + nanoseconds⟩ := by
  have small : perSecond ≤ 0x10000000000000000 := by decide
  rw [Amount.add, word, if_pos (Nat.lt_of_lt_of_le below small)]
  simp only [bind, Except.bind, Nat.div_eq_of_lt below, Nat.mod_eq_of_lt below, Nat.add_zero]
  rw [word, if_pos (by omega)]
  simp only
  rw [word, if_pos fits]
  rfl

/-- An amount grows by what a term stands for. -/
theorem Amount.addUnits_term {amount : Amount} {term : Term}
    (below : amount.nanoseconds + term.nanoseconds < perSecond)
    (fits : amount.seconds + term.seconds < 0x10000000000000000) :
    amount.addUnits term.count none term.named.unit =
      .ok ⟨amount.seconds + term.seconds, amount.nanoseconds + term.nanoseconds⟩ := by
  have small : perSecond ≤ 0x10000000000000000 := by decide
  have addsUp := Amount.add_eq_ok below fits
  unfold Term.seconds Term.nanoseconds at *
  cases inSeconds : term.named.unit.inSeconds with
  | true =>
      simp only [inSeconds, if_true] at below fits addsUp ⊢
      rw [addUnits, word, if_pos (by omega)]
      simp only [bind, Except.bind, inSeconds, if_true, addsUp]
      rfl
  | false =>
      simp only [inSeconds, Bool.false_eq_true, if_false] at below fits addsUp ⊢
      rw [addUnits, word, if_pos (by omega)]
      simp only [bind, Except.bind, inSeconds, Bool.false_eq_true, if_false, addsUp]
      rfl

/-- A number with one more digit. -/
def appendDigit (value : Nat) (digit : Char) : Nat :=
  value * 10 + digitValue digit

theorem le_foldl_appendDigit (digits : List Char) (value : Nat) :
    value ≤ digits.foldl appendDigit value := by
  induction digits generalizing value with
  | nil => exact Nat.le_refl _
  | cons digit rest ih =>
      have further := ih (appendDigit value digit)
      rw [List.foldl_cons]
      unfold appendDigit at further ⊢
      omega

theorem readNumber_digits {digits : List Char} {letter : Char}
    (areDigits : ∀ digit ∈ digits, digit.isDigit = true) (isLetter : IsNameLetter letter)
    {value : Nat} (fits : digits.foldl appendDigit value < 0x10000000000000000) (offset : Nat)
    (rest : List Char) :
    ∃ start, readNumber value offset (digits ++ letter :: rest) =
      .ok ⟨digits.foldl appendDigit value, none, start, some letter, rest⟩ := by
  induction digits generalizing value offset with
  | nil =>
      obtain ⟨noDigit, noBlank, isLetter⟩ := isLetter
      exact ⟨offset, by simp [readNumber, noDigit, noBlank, isLetter]⟩
  | cons digit others ih =>
      obtain ⟨isDigit, areDigits⟩ := List.forall_mem_cons.mp areDigits
      rw [List.foldl_cons] at fits
      have further := le_foldl_appendDigit others (appendDigit value digit)
      obtain ⟨start, reads⟩ := ih areDigits fits (offset + digit.utf8Size)
      change value * 10 + digitValue digit ≤ _ at further
      refine ⟨start, ?_⟩
      rw [List.cons_append, readNumber, if_pos isDigit, word, if_pos (by omega)]
      simp only [bind, Except.bind]
      rw [word, if_pos (by omega)]
      exact reads

/-- Text goes on with nothing, or with a blank and something else. -/
def Parts (rest behind : List Char) : Prop :=
  rest = [] ∧ behind = [] ∨ rest = ' ' :: behind

theorem readUnit_letters {letters rest behind : List Char}
    (areLetters : ∀ letter ∈ letters, IsNameLetter letter) (parts : Parts rest behind)
    (before : List Char) (offset : Nat) :
    ∃ last, readUnit before offset (letters ++ rest) =
      .ok ⟨before.reverse ++ letters, none, last, behind⟩ := by
  induction letters generalizing before offset with
  | nil =>
      rw [List.append_nil, List.nil_append]
      rcases parts with ⟨rfl, rfl⟩ | rfl
      · exact ⟨offset, rfl⟩
      · exact ⟨offset + 1, rfl⟩
  | cons letter others ih =>
      obtain ⟨⟨noDigit, noBlank, isLetter⟩, areLetters⟩ := List.forall_mem_cons.mp areLetters
      obtain ⟨last, reads⟩ := ih areLetters (letter :: before) (offset + letter.utf8Size)
      refine ⟨last, ?_⟩
      rw [List.cons_append, readUnit, noDigit, noBlank, isLetter]
      simpa using reads

/-- The digits of a number behind the first one complete its value. -/
theorem foldl_appendDigit {number : Nat} {first : Char} {others : List Char}
    (written : Nat.toDigits 10 number = first :: others) :
    others.foldl appendDigit (digitValue first) = number := by
  have read := Json.digitsValue_toDigits number
  rw [written] at read
  have started : (0 : Nat) * 10 + (first.toNat - '0'.toNat) = digitValue first := by
    rw [Nat.zero_mul, Nat.zero_add, digitValue]
  rw [Json.Reader.digitsValue, List.foldl_cons, started] at read
  exact read

/-- Reading of what stands behind a term. -/
def readRest (fuel : Nat) (total : Amount) (offset : Nat) (characters : List Char) :
    Except ReadError Amount := do
  match ← readFirstDigit offset characters with
  | some (digit, next, rest) => readItems fuel total digit next rest
  | none => return total

/-- A term is read as what it stands for, and reading goes on behind the blank. -/
theorem readItems_term {term : Term} {amount : Amount} {first : Char}
    {others rest behind : List Char} (written : Nat.toDigits 10 term.count = first :: others)
    (below : amount.nanoseconds + term.nanoseconds < perSecond)
    (fits : amount.seconds + term.seconds < 0x10000000000000000) (parts : Parts rest behind)
    (fuel offset : Nat) :
    ∃ last, readItems (fuel + 1) amount (digitValue first) offset
        (others ++ (term.name.toList ++ rest)) =
      readRest fuel ⟨amount.seconds + term.seconds, amount.nanoseconds + term.nanoseconds⟩ last
        behind := by
  have areDigits : ∀ digit ∈ others, digit.isDigit = true := fun digit member =>
    Nat.isDigit_of_mem_toDigits (by omega) (by omega) (written ▸ List.mem_cons_of_mem _ member)
  have areLetters := List.forall_iff_forall_mem.mp (term.named.letters _ term.name_mem)
  have filled : term.name.toList ≠ [] := by
    simpa using term.named.filled _ term.name_mem
  obtain ⟨letter, letters, nameEq⟩ := List.exists_cons_of_ne_nil filled
  rw [nameEq] at areLetters ⊢
  obtain ⟨isLetter, areLetters⟩ := List.forall_mem_cons.mp areLetters
  have complete := foldl_appendDigit written
  have small : term.count < 0x10000000000000000 := by
    have : perSecond ≤ 0x10000000000000000 := by decide
    exact Term.count_lt (by omega) (by omega)
  obtain ⟨start, number⟩ := readNumber_digits areDigits isLetter (complete.symm ▸ small) offset
    (letters ++ rest)
  obtain ⟨last, unit⟩ := readUnit_letters areLetters parts [letter] (start + letter.utf8Size)
  have name : String.ofList ([letter].reverse ++ letters) = term.name := by
    rw [List.reverse_singleton, List.singleton_append, ← nameEq, String.ofList_toList]
  refine ⟨last, ?_⟩
  rw [List.cons_append, readItems, number]
  simp only [bind, Except.bind, Option.toList_some, unit, name,
    term.named.reads _ term.name_mem, complete, Amount.addUnits_term below fits]
  rfl

theorem readFirstDigit_digits {number : Nat} {first : Char} {others : List Char}
    (written : Nat.toDigits 10 number = first :: others) (offset : Nat) (rest : List Char) :
    readFirstDigit offset (first :: (others ++ rest)) =
      .ok (some (digitValue first, offset + 1, others ++ rest)) := by
  have isDigit : first.isDigit = true :=
    Nat.isDigit_of_mem_toDigits (by omega) (by omega) (written ▸ List.mem_cons_self)
  rw [readFirstDigit, if_pos isDigit]

theorem readItems_terms (amount : Amount) {term : Term} {rest : List Term} {first : Char}
    {others : List Char} (written : Nat.toDigits 10 term.count = first :: others)
    (below : amount.nanoseconds + Measure.nanoseconds.total (term :: rest) < perSecond)
    (fits : amount.seconds + Measure.seconds.total (term :: rest) < 0x10000000000000000)
    {fuel : Nat} (enough : rest.length < fuel) (offset : Nat) :
    readItems fuel amount (digitValue first) offset
        (others ++ (term.name.toList ++ writtenBehind rest)) =
      .ok ⟨amount.seconds + Measure.seconds.total (term :: rest),
        amount.nanoseconds + Measure.nanoseconds.total (term :: rest)⟩ := by
  induction rest generalizing term amount first others fuel offset with
  | nil =>
      obtain ⟨fuel, rfl⟩ := Nat.exists_eq_add_one_of_ne_zero (Nat.ne_of_gt enough)
      obtain ⟨last, reads⟩ := readItems_term written below fits (.inl ⟨rfl, rfl⟩)
        fuel offset
      exact reads
  | cons next later ih =>
      obtain ⟨fuel, rfl⟩ := Nat.exists_eq_add_one_of_ne_zero (Nat.ne_zero_of_lt enough)
      obtain ⟨digit, digits, nextWritten, -⟩ := Json.exists_first_digit next.count
      rw [Measure.nanoseconds.total_cons, ← Nat.add_assoc] at below ⊢
      rw [Measure.seconds.total_cons, ← Nat.add_assoc] at fits ⊢
      have parts : Parts (writtenBehind (next :: later))
          (digit :: (digits ++ (next.name.toList ++ writtenBehind later))) := by
        right
        simp [writtenBehind, Term.toList_text, nextWritten]
      obtain ⟨last, reads⟩ := readItems_term written (Nat.lt_of_add_right_lt below)
        (Nat.lt_of_add_right_lt fits) parts fuel offset
      rw [reads, readRest, readFirstDigit_digits nextWritten]
      exact ih ⟨amount.seconds + term.seconds, amount.nanoseconds + term.nanoseconds⟩ nextWritten
        below fits (Nat.lt_of_succ_lt_succ enough) _

theorem length_le_writtenBehind (terms : List Term) :
    terms.length ≤ (writtenBehind terms).length := by
  induction terms with
  | nil => exact Nat.le_refl 0
  | cons term rest ih =>
      rw [writtenBehind, List.flatMap_cons, ← writtenBehind, List.length_append, List.length_cons,
        List.length_cons]
      omega

/-- A duration is read back from its text. -/
theorem read_text (duration : Duration) : read duration.text = .ok duration := by
  obtain ⟨term, rest, divided⟩ := List.exists_cons_of_ne_nil duration.terms_ne_nil
  obtain ⟨first, others, written, -⟩ := Json.exists_first_digit term.count
  have characters := toList_text divided
  rw [written, List.cons_append] at characters
  have noZero : duration.text ≠ "0" := by
    intro isZero
    rw [isZero] at characters
    have nothing := (List.cons.inj characters).2
    simp [term.named.filled _ term.name_mem] at nothing
  have below : (0 : Nat) + Measure.nanoseconds.total (term :: rest) < perSecond := by
    rw [← divided, total_nanoseconds, Nat.zero_add]
    exact Nat.mod_lt _ (by decide)
  have fits : (0 : Nat) + Measure.seconds.total (term :: rest) < 0x10000000000000000 := by
    rw [← divided, total_seconds, Nat.zero_add]
    exact Nat.div_lt_of_lt_mul (Nat.mul_comm _ perSecond ▸ duration.fits)
  have enough : rest.length < duration.text.toList.length + 1 := by
    have counted := length_le_writtenBehind rest
    rw [characters, List.length_cons, List.length_append, List.length_append]
    omega
  have reads := readItems_terms ⟨0, 0⟩ written below fits enough 1
  rw [← divided, total_seconds, total_nanoseconds, Nat.zero_add, Nat.zero_add] at reads
  rw [read, if_neg noZero]
  simp only [characters, readFirstDigit_digits written]
  rw [characters] at reads
  simp only [bind, Except.bind, reads, seconds_mul_add, pure, Except.pure]
  rw [saturating, dif_pos duration.fits]

theorem nanoseconds_ofSeconds {seconds : Nat} (fits : seconds < 0x10000000000000000) :
    (ofSeconds seconds).nanoseconds = seconds * perSecond := by
  have inRange : seconds * perSecond < 0x10000000000000000 * 1000000000 :=
    Nat.mul_lt_mul_of_pos_right fits (by decide)
  rw [ofSeconds, saturating, dif_pos inRange]

theorem ofSettingText_text (duration : Duration) : ofSettingText duration.text = .ok duration := by
  rw [ofSettingText, read_text]
  rfl

theorem ofInteger_of_nonneg {number : Int} (nonnegative : 0 ≤ number) :
    ofInteger number = .ok (ofSeconds number.toNat) :=
  if_neg (Int.not_lt.mpr nonnegative)

theorem ofInteger_of_neg {number : Int} (isNegative : number < 0) :
    ofInteger number = .error (.negative number) :=
  if_pos isNegative

/-- What a whole number is read as, however large it is. -/
theorem exists_ofJson_integer (number : Int) :
    ∃ value, Json.read? (String.ofList (Json.Printer.integer number)) = some value ∧
      (Json.isWhole number = true → ofJson value = ofInteger number) ∧
      (Json.isWhole number = false → ∃ error, ofJson value = .error error) := by
  refine ⟨_, Json.read?_integer number, fun whole => ?_, fun beyond => ?_⟩
  · rw [if_pos whole]
    rfl
  · rw [beyond]
    exact ⟨_, rfl⟩

theorem isWhole_of_nonneg {number : Int} (nonnegative : 0 ≤ number)
    (fits : number < 0x10000000000000000) : Json.isWhole number = true := by
  simp only [Json.isWhole, Bool.and_eq_true, decide_eq_true_iff]
  omega

/-- A duration is read back from the text that it is written as, in JSON as well as in other
settings, up to the longest one.  A whole number is read as so many seconds, if these fit
64 bits, and a negative one is refused, however far below zero it is. -/
theorem text_and_seconds_read_back :
    (∀ duration : Duration,
      (∃ value, Json.read? (Json.text duration.text).print = some value ∧
        ofJson value = .ok duration) ∧
      Settings.duration (.text duration.text) = .ok duration) ∧
    ∀ number : Int,
      (0 ≤ number → number < 0x10000000000000000 → ∃ duration : Duration,
        duration.nanoseconds = number.toNat * perSecond ∧
        (∃ value, Json.read? (String.ofList (Json.Printer.integer number)) = some value ∧
          ofJson value = .ok duration) ∧
        Settings.duration (.integer number) = .ok duration) ∧
      (number < 0 →
        (∃ value error, Json.read? (String.ofList (Json.Printer.integer number)) = some value ∧
          ofJson value = .error error) ∧
        ∃ error, Settings.duration (.integer number) = .error error) := by
  refine ⟨fun duration => ⟨⟨_, Json.read?_print (by trivial), ofSettingText_text duration⟩, ?_⟩,
    fun number => ⟨fun nonnegative fits => ?_, fun isNegative => ?_⟩⟩
  · rw [Settings.duration, ofSettingText_text]
    rfl
  · obtain ⟨value, reads, whole, -⟩ := exists_ofJson_integer number
    have seconds := ofInteger_of_nonneg nonnegative
    refine ⟨ofSeconds number.toNat, nanoseconds_ofSeconds (by omega), ⟨value, reads, ?_⟩, ?_⟩
    · rw [whole (isWhole_of_nonneg nonnegative fits), seconds]
    · rw [Settings.duration, seconds]
      rfl
  · obtain ⟨value, reads, whole, beyond⟩ := exists_ofJson_integer number
    have refused := ofInteger_of_neg isNegative
    refine ⟨?_, ⟨_, by rw [Settings.duration, refused]; rfl⟩⟩
    cases isWhole : Json.isWhole number with
    | true => exact ⟨value, _, reads, (whole isWhole).trans refused⟩
    | false =>
        obtain ⟨error, fails⟩ := beyond isWhole
        exact ⟨value, error, reads, fails⟩

end Duration

end EditorLaunch
