import EditorLaunch.Proofs.Environment.Number
import EditorLaunch.Proofs.Unicode.Blank

/-!
# How values of variables are spelled

A grammar says which characters spell which value, and what they leave behind.  It has just
what the reader finds: that a value was read is seen from how it was found, and a value that
is spelled is read as long as there are two steps for each character.
-/

namespace EditorLaunch

namespace Environment

variable {characters kept letters rest behind : List Char} {setting : RawSetting} {fuel : Nat}

/-- Characters that begin neither a truth value nor something in quotes, brackets or braces. -/
structure BeginWord (characters : List Char) : Prop where
  notYes : ¬ ['t', 'r', 'u', 'e'] <+: characters
  notNo : ¬ ['f', 'a', 'l', 's', 'e'] <+: characters
  first : ∀ first ∈ characters.head?, first ∉ ['"', '\'', '[', '\x7b']

/-- The word that characters begin with, without the blanks around it. -/
def firstWord (characters : List Char) : List Char :=
  trimBlanks (characters.takeWhile (!isDelimiter ·))

mutual

/-- The characters begin with a value and the white space around it. -/
inductive Spells : List Char → RawSetting → List Char → Prop
  | intro {characters behind : List Char} {value : RawSetting}
      (begins : Begins (skipSpaces characters) value behind) :
      Spells characters value (skipSpaces behind)

/-- The characters begin with a value. -/
inductive Begins : List Char → RawSetting → List Char → Prop
  | yes (rest : List Char) : Begins ('t' :: 'r' :: 'u' :: 'e' :: rest) (.flag true) rest
  | no (rest : List Char) : Begins ('f' :: 'a' :: 'l' :: 's' :: 'e' :: rest) (.flag false) rest
  | table {letters rest : List Char} {members : List (String × RawSetting)}
      (each : SpellPairs letters members rest) : Begins ('\x7b' :: letters) (.table members) rest
  | list {letters rest : List Char} {items : List RawSetting}
      (each : SpellItems letters items rest) : Begins ('[' :: letters) (.list items) rest
  | quoted {letters content rest : List Char}
      (closed : Escaped.quoted letters = some (content, rest)) :
      Begins ('"' :: letters) (.text (String.ofList content)) rest
  | letter (letter : Char) (rest : List Char) :
      Begins ('\'' :: letter :: '\'' :: rest) (.letter letter) rest
  | float {characters : List Char} {value : Float} (beginWord : BeginWord characters)
      (found : decimal? (firstWord characters) = some value) :
      Begins characters (.float value) (characters.dropWhile (!isDelimiter ·))
  | integer {characters : List Char} {value : Int} (beginWord : BeginWord characters)
      (notDecimal : ¬ IsDecimal (firstWord characters))
      (found : integer? (firstWord characters) = some value) :
      Begins characters (.integer value) (characters.dropWhile (!isDelimiter ·))
  | text {characters : List Char} (beginWord : BeginWord characters)
      (notDecimal : ¬ IsDecimal (firstWord characters))
      (notInteger : ¬ IsInteger (firstWord characters)) :
      Begins characters (.text (String.ofList (firstWord characters)))
        (characters.dropWhile (!isDelimiter ·))

/-- The characters begin with the items of a list, up to its end. -/
inductive SpellItems : List Char → List RawSetting → List Char → Prop
  | none (rest : List Char) : SpellItems (']' :: rest) [] rest
  | last {characters rest : List Char} {item : RawSetting}
      (filled : characters.head? ≠ some ']') (spells : Spells characters item (']' :: rest)) :
      SpellItems characters [item] rest
  | more {characters behind rest : List Char} {item : RawSetting} {items : List RawSetting}
      (filled : characters.head? ≠ some ']') (spells : Spells characters item (',' :: behind))
      (others : SpellItems behind items rest) : SpellItems characters (item :: items) rest

/-- The characters begin with the pairs of a table, up to its end. -/
inductive SpellPairs : List Char → List (String × RawSetting) → List Char → Prop
  | none (rest : List Char) : SpellPairs ('\x7d' :: rest) [] rest
  | last {characters afterSign rest : List Char} {name : String} {value : RawSetting}
      (filled : characters.head? ≠ some '\x7d') (named : key characters = some (name, afterSign))
      (spells : Spells afterSign value ('\x7d' :: rest)) :
      SpellPairs characters [(name, value)] rest
  | more {characters afterSign behind rest : List Char} {name : String} {value : RawSetting}
      {members : List (String × RawSetting)} (filled : characters.head? ≠ some '\x7d')
      (named : key characters = some (name, afterSign))
      (spells : Spells afterSign value (',' :: behind))
      (others : SpellPairs behind members rest) :
      SpellPairs characters ((name, value) :: members) rest

end

theorem decimal?_eq_none_iff : decimal? letters = none ↔ ¬ IsDecimal letters := by
  rw [← exists_decimal?_iff, ← Option.isSome_iff_exists, Option.not_isSome_iff_eq_none]

theorem integer?_eq_none_iff : integer? letters = none ↔ ¬ IsInteger letters := by
  rw [← exists_integer?_iff, ← Option.isSome_iff_exists, Option.not_isSome_iff_eq_none]

theorem BeginWord.begins (beginWord : BeginWord characters) :
    Begins characters (word (characters.takeWhile (!isDelimiter ·)))
      (characters.dropWhile (!isDelimiter ·)) := by
  rw [word, ← firstWord]
  cases decimal : decimal? (firstWord characters) with
  | some value => exact .float beginWord decimal
  | none =>
      have notDecimal := decimal?_eq_none_iff.mp decimal
      cases integer : integer? (firstWord characters) with
      | some value => exact .integer beginWord notDecimal integer
      | none => exact .text beginWord notDecimal (integer?_eq_none_iff.mp integer)

theorem head?_ne_some_iff {sign : Char} :
    characters.head? ≠ some sign ↔ ∀ rest, characters = sign :: rest → False := by
  rw [ne_eq, List.head?_eq_some_iff, not_exists]

/-- Items and pairs that are read with a bound are spelled. -/
structure ReadsSpelled (fuel : Nat) : Prop where
  value : ∀ {characters setting rest}, value fuel characters = some (setting, rest) →
    Spells characters setting rest
  items : ∀ {characters found rest}, items fuel characters = some (found, rest) →
    SpellItems characters found rest
  pairs : ∀ {characters found rest}, pairs fuel characters = some (found, rest) →
    SpellPairs characters found rest

theorem ReadsSpelled.value_succ (spelled : ReadsSpelled fuel)
    (reads : Environment.value (fuel + 1) characters = some (setting, rest)) :
    Spells characters setting rest := by
  unfold Environment.value at reads
  dsimp only at reads
  generalize keptEq : skipSpaces characters = kept at reads
  split at reads
  all_goals
    obtain ⟨⟨read, behind⟩, begins, same⟩ := Option.bind_eq_some_iff.mp reads
    obtain ⟨rfl, rfl⟩ := Prod.mk.inj (Option.some.inj same)
    refine .intro ?_
    rw [keptEq]
  · obtain ⟨rfl, rfl⟩ := Prod.mk.inj (Option.some.inj begins)
    exact .yes _
  · obtain ⟨rfl, rfl⟩ := Prod.mk.inj (Option.some.inj begins)
    exact .no _
  · obtain ⟨⟨members, last⟩, each, same⟩ := Option.map_eq_some_iff.mp begins
    obtain ⟨rfl, rfl⟩ := Prod.mk.inj same
    exact .table (spelled.pairs each)
  · obtain ⟨⟨items, last⟩, each, same⟩ := Option.map_eq_some_iff.mp begins
    obtain ⟨rfl, rfl⟩ := Prod.mk.inj same
    exact .list (spelled.items each)
  · obtain ⟨⟨content, last⟩, closed, same⟩ := Option.map_eq_some_iff.mp begins
    obtain ⟨rfl, rfl⟩ := Prod.mk.inj same
    exact .quoted closed
  · obtain ⟨rfl, rfl⟩ := Prod.mk.inj (Option.some.inj begins)
    exact .letter _ _
  · cases begins
  · -- What is left begins a word, for the reader has tried all the rest before.
    rename_i notYes notNo notTable notList notQuoted _ notLetter
    rw [List.span_eq_takeWhile_dropWhile] at begins
    obtain ⟨rfl, rfl⟩ := Prod.mk.inj (Option.some.inj begins)
    refine BeginWord.begins ⟨?_, ?_, ?_⟩
    · rintro ⟨others, rfl⟩
      exact notYes _ rfl
    · rintro ⟨others, rfl⟩
      exact notNo _ rfl
    · intro first isFirst
      obtain ⟨others, rfl⟩ := List.head?_eq_some_iff.mp isFirst
      simp only [List.mem_cons, List.not_mem_nil, or_false]
      rintro (rfl | rfl | rfl | rfl)
      · exact notQuoted _ rfl
      · exact notLetter _ rfl
      · exact notList _ rfl
      · exact notTable _ rfl

theorem ReadsSpelled.items_succ (spelled : ReadsSpelled fuel) {found : List RawSetting}
    (reads : Environment.items (fuel + 1) characters = some (found, rest)) :
    SpellItems characters found rest := by
  unfold Environment.items at reads
  split at reads
  · contradiction
  · obtain ⟨rfl, rfl⟩ := Prod.mk.inj (Option.some.inj reads)
    exact .none _
  · rename_i characters _ _ bound fuelEq notClosed
    obtain rfl : fuel = bound := Nat.succ.inj fuelEq
    have filled := head?_ne_some_iff.mpr notClosed
    obtain ⟨⟨item, behind⟩, readsItem, reads⟩ := Option.bind_eq_some_iff.mp reads
    dsimp only at reads
    split at reads
    · obtain ⟨⟨others, last⟩, readsOthers, same⟩ := Option.bind_eq_some_iff.mp reads
      obtain ⟨rfl, rfl⟩ := Prod.mk.inj (Option.some.inj same)
      exact .more filled (spelled.value readsItem) (spelled.items readsOthers)
    · obtain ⟨rfl, rfl⟩ := Prod.mk.inj (Option.some.inj reads)
      exact .last filled (spelled.value readsItem)
    · cases reads

theorem ReadsSpelled.pairs_succ (spelled : ReadsSpelled fuel)
    {found : List (String × RawSetting)}
    (reads : Environment.pairs (fuel + 1) characters = some (found, rest)) :
    SpellPairs characters found rest := by
  unfold Environment.pairs at reads
  split at reads
  · contradiction
  · obtain ⟨rfl, rfl⟩ := Prod.mk.inj (Option.some.inj reads)
    exact .none _
  · rename_i characters _ _ bound fuelEq notClosed
    obtain rfl : fuel = bound := Nat.succ.inj fuelEq
    have filled := head?_ne_some_iff.mpr notClosed
    obtain ⟨⟨name, afterSign⟩, named, reads⟩ := Option.bind_eq_some_iff.mp reads
    obtain ⟨⟨value, behind⟩, readsValue, reads⟩ := Option.bind_eq_some_iff.mp reads
    dsimp only at reads
    split at reads
    · obtain ⟨⟨others, last⟩, readsOthers, same⟩ := Option.bind_eq_some_iff.mp reads
      obtain ⟨rfl, rfl⟩ := Prod.mk.inj (Option.some.inj same)
      exact .more filled named (spelled.value readsValue) (spelled.pairs readsOthers)
    · obtain ⟨rfl, rfl⟩ := Prod.mk.inj (Option.some.inj reads)
      exact .last filled named (spelled.value readsValue)
    · cases reads

theorem readsSpelled (fuel : Nat) : ReadsSpelled fuel := by
  induction fuel with
  | zero =>
      refine ⟨fun reads => ?_, fun reads => ?_, fun reads => ?_⟩
      · rw [Environment.value] at reads
        cases reads
      · rw [Environment.items] at reads
        cases reads
      · rw [Environment.pairs] at reads
        cases reads
  | succ fuel ih => exact ⟨ih.value_succ, ih.items_succ, ih.pairs_succ⟩

theorem length_of_before {character : Char} {read : Option (List Char × List Char)}
    {content : List Char} {bound : Nat}
    (shorter : ∀ {content rest}, read = some (content, rest) →
      content.length + rest.length < bound)
    (found : Escaped.before character read = some (content, rest)) :
    content.length + rest.length < bound + 1 := by
  obtain ⟨⟨others, behind⟩, readEq, same⟩ := Option.map_eq_some_iff.mp found
  obtain ⟨rfl, rfl⟩ := Prod.mk.inj same
  have shorterOthers := shorter readEq
  rw [List.length_cons]
  omega

/-- Reading what stands in quotes makes nothing longer, and the last quote is left out. -/
theorem length_of_quoted {content : List Char}
    (closed : Escaped.quoted letters = some (content, rest)) :
    content.length + rest.length < letters.length := by
  fun_induction Escaped.quoted letters generalizing content rest with
  | case1 =>
      obtain ⟨rfl, rfl⟩ := Prod.mk.inj (Option.some.inj closed)
      simp
  | case2 _ _ _ _ _ ih | case3 _ _ _ _ _ _ _ _ _ ih | case4 _ _ _ _ ih =>
      obtain ⟨character, -, closed⟩ := Option.bind_eq_some_iff.mp closed
      have shorter := length_of_before ih closed
      simp only [List.length_cons]
      omega
  | case5 => cases closed
  | case6 _ _ _ _ _ _ _ ih => exact length_of_before ih closed
  | case7 => cases closed

theorem length_skipSpaces (characters : List Char) :
    (skipSpaces characters).length ≤ characters.length :=
  (List.dropWhile_sublist _).length_le

theorem length_of_key {name : String} (named : key characters = some (name, rest)) :
    rest.length < characters.length := by
  have shorter := length_skipSpaces characters
  unfold key at named
  dsimp only at named
  split at named
  · rename_i letters behind found
    have behindShorter : behind.length ≤ (skipSpaces characters).length := by
      split at found
      · rename_i kept keptEq
        have := length_of_quoted found
        rw [keptEq, List.length_cons]
        omega
      · rw [List.span_eq_takeWhile_dropWhile] at found
        split at found
        · cases found
        · rename_i same
          obtain ⟨-, rfl⟩ := Prod.mk.inj same
          obtain ⟨-, rfl⟩ := Prod.mk.inj (Option.some.inj found)
          exact (List.dropWhile_sublist _).length_le
    have last := length_skipSpaces behind
    split at named
    · rename_i afterSign signEq
      obtain ⟨-, rfl⟩ := Prod.mk.inj (Option.some.inj named)
      rw [signEq, List.length_cons] at last
      omega
    · cases named
  · cases named

mutual

theorem Spells.length_le {characters rest : List Char} {setting : RawSetting} :
    Spells characters setting rest → rest.length ≤ characters.length
  | .intro begins =>
      (length_skipSpaces _).trans (begins.length_le.trans (length_skipSpaces _))

theorem Begins.length_le {characters rest : List Char} {setting : RawSetting} :
    Begins characters setting rest → rest.length ≤ characters.length
  | .yes rest => (List.suffix_append ['t', 'r', 'u', 'e'] rest).length_le
  | .no rest => (List.suffix_append ['f', 'a', 'l', 's', 'e'] rest).length_le
  | .table each => each.length_le.trans (Nat.le_succ _)
  | .list each => each.length_le.trans (Nat.le_succ _)
  | .quoted closed => by
      have shorter := length_of_quoted closed
      rw [List.length_cons]
      omega
  | .letter letter rest => (List.suffix_append ['\'', letter, '\''] rest).length_le
  | .float _ _ => (List.dropWhile_sublist _).length_le
  | .integer _ _ _ => (List.dropWhile_sublist _).length_le
  | .text _ _ _ => (List.dropWhile_sublist _).length_le

theorem SpellItems.length_le {characters rest : List Char} {found : List RawSetting} :
    SpellItems characters found rest → rest.length ≤ characters.length
  | .none _ => Nat.le_succ _
  | .last _ spells => (Nat.le_succ _).trans spells.length_le
  | .more _ spells others =>
      others.length_le.trans ((Nat.le_succ _).trans spells.length_le)

theorem SpellPairs.length_le {characters rest : List Char}
    {found : List (String × RawSetting)} :
    SpellPairs characters found rest → rest.length ≤ characters.length
  | .none _ => Nat.le_succ _
  | .last _ named spells =>
      (Nat.le_succ _).trans (spells.length_le.trans (length_of_key named).le)
  | .more _ named spells others =>
      others.length_le.trans
        ((Nat.le_succ _).trans (spells.length_le.trans (length_of_key named).le))

end

-- None of the cases before the last one can be the one that is taken for a word.
theorem BeginWord.value_eq (beginWord : BeginWord kept) (keptEq : skipSpaces characters = kept) :
    value (fuel + 1) characters = some (word (kept.takeWhile (!isDelimiter ·)),
      skipSpaces (kept.dropWhile (!isDelimiter ·))) := by
  obtain ⟨notYes, notNo, first⟩ := beginWord
  rw [value, keptEq]
  split
  · exact absurd (List.prefix_append ['t', 'r', 'u', 'e'] _) notYes
  · exact absurd (List.prefix_append ['f', 'a', 'l', 's', 'e'] _) notNo
  · exact absurd (by decide) (first _ rfl)
  · exact absurd (by decide) (first _ rfl)
  · exact absurd (by decide) (first _ rfl)
  · exact absurd (by decide) (first _ rfl)
  · exact absurd (by decide) (first _ rfl)
  · rw [List.span_eq_takeWhile_dropWhile]
    rfl

-- Of the two steps for a character one is for a value and one for the list or table that it
-- stands in; behind a bracket, a comma or the name of a pair fewer characters are left.
mutual

theorem Spells.value_eq {characters rest : List Char} {setting : RawSetting} :
    Spells characters setting rest → ∀ {fuel}, 2 * characters.length + 1 ≤ fuel →
      value fuel characters = some (setting, rest)
  | _, 0, enough => absurd enough (Nat.not_succ_le_zero _)
  | .intro begins, fuel + 1, enough => by
      have shorter := length_skipSpaces characters
      exact begins.value_eq rfl (by omega)

theorem Begins.value_eq {characters kept behind : List Char} {setting : RawSetting}
    {fuel : Nat} : Begins kept setting behind → skipSpaces characters = kept →
      2 * kept.length ≤ fuel → value (fuel + 1) characters = some (setting, skipSpaces behind)
  | .yes rest, keptEq, _ => by rw [value, keptEq]; rfl
  | .no rest, keptEq, _ => by rw [value, keptEq]; rfl
  | .table each, keptEq, enough => by
      have read := each.pairs_eq enough
      rw [value, keptEq]
      simp only [read]
      rfl
  | .list each, keptEq, enough => by
      have read := each.items_eq enough
      rw [value, keptEq]
      simp only [read]
      rfl
  | .quoted closed, keptEq, _ => by
      rw [value, keptEq]
      simp only [closed]
      rfl
  | .letter letter rest, keptEq, _ => by rw [value, keptEq]; rfl
  | .float beginWord found, keptEq, _ => by
      rw [beginWord.value_eq keptEq, word, ← firstWord, found]
  | .integer beginWord notDecimal found, keptEq, _ => by
      rw [beginWord.value_eq keptEq, word, ← firstWord, decimal?_eq_none_iff.mpr notDecimal, found]
  | .text beginWord notDecimal notInteger, keptEq, _ => by
      rw [beginWord.value_eq keptEq, word, ← firstWord, decimal?_eq_none_iff.mpr notDecimal,
        integer?_eq_none_iff.mpr notInteger]

theorem SpellItems.items_eq {characters rest : List Char} {found : List RawSetting} :
    SpellItems characters found rest → ∀ {fuel}, 2 * characters.length + 2 ≤ fuel →
      items fuel characters = some (found, rest)
  | _, 0, enough => absurd enough (Nat.not_succ_le_zero _)
  | .none _, _ + 1, _ => rfl
  | .last filled spells, fuel + 1, enough => by
      have read := spells.value_eq (Nat.le_of_succ_le_succ enough)
      rw [items.eq_3 _ _ (head?_ne_some_iff.mp filled)]
      simp only [read]
      rfl
  | .more filled spells others, fuel + 1, enough => by
      have shorter := spells.length_le
      rw [List.length_cons] at shorter
      have read := spells.value_eq (Nat.le_of_succ_le_succ enough)
      have readOthers := others.items_eq (show _ ≤ fuel by omega)
      rw [items.eq_3 _ _ (head?_ne_some_iff.mp filled)]
      simp only [read, readOthers, Option.bind_eq_bind, Option.bind_some]
      rfl

theorem SpellPairs.pairs_eq {characters rest : List Char}
    {found : List (String × RawSetting)} :
    SpellPairs characters found rest → ∀ {fuel}, 2 * characters.length + 2 ≤ fuel →
      pairs fuel characters = some (found, rest)
  | _, 0, enough => absurd enough (Nat.not_succ_le_zero _)
  | .none _, _ + 1, _ => rfl
  | .last filled named spells, fuel + 1, enough => by
      have nameShorter := length_of_key named
      have read := spells.value_eq (show _ ≤ fuel by omega)
      rw [pairs.eq_3 _ _ (head?_ne_some_iff.mp filled)]
      simp only [named, read, Option.bind_eq_bind, Option.bind_some]
      rfl
  | .more filled named spells others, fuel + 1, enough => by
      have nameShorter := length_of_key named
      have shorter := spells.length_le
      rw [List.length_cons] at shorter
      have read := spells.value_eq (show _ ≤ fuel by omega)
      have readOthers := others.pairs_eq (show _ ≤ fuel by omega)
      rw [pairs.eq_3 _ _ (head?_ne_some_iff.mp filled)]
      simp only [named, read, readOthers, Option.bind_eq_bind, Option.bind_some]
      rfl

end

/-- With two steps for each character, reading finds just what is spelled. -/
theorem value_eq_some_iff (enough : 2 * characters.length + 1 ≤ fuel) :
    value fuel characters = some (setting, rest) ↔ Spells characters setting rest :=
  ⟨(readsSpelled fuel).value, fun spells => spells.value_eq enough⟩

variable {content : String}

theorem read_of_spells (spells : Spells content.toList setting []) :
    read content = distinct setting := by
  rw [read, spells.value_eq (Nat.le_succ _)]

theorem read_of_not_spells (nothing : ∀ setting, ¬ Spells content.toList setting []) :
    read content = .text content := by
  unfold read
  dsimp only
  split
  · rename_i found
    exact absurd ((value_eq_some_iff (Nat.le_succ _)).mp found) (nothing _)
  · rfl

/-- A word that is not a number and holds nothing that would be left out. -/
structure IsPlain (characters : List Char) : Prop where
  beginWord : BeginWord characters
  undivided : ∀ character ∈ characters, isDelimiter character = false
  trimmed : trimBlanks characters = characters
  notDecimal : ¬ IsDecimal characters
  notInteger : ¬ IsInteger characters

theorem isBlank_of_isSpace {character : Char} (isSpace : isSpace character = true) :
    isBlank character = true := by
  simp only [Environment.isSpace, Bool.or_eq_true, beq_iff_eq] at isSpace
  rcases isSpace with (((rfl | rfl) | rfl) | rfl) | rfl <;> rfl

theorem skipSpaces_of_trimmed (trimmed : trimBlanks characters = characters) :
    skipSpaces characters = characters := by
  cases characters with
  | nil => rfl
  | cons first others =>
      have isFirst : first ∈ (trimBlanks (first :: others)).head? := by
        rw [trimmed]
        rfl
      have noBlank := isBlank_of_mem_head?_trimBlanks isFirst
      refine List.dropWhile_cons_of_neg fun isSpace => ?_
      rw [isBlank_of_isSpace isSpace] at noBlank
      cases noBlank

theorem IsPlain.spells (plain : IsPlain content.toList) :
    Spells content.toList (.text content) [] := by
  obtain ⟨beginWord, undivided, trimmed, notDecimal, notInteger⟩ := plain
  have passes : ∀ character ∈ content.toList, (!isDelimiter character) = true :=
    fun character member => by rw [undivided character member, Bool.not_false]
  have wordEq : firstWord content.toList = content.toList := by
    rw [firstWord, List.takeWhile_eq_self_iff.mpr passes, trimmed]
  have restEq : content.toList.dropWhile (!isDelimiter ·) = [] := by
    rw [List.dropWhile_eq_nil_iff]
    exact passes
  have begins := Begins.text beginWord (by rwa [wordEq]) (by rwa [wordEq])
  rw [wordEq, restEq, String.ofList_toList] at begins
  nth_rewrite 1 [← skipSpaces_of_trimmed trimmed] at begins
  exact .intro begins

theorem length_firstWord (characters : List Char) :
    (firstWord characters).length ≤ characters.length :=
  (isInfix_trimBlanks _).length_le.trans (List.takeWhile_prefix _).length_le

/-- Only a plain text spells itself: quotes are left out, and so are blanks around a word. -/
theorem isPlain_of_spells (spells : Spells content.toList (.text content) []) :
    IsPlain content.toList := by
  generalize valueEq : RawSetting.text content = value at spells
  generalize [] = rest at spells
  have keptShorter := length_skipSpaces content.toList
  obtain ⟨begins⟩ := spells
  generalize keptEq : skipSpaces content.toList = kept at begins keptShorter
  cases begins with
  | quoted closed =>
      obtain rfl := RawSetting.text.inj valueEq
      have shorter := length_of_quoted closed
      rw [String.toList_ofList, List.length_cons] at keptShorter
      omega
  | text beginWord notDecimal notInteger =>
      have wordEq : firstWord kept = content.toList := by
        rw [RawSetting.text.inj valueEq, String.toList_ofList]
      -- Nothing is left out, for the word is as long as what it is taken from.
      obtain rfl : kept = content.toList := by
        have suffix : kept <:+ content.toList := keptEq ▸ List.dropWhile_suffix _
        exact suffix.eq_of_length_le (wordEq ▸ length_firstWord kept)
      have wordInfix := isInfix_trimBlanks (content.toList.takeWhile (!isDelimiter ·))
      rw [← firstWord, wordEq] at wordInfix
      have undivided : content.toList.takeWhile (!isDelimiter ·) = content.toList :=
        (List.takeWhile_prefix _).eq_of_length_le wordInfix.length_le
      have trimmed : trimBlanks content.toList = content.toList := by
        rwa [firstWord, undivided] at wordEq
      rw [wordEq] at notDecimal notInteger
      refine ⟨beginWord, fun character member => ?_, trimmed, notDecimal, notInteger⟩
      simpa using List.takeWhile_eq_self_iff.mp undivided character member
  | _ => cases valueEq

theorem singleton_ne_of_spells {letter : Char}
    (spells : Spells content.toList (.letter letter) []) : String.singleton letter ≠ content := by
  rintro rfl
  generalize valueEq : RawSetting.letter letter = value at spells
  generalize [] = rest at spells
  have keptShorter := length_skipSpaces (String.singleton letter).toList
  obtain ⟨begins⟩ := spells
  generalize skipSpaces (String.singleton letter).toList = kept at begins keptShorter
  cases begins with
  | letter found rest =>
      simp at keptShorter
  | _ => cases valueEq

/-- A text that is plain, or that spells nothing, and so stands for itself. -/
inductive Kept (content : String) : Prop
  | plain (isPlain : IsPlain content.toList)
  | nothing (noValue : ∀ value, ¬ Spells content.toList value [])

/-- A text that spells another one. -/
inductive SpellsOther (content other : String) : Prop
  | text (spells : Spells content.toList (.text other) []) (differ : other ≠ content)
  | letter {letter : Char} (spells : Spells content.toList (.letter letter) [])
      (single : other = String.singleton letter)

/-- A text that spells a number, a truth value, a list or a table. -/
inductive SpellsNoText (content : String) : Prop
  | intro {value : RawSetting} (spells : Spells content.toList value [])
      (noText : ∀ other, value ≠ .text other) (noLetter : ∀ letter, value ≠ .letter letter)

theorem kept_or_spells (content : String) :
    Kept content ∨ (∃ other, SpellsOther content other) ∨ SpellsNoText content := by
  by_cases noValue : ∀ value, ¬ Spells content.toList value []
  · exact .inl (.nothing noValue)
  · push Not at noValue
    obtain ⟨value, spells⟩ := noValue
    cases value with
    | text other =>
        by_cases same : other = content
        · subst same
          exact .inl (.plain (isPlain_of_spells spells))
        · exact .inr (.inl ⟨other, .text spells same⟩)
    | letter letter => exact .inr (.inl ⟨_, .letter spells rfl⟩)
    | _ => exact .inr (.inr (.intro spells (by simp) (by simp)))

theorem SpellsOther.differ {other : String} (spellsOther : SpellsOther content other) :
    other ≠ content := by
  cases spellsOther with
  | text _ differ => exact differ
  | letter spells single =>
      rw [single]
      exact singleton_ne_of_spells spells

end Environment

end EditorLaunch
