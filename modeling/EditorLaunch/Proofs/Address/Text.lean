import EditorLaunch.Proofs.Json.ReadBack
import EditorLaunch.Proofs.Url.Host
import Mathlib.Data.List.Induction

/-!
# Numeric addresses read back

A short address has one spelling, which is its text.  A long one has several, of which its
text is one: the groups that stand on both sides of the two colons are read one by one, and
the zeros that are left out are those of the longest run.  No spelling of one kind is a
spelling of the other.
-/

namespace EditorLaunch

/-- The number that decimal digits stand for. -/
def decimalValue (digits : List Char) : Nat :=
  digits.foldl (fun value digit => value * 10 + (digit.toNat - 0x30)) 0

theorem decimalValue_toDigits (number : Nat) : decimalValue (Nat.toDigits 10 number) = number :=
  Json.digitsValue_toDigits number

theorem decimalValue_concat (front : List Char) (last : Char) :
    decimalValue (front ++ [last]) = decimalValue front * 10 + (last.toNat - 0x30) :=
  List.foldl_concat ..

theorem all_isDigit_toDigits (number : Nat) :
    (Nat.toDigits 10 number).all Char.isDigit = true :=
  List.all_eq_true.mpr fun _ => Nat.isDigit_of_mem_toDigits (by omega) (by omega)

theorem digitChar_of_isDigit {digit : Char} (isDigit : digit.isDigit = true) :
    digit.toNat - 0x30 < 10 ∧ Nat.digitChar (digit.toNat - 0x30) = digit := by
  have bounds : 0x30 ≤ digit.toNat ∧ digit.toNat ≤ 0x39 := by
    simpa [Char.isDigit, UInt32.le_iff_toNat_le] using isDigit
  have small : digit.toNat - 0x30 < 10 := by omega
  refine ⟨small, ?_⟩
  apply Char.toNat_inj.mp
  rw [Nat.toNat_digitChar_of_lt_ten small]
  omega

/-- Digits without zeros in front are those that their number is written with. -/
theorem toDigits_decimalValue {digits : List Char}
    (areDigits : ∀ digit ∈ digits, digit.isDigit = true) (filled : digits ≠ [])
    (noZero : digits.head? ≠ some '0' ∨ digits = ['0']) :
    Nat.toDigits 10 (decimalValue digits) = digits := by
  induction digits using List.reverseRecOn with
  | nil => exact absurd rfl filled
  | append_singleton front last ih =>
      obtain ⟨frontDigits, lastDigit⟩ := List.forall_mem_append.mp areDigits
      obtain ⟨small, written⟩ := digitChar_of_isDigit (lastDigit last (List.mem_singleton_self _))
      rw [decimalValue_concat]
      cases front with
      | nil =>
          have alone : decimalValue [] * 10 + (last.toNat - 0x30) = last.toNat - 0x30 :=
            Nat.zero_add _
          rw [alone, Nat.toDigits_of_lt_base small, written]
          rfl
      | cons first others =>
          have frontNoZero : (first :: others).head? ≠ some '0' := by
            rcases noZero with noZero | isZero
            · exact noZero
            · have sameLength := congrArg List.length isZero
              simp at sameLength
          have frontEq := ih frontDigits (List.cons_ne_nil _ _) (.inl frontNoZero)
          have positive : 0 < decimalValue (first :: others) := by
            by_contra zero
            rw [Nat.eq_zero_of_not_pos zero] at frontEq
            exact frontNoZero (by rw [← frontEq]; rfl)
          rw [Nat.mul_comm, ← Nat.toDigits_append_toDigits (by omega) positive small, frontEq,
            Nat.toDigits_of_lt_base small, written]

theorem number?_toDigits (number : Nat) :
    Hex.number? (Nat.toDigits 16 number) = some number := by
  have single : ∀ value < 16, Hex.value? (Nat.digitChar value) = some value := by decide
  induction number using Nat.strongRecOn with
  | ind number ih =>
      rcases Nat.lt_or_ge number 16 with small | large
      · rw [Nat.toDigits_of_lt_base small]
        simp [Hex.number?, single number small]
      · have higher := ih (number / 16) (Nat.div_lt_self (by omega) (by omega))
        simp only [Hex.number?, Option.bind_eq_bind, Option.bind_eq_some_iff, Option.pure_def,
          Option.some.injEq] at higher
        obtain ⟨values, valuesEq, folded⟩ := higher
        have lastEq := single (number % 16) (Nat.mod_lt _ (by omega))
        have whole : number / 16 * 16 + number % 16 = number := by omega
        rw [Nat.toDigits_of_base_le (by omega) large]
        simp [Hex.number?, valuesEq, lastEq, folded, whole]

namespace IpV4

theorem octet?_eq_some_iff {letters : List Char} {octet : UInt8} :
    octet? letters = some octet ↔ letters = Nat.toDigits 10 octet.toNat := by
  have below := octet.toNat_lt
  constructor
  · intro reads
    unfold octet? at reads
    split at reads
    · cases reads
    · rename_i refused
      simp only [not_or, List.isEmpty_iff, Bool.not_eq_true', Bool.not_eq_false, Nat.not_lt,
        not_and, not_not] at refused
      obtain ⟨filled, -, areDigits, noZero⟩ := refused
      dsimp only at reads
      split at reads
      · rename_i fits
        obtain rfl := Option.some.inj reads
        have valueEq : (UInt8.ofNat (decimalValue letters)).toNat = decimalValue letters :=
          Utf8.toNat_ofNat_of_lt fits
        have digits := List.all_eq_true.mp areDigits
        change letters = Nat.toDigits 10 (UInt8.ofNat (decimalValue letters)).toNat
        rw [valueEq, toDigits_decimalValue digits filled]
        by_cases zero : letters.head? = some '0'
        · exact .inr (noZero zero)
        · exact .inl zero
      · cases reads
  · rintro rfl
    have valueEq := decimalValue_toDigits octet.toNat
    have short : (Nat.toDigits 10 octet.toNat).length ≤ 3 :=
      (Nat.length_toDigits_le_iff (by omega) (by omega)).mpr (by omega)
    have noZero : (Nat.toDigits 10 octet.toNat).head? = some '0' →
        Nat.toDigits 10 octet.toNat = ['0'] := by
      intro zero
      rcases Nat.eq_zero_or_pos octet.toNat with isZero | positive
      · rw [isZero, Nat.toDigits_zero]
      · exact absurd zero (Json.head?_toDigits_ne_zero positive)
    rw [octet?, if_neg]
    · change (if decimalValue (Nat.toDigits 10 octet.toNat) < 256 then
        some (UInt8.ofNat (decimalValue (Nat.toDigits 10 octet.toNat))) else none) = some octet
      rw [valueEq, if_pos below, UInt8.ofNat_toNat]
    · rintro (isEmpty | long | noDigits | ⟨zero, more⟩)
      · exact Nat.toDigits_ne_nil (List.isEmpty_iff.mp isEmpty)
      · omega
      · rw [all_isDigit_toDigits] at noDigits
        cases noDigits
      · exact more (noZero zero)

theorem toList_text (address : IpV4) :
    address.text.toList = List.intercalate ['.'] [Nat.toDigits 10 address.first.toNat,
      Nat.toDigits 10 address.second.toNat, Nat.toDigits 10 address.third.toNat,
      Nat.toDigits 10 address.fourth.toNat] := by
  have point : (toString ".").toList = ['.'] := rfl
  simp [text, List.intercalate, point]

theorem sign_notMem_toDigits {sign : Char} (noDigit : sign.isDigit = false) (number : Nat) :
    sign ∉ Nat.toDigits 10 number := by
  intro member
  rw [Nat.isDigit_of_mem_toDigits (by omega) (by omega) member] at noDigit
  cases noDigit

/-- Only digits and points stand in the text of a short address. -/
theorem sign_notMem_text {sign : Char} (noDigit : ∀ digit < 10, Nat.digitChar digit ≠ sign)
    (noPoint : '.' ≠ sign) (address : IpV4) : sign ∉ address.text.toList := by
  have others : ∀ letter ∈ address.text.toList, letter ≠ sign :=
    Url.forall_mem_shortText noDigit noPoint address
  exact fun member => others sign member rfl

/-- The text of a short address is its only spelling. -/
theorem ofLetters?_eq_some_iff {letters : List Char} {address : IpV4} :
    ofLetters? letters = some address ↔ letters = address.text.toList := by
  constructor
  · intro reads
    unfold ofLetters? at reads
    split at reads
    · rename_i first second third fourth pieces
      simp only [Option.bind_eq_bind, Option.bind_eq_some_iff, octet?_eq_some_iff,
        Option.pure_def, Option.some.injEq] at reads
      obtain ⟨_, rfl, _, rfl, _, rfl, _, rfl, rfl⟩ := reads
      rw [toList_text, ← pieces, List.intercalate_splitOn]
    · cases reads
  · intro written
    rw [written, ofLetters?, toList_text,
      List.splitOn_intercalate '.' (by simp [sign_notMem_toDigits]) (List.cons_ne_nil _ _)]
    simp [octet?_eq_some_iff.mpr rfl]

end IpV4

namespace IpV6

theorem group?_groupText (group : UInt16) : group? (groupText group) = some group := by
  have short : (groupText group).length ≤ 4 :=
    (Nat.length_toDigits_le_iff (by omega) (by omega)).mpr group.toNat_lt
  have filled : groupText group ≠ [] := Nat.toDigits_ne_nil
  rw [group?, if_neg]
  · rw [groupText, number?_toDigits]
    simp
  · rintro (isEmpty | long)
    · exact filled (List.isEmpty_iff.mp isEmpty)
    · omega

theorem sign_notMem_groupText {sign : Char}
    (noDigit : ∀ digit < 16, Nat.digitChar digit ≠ sign) (group : UInt16) :
    sign ∉ groupText group := by
  intro member
  obtain ⟨digit, small, same⟩ := Url.exists_digitChar_of_mem_toDigits (by omega) member
  exact noDigit digit small same.symm

theorem readGroups?_map (mayMix : Bool) (groups : List UInt16) :
    readGroups? mayMix (groups.map groupText) = some groups := by
  induction groups with
  | nil => rfl
  | cons group rest ih =>
      cases rest with
      | nil =>
          have noPoint : (groupText group).contains '.' = false := by
            rw [List.contains_eq_mem, decide_eq_false_iff_not]
            exact sign_notMem_groupText (by decide) group
          simp only [List.map_cons, List.map_nil, readGroups?, noPoint, Bool.and_false,
            Bool.false_eq_true, if_false, group?_groupText, Option.map_some]
      | cons next others =>
          rw [List.map_cons] at ih
          simp only [List.map_cons, readGroups?, group?_groupText, ih, Option.bind_eq_bind,
            Option.bind_some, Option.pure_def]

theorem splitOn_joinGroups {groups : List UInt16} (filled : groups ≠ []) :
    (joinGroups groups).splitOn ':' = groups.map groupText := by
  apply List.splitOn_intercalate
  · intro piece member
    obtain ⟨group, -, rfl⟩ := List.mem_map.mp member
    exact sign_notMem_groupText (by decide) group
  · exact fun isEmpty => filled (List.map_eq_nil_iff.mp isEmpty)

theorem joinGroups_cons_cons (first second : UInt16) (rest : List UInt16) :
    joinGroups (first :: second :: rest) =
      groupText first ++ ':' :: joinGroups (second :: rest) := by
  rw [joinGroups, List.map_cons, List.map_cons, List.intercalate_cons_cons, List.append_assoc,
    List.singleton_append]
  rfl

theorem exists_joinGroups_eq_cons {groups : List UInt16} (filled : groups ≠ []) :
    ∃ first rest, joinGroups groups = first :: rest ∧ first ≠ ':' := by
  obtain ⟨group, others, rfl⟩ := List.exists_cons_of_ne_nil filled
  have digitsFilled : groupText group ≠ [] := Nat.toDigits_ne_nil
  obtain ⟨first, digits, written⟩ := List.exists_cons_of_ne_nil digitsFilled
  have noColon : first ≠ ':' := by
    rintro rfl
    have member : ':' ∈ groupText group := by
      rw [written]
      exact List.mem_cons_self
    exact sign_notMem_groupText (by decide) group member
  cases others with
  | nil => exact ⟨first, digits, by rw [joinGroups, List.map_singleton,
      List.intercalate_singleton, written], noColon⟩
  | cons next rest => exact ⟨first, _, by rw [joinGroups_cons_cons, written]; rfl,
      noColon⟩

theorem groupsOf?_joinGroups (mayMix : Bool) (groups : List UInt16) :
    groupsOf? mayMix (joinGroups groups) = some groups := by
  rcases eq_or_ne groups [] with rfl | filled
  · rfl
  · obtain ⟨first, rest, starts, -⟩ := exists_joinGroups_eq_cons filled
    have notEmpty : ¬ (joinGroups groups).isEmpty = true := by
      rw [starts]
      exact Bool.false_ne_true
    rw [groupsOf?, if_neg notEmpty, splitOn_joinGroups filled, readGroups?_map]

theorem divide_append {piece : List Char} (noColon : ':' ∉ piece) (before behind : List Char) :
    divide before (piece ++ behind) = divide (piece.reverse ++ before) behind := by
  induction piece generalizing before with
  | nil => rfl
  | cons letter rest ih =>
      rw [List.mem_cons, not_or] at noColon
      rw [List.cons_append, divide.eq_def]
      split
      · rename_i same
        exact absurd (List.cons.inj same).1.symm noColon.1
      · rename_i same
        obtain ⟨rfl, rfl⟩ := List.cons.inj same
        rw [ih noColon.2, List.reverse_cons, List.append_assoc, List.singleton_append]
      · rename_i same
        cases same

theorem divide_colon {first : Char} (noColon : first ≠ ':') (before rest : List Char) :
    divide before (':' :: first :: rest) = divide (':' :: before) (first :: rest) := by
  rw [divide.eq_def]
  split
  · rename_i same
    exact absurd (List.cons.inj (List.cons.inj same).2).1 noColon
  · rename_i same
    obtain ⟨rfl, rfl⟩ := List.cons.inj same
    rfl
  · rename_i same
    cases same

/-- No two colons stand in a row among groups. -/
theorem divide_joinGroups (groups : List UInt16) (before behind : List Char) :
    divide before (joinGroups groups ++ behind) =
      divide ((joinGroups groups).reverse ++ before) behind := by
  induction groups generalizing before with
  | nil => rfl
  | cons group rest ih =>
      have noColon : ':' ∉ groupText group := sign_notMem_groupText (by decide) group
      cases rest with
      | nil =>
          rw [joinGroups, List.map_singleton, List.intercalate_singleton]
          exact divide_append noColon before behind
      | cons next others =>
          obtain ⟨first, letters, starts, firstNoColon⟩ :=
            exists_joinGroups_eq_cons (List.cons_ne_nil next others)
          rw [joinGroups_cons_cons, List.append_assoc, divide_append noColon,
            List.cons_append]
          rw [starts] at ih ⊢
          have further := ih (':' :: ((groupText group).reverse ++ before))
          rw [List.cons_append] at further
          rw [List.cons_append, divide_colon firstNoColon, further]
          simp

/-- A run of which all groups are zero. -/
def IsRun (groups : List UInt16) (run : Run) : Prop :=
  ∀ index, run.start ≤ index → index < run.start + run.length → groups[index]? = some 0

theorem isRun_empty (groups : List UInt16) (start : Nat) : IsRun groups ⟨start, 0⟩ := by
  intro index above below
  dsimp only at above below
  omega

/-- The run with one more zero, which stands at `index`. -/
def Run.grown (run : Run) (index : Nat) : Run :=
  if run.length = 0 then ⟨index, 1⟩ else ⟨run.start, run.length + 1⟩

theorem longestRun_zero (index : Nat) (current best : Run) (rest : List UInt16) :
    longestRun index current best (0 :: rest) =
      longestRun (index + 1) (current.grown index)
        (if best.length < (current.grown index).length then current.grown index else best)
        rest :=
  if_pos rfl

theorem Run.end_grown {run : Run} {index : Nat}
    (ends : run.length = 0 ∨ run.start + run.length = index) :
    (run.grown index).start + (run.grown index).length = index + 1 := by
  unfold grown
  split
  · rfl
  · dsimp only
    omega

theorem IsRun.grown {groups : List UInt16} {run : Run} {index : Nat} (isRun : IsRun groups run)
    (ends : run.length = 0 ∨ run.start + run.length = index) (zero : groups[index]? = some 0) :
    IsRun groups (run.grown index) := by
  intro position above below
  rw [Run.end_grown ends] at below
  by_cases last : position = index
  · rw [last]
    exact zero
  · unfold Run.grown at above
    split at above
    · dsimp only at above
      omega
    · exact isRun position above (by omega)

/-- What the search for the longest run has in hand are runs: one that ends where the search
is, or none, and the longest so far. -/
theorem isRun_longestRun {before rest : List UInt16} {current best : Run}
    (ends : current.length = 0 ∨ current.start + current.length = before.length)
    (currentRun : IsRun (before ++ rest) current) (bestRun : IsRun (before ++ rest) best) :
    IsRun (before ++ rest) (longestRun before.length current best rest) := by
  induction rest generalizing before current best with
  | nil => exact bestRun
  | cons group rest ih =>
      have divided : before ++ group :: rest = (before ++ [group]) ++ rest := by simp
      have passed : before.length + 1 = (before ++ [group]).length := by simp
      by_cases zero : group = 0
      · subst zero
        have grownRun := currentRun.grown ends (by simp)
        have grownEnds := Run.end_grown ends
        rw [longestRun_zero, passed]
        rw [divided] at grownRun bestRun ⊢
        refine ih (.inr (by omega)) grownRun ?_
        split
        · exact grownRun
        · exact bestRun
      · rw [longestRun, if_neg zero, passed]
        rw [divided] at bestRun ⊢
        exact ih (.inl rfl) (isRun_empty _ _) bestRun

/-- A run that is not empty lies within its groups. -/
theorem IsRun.le_length {groups : List UInt16} {run : Run} (isRun : IsRun groups run)
    (filled : 0 < run.length) : run.start + run.length ≤ groups.length := by
  have last := isRun (run.start + run.length - 1) (by omega) (by omega)
  have within := (List.getElem?_eq_some_iff.mp last).1
  omega

/-- Zeros in the place of a run complete the groups around it. -/
theorem IsRun.completed {groups : List UInt16} {run : Run} (isRun : IsRun groups run)
    (within : run.start + run.length ≤ groups.length) :
    groups.take run.start ++ List.replicate run.length 0 ++
      groups.drop (run.start + run.length) = groups := by
  have zeros : (groups.drop run.start).take run.length = List.replicate run.length 0 := by
    refine List.eq_replicate_iff.mpr ⟨by simp; omega, fun group member => ?_⟩
    obtain ⟨offset, isOne⟩ := List.mem_iff_getElem?.mp member
    have below : offset < run.length := by
      by_contra beyond
      rw [List.getElem?_take, if_neg beyond] at isOne
      cases isOne
    rw [List.getElem?_take, if_pos below, List.getElem?_drop,
      isRun _ (Nat.le_add_right _ _) (by omega)] at isOne
    exact (Option.some.inj isOne).symm
  rw [← zeros, ← List.drop_drop, List.append_assoc, List.take_append_drop,
    List.take_append_drop]

/-- The text of a long address has all its groups, or those around a run of zeros. -/
theorem toList_text_cases (address : IpV6) :
    address.text.toList = joinGroups address.groups ∨
      ∃ run, IsRun address.groups run ∧ 2 ≤ run.length ∧ run.start + run.length ≤ 8 ∧
        address.text.toList = joinGroups (address.groups.take run.start) ++ ':' :: ':' ::
          joinGroups (address.groups.drop (run.start + run.length)) := by
  have complete := address.complete
  have isRun : IsRun ([] ++ address.groups) (longestRun 0 ⟨0, 0⟩ ⟨0, 0⟩ address.groups) :=
    isRun_longestRun (.inl rfl) (isRun_empty _ 0) (isRun_empty _ 0)
  rw [List.nil_append] at isRun
  rw [text, String.toList_ofList]
  split
  · exact .inl rfl
  · rename_i long
    have within := isRun.le_length (by omega)
    exact .inr ⟨_, isRun, by omega, by omega, rfl⟩

theorem ofGroups?_groups (address : IpV6) : ofGroups? address.groups = some address :=
  dif_pos address.complete

theorem ofLetters?_divided {head tail : List Char} {before behind : List UInt16} {address : IpV6}
    (divides : divide [] (head ++ ':' :: ':' :: tail) = (head, some tail))
    (headReads : groupsOf? false head = some before)
    (tailReads : groupsOf? true tail = some behind)
    (few : before.length + behind.length < 8)
    (completed : before ++ List.replicate (8 - before.length - behind.length) 0 ++ behind =
      address.groups) :
    ofLetters? (head ++ ':' :: ':' :: tail) = some address := by
  simp only [ofLetters?, divides, headReads, tailReads, Option.bind_eq_bind,
    Option.bind_some, if_pos few, completed, ofGroups?_groups]

theorem ofLetters?_text (address : IpV6) : ofLetters? address.text.toList = some address := by
  have complete := address.complete
  rcases toList_text_cases address with written | ⟨run, isRun, long, within, written⟩
  · have filled : address.groups ≠ [] := by
      intro isEmpty
      rw [isEmpty] at complete
      cases complete
    have whole : divide [] (joinGroups address.groups) = (joinGroups address.groups, none) := by
      have divided := divide_joinGroups address.groups [] []
      rw [List.append_nil, List.append_nil] at divided
      rw [divided, divide, List.reverse_reverse]
    simp only [written, ofLetters?, whole, splitOn_joinGroups filled, readGroups?_map,
      Option.bind_eq_bind, Option.bind_some, ofGroups?_groups]
  · have lengths : (address.groups.take run.start).length = run.start ∧
        (address.groups.drop (run.start + run.length)).length =
          8 - (run.start + run.length) := by
      rw [List.length_take, List.length_drop]
      omega
    rw [written]
    refine ofLetters?_divided ?_ (groupsOf?_joinGroups false _) (groupsOf?_joinGroups true _)
      (by omega) ?_
    · rw [divide_joinGroups, divide, List.append_nil, List.reverse_reverse]
    · have count : 8 - (address.groups.take run.start).length -
          (address.groups.drop (run.start + run.length)).length = run.length := by omega
      rw [count, isRun.completed (complete ▸ within)]

theorem octets_of_pair {high low : Nat} (highBelow : high < 0x10000) (lowBelow : low < 0x10000) :
    (high * 0x10000 + low) / 0x1000000 % 256 * 256 + (high * 0x10000 + low) / 0x10000 % 256 =
        high ∧
      (high * 0x10000 + low) / 0x100 % 256 * 256 + (high * 0x10000 + low) % 256 = low := by
  constructor
  · omega
  · omega

theorem groups_ofNumber (high low : UInt16) :
    (IpV4.ofNumber (high.toNat * 0x10000 + low.toNat)).groups = [high, low] := by
  obtain ⟨highEq, lowEq⟩ := octets_of_pair high.toNat_lt low.toNat_lt
  simp only [IpV4.ofNumber, IpV4.groups, UInt8.toNat_ofNat', Nat.reducePow, highEq, lowEq,
    UInt16.ofNat_toNat]

theorem point_mem_shortText (address : IpV4) : '.' ∈ address.text.toList := by
  rw [IpV4.toList_text, List.intercalate_cons_cons]
  simp

/-- Groups may end with a short address. -/
theorem groupsOf?_mixed {digits : List Char} {group : UInt16} (noColon : ':' ∉ digits)
    (reads : group? digits = some group) (address : IpV4) :
    groupsOf? true (digits ++ ':' :: address.text.toList) = some (group :: address.groups) := by
  have noColonBehind : ':' ∉ address.text.toList :=
    IpV4.sign_notMem_text (by decide) (by decide) address
  have pieces : (digits ++ ':' :: address.text.toList).splitOn ':' =
      [digits, address.text.toList] := by
    rw [List.splitOn_append_cons_self, List.splitOn_eq_singleton noColon,
      List.splitOn_eq_singleton noColonBehind]
    rfl
  have point : (address.text.toList).contains '.' = true := by
    rw [List.contains_eq_mem, decide_eq_true_iff]
    exact point_mem_shortText address
  have lastReads : IpV4.ofLetters? address.text.toList = some address :=
    IpV4.ofLetters?_eq_some_iff.mpr rfl
  have filled : ¬ (digits ++ ':' :: address.text.toList).isEmpty = true := by simp
  rw [groupsOf?, if_neg filled, pieces]
  simp only [readGroups?, reads, point, lastReads, Bool.and_self, if_true, Option.map_some,
    Option.bind_eq_bind, Option.bind_some, Option.pure_def]

/-- A short address behind the mark of mapped ones spells the long address it is mapped to. -/
theorem ofLetters?_mapped {address : IpV6} {high low : UInt16}
    (mapped : address.groups = [0, 0, 0, 0, 0, 0xFFFF, high, low]) :
    ofLetters? ("::ffff:" ++
      (IpV4.ofNumber (high.toNat * 0x10000 + low.toNat)).text).toList = some address := by
  have first : group? "ffff".toList = some 0xFFFF := by decide
  have behind := groupsOf?_mixed (by decide) first
    (IpV4.ofNumber (high.toNat * 0x10000 + low.toNat))
  rw [groups_ofNumber] at behind
  have divided (short : String) : ("::ffff:" ++ short).toList =
      [] ++ ':' :: ':' :: ("ffff".toList ++ ':' :: short.toList) := by
    rw [String.toList_append]
    rfl
  rw [divided]
  refine ofLetters?_divided rfl rfl behind (by simp) ?_
  rw [mapped]
  rfl

/-- The text of a long address is one of its spellings, also if it ends with a short one. -/
theorem ofLetters?_mixedText (address : IpV6) :
    ofLetters? address.mixedText.toList = some address := by
  unfold mixedText
  split
  · rename_i mapped
    exact ofLetters?_mapped mapped
  · exact ofLetters?_text address

/-- A letter that spells long addresses: a colon, a point or a digit. -/
def IsSpelling (letter : Char) : Prop :=
  letter = ':' ∨ letter = '.' ∨ (Hex.value? letter).isSome = true

instance (letter : Char) : Decidable (IsSpelling letter) :=
  inferInstanceAs (Decidable (_ ∨ _ ∨ _))

theorem isSpelling_of_group? {letters : List Char} {group : UInt16}
    (reads : group? letters = some group) : ∀ letter ∈ letters, IsSpelling letter := by
  unfold group? at reads
  split at reads
  · cases reads
  · simp only [Hex.number?, Option.bind_eq_bind, Option.bind_eq_some_iff] at reads
    obtain ⟨-, ⟨values, mapped, -⟩, -⟩ := reads
    intro letter member
    obtain ⟨value, valueEq⟩ := exists_result_of_mapM_eq_some mapped member
    exact .inr (.inr (by rw [valueEq]; rfl))

theorem isSpelling_of_readGroups? {mayMix : Bool} {pieces : List (List Char)}
    {groups : List UInt16} (reads : readGroups? mayMix pieces = some groups) :
    ∀ piece ∈ pieces, ∀ letter ∈ piece, IsSpelling letter := by
  fun_induction readGroups? mayMix pieces generalizing groups with
  | case1 => exact List.forall_mem_nil _
  | case2 last mixed =>
      obtain ⟨address, shortReads, -⟩ := Option.map_eq_some_iff.mp reads
      rw [IpV4.ofLetters?_eq_some_iff] at shortReads
      rw [shortReads]
      exact List.forall_mem_singleton.mpr
        (Url.forall_mem_shortText (by decide) (by decide) address)
  | case3 last plain =>
      obtain ⟨group, groupReads, -⟩ := Option.map_eq_some_iff.mp reads
      exact List.forall_mem_singleton.mpr (isSpelling_of_group? groupReads)
  | case4 first rest _ ih =>
      simp only [Option.bind_eq_bind, Option.bind_eq_some_iff] at reads
      obtain ⟨group, groupReads, others, restReads, -⟩ := reads
      exact List.forall_mem_cons.mpr ⟨isSpelling_of_group? groupReads, ih restReads⟩

theorem isSpelling_of_pieces {mayMix : Bool} {letters : List Char} {groups : List UInt16}
    (reads : readGroups? mayMix (letters.splitOn ':') = some groups) :
    ∀ letter ∈ letters, IsSpelling letter := by
  have joined : List.intercalate [':'] (letters.splitOn ':') = letters :=
    List.intercalate_splitOn ':'
  intro letter member
  rw [← joined] at member
  rcases mem_of_mem_intercalate member with rfl | ⟨piece, inPieces, inPiece⟩
  · exact .inl rfl
  · exact isSpelling_of_readGroups? reads piece inPieces letter inPiece

theorem isSpelling_of_groupsOf? {mayMix : Bool} {letters : List Char} {groups : List UInt16}
    (reads : groupsOf? mayMix letters = some groups) :
    ∀ letter ∈ letters, IsSpelling letter := by
  unfold groupsOf? at reads
  split at reads
  · rename_i isEmpty
    rw [List.isEmpty_iff.mp isEmpty]
    exact List.forall_mem_nil _
  · exact isSpelling_of_pieces reads

/-- Dividing loses nothing but the two colons. -/
theorem divide_complete (before letters : List Char) :
    (divide before letters).1 ++ ((divide before letters).2.elim [] (':' :: ':' :: ·)) =
      before.reverse ++ letters := by
  fun_induction divide before letters with
  | case1 => rfl
  | case2 before letter rest _ ih => simpa using ih
  | case3 before => rfl

/-- Whatever spells a long address consists of colons, points and digits. -/
theorem isSpelling_of_ofLetters? {letters : List Char} {address : IpV6}
    (reads : ofLetters? letters = some address) : ∀ letter ∈ letters, IsSpelling letter := by
  have complete := divide_complete [] letters
  rw [List.reverse_nil, List.nil_append] at complete
  unfold ofLetters? at reads
  split at reads
  · rename_i whole divided
    rw [divided, Option.elim_none, List.append_nil] at complete
    obtain ⟨groups, groupsRead, -⟩ := Option.bind_eq_some_iff.mp reads
    rw [← complete]
    exact isSpelling_of_pieces groupsRead
  · rename_i head tail divided
    rw [divided, Option.elim_some] at complete
    obtain ⟨before, headReads, reads⟩ := Option.bind_eq_some_iff.mp reads
    obtain ⟨behind, tailReads, -⟩ := Option.bind_eq_some_iff.mp reads
    rw [← complete, List.forall_mem_append, List.forall_mem_cons, List.forall_mem_cons]
    exact ⟨isSpelling_of_groupsOf? headReads, .inl rfl, .inl rfl,
      isSpelling_of_groupsOf? tailReads⟩

/-- Whatever spells a long address has a colon. -/
theorem colon_mem_of_ofLetters? {letters : List Char} {address : IpV6}
    (reads : ofLetters? letters = some address) : ':' ∈ letters := by
  by_contra noColon
  have divided : divide [] letters = (letters, none) := by
    have taken := divide_append noColon [] []
    rw [List.append_nil, List.append_nil] at taken
    rw [taken, divide, List.reverse_reverse]
  simp only [ofLetters?, divided, List.splitOn_eq_singleton noColon, readGroups?,
    Option.bind_eq_bind, Option.bind_eq_some_iff] at reads
  obtain ⟨groups, groupsRead, complete⟩ := reads
  have count : groups.length = 8 := by
    unfold ofGroups? at complete
    split at complete
    · assumption
    · cases complete
  split at groupsRead
  · obtain ⟨short, -, rfl⟩ := Option.map_eq_some_iff.mp groupsRead
    cases count
  · obtain ⟨group, -, rfl⟩ := Option.map_eq_some_iff.mp groupsRead
    cases count

end IpV6

/-- No spelling of a long address is one of a short address. -/
theorem IpV4.ofLetters?_of_long {letters : List Char} {long : IpV6}
    (reads : IpV6.ofLetters? letters = some long) : IpV4.ofLetters? letters = none := by
  rw [Option.eq_none_iff_forall_ne_some]
  intro short shortReads
  rw [ofLetters?_eq_some_iff] at shortReads
  have colon := IpV6.colon_mem_of_ofLetters? reads
  rw [shortReads] at colon
  exact sign_notMem_text (by decide) (by decide) short colon

end EditorLaunch
