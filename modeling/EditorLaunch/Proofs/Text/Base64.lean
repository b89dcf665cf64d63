import EditorLaunch.Text.Base64

/-!
# Base 64 and back

Four symbols carry three octets.  Reading undoes writing group by group, and the
last group by how many octets are left for it: one, two or three of them need two,
one or no signs of padding, and none of these signs has to be there.
-/

namespace EditorLaunch

namespace Base64

theorem bitsOf?_symbolOf {bits : Nat} (small : bits < 64) :
    bitsOf? (symbolOf bits) = some bits := by
  revert bits
  decide

theorem readSymbol_symbolOf (offset : Nat) {bits : Nat} (small : bits < 64) :
    readSymbol offset (symbolOf bits) = .ok bits := by
  rw [readSymbol, bitsOf?_symbolOf small]

theorem symbolOf_ne_padding {bits : Nat} (small : bits < 64) :
    (symbolOf bits != padding) = true := by
  revert bits
  decide

theorem exists_symbolOf_of_mem_encode {octets : List UInt8} {octet : UInt8}
    (member : octet ∈ encode octets) : ∃ bits < 64, octet = symbolOf bits := by
  fun_induction encode octets with
  | case1 first second third rest ih =>
      have firstLt := first.toNat_lt
      have secondLt := second.toNat_lt
      have thirdLt := third.toNat_lt
      simp only [List.mem_cons] at member
      rcases member with rfl | rfl | rfl | rfl | inRest
      · exact ⟨_, by omega, rfl⟩
      · exact ⟨_, by omega, rfl⟩
      · exact ⟨_, by omega, rfl⟩
      · exact ⟨_, by omega, rfl⟩
      · exact ih inRest
  | case2 first second =>
      have firstLt := first.toNat_lt
      have secondLt := second.toNat_lt
      simp only [List.mem_cons, List.not_mem_nil, or_false] at member
      rcases member with rfl | rfl | rfl
      · exact ⟨_, by omega, rfl⟩
      · exact ⟨_, by omega, rfl⟩
      · exact ⟨_, by omega, rfl⟩
  | case3 first =>
      have firstLt := first.toNat_lt
      simp only [List.mem_cons, List.not_mem_nil, or_false] at member
      rcases member with rfl | rfl
      · exact ⟨_, by omega, rfl⟩
      · exact ⟨_, by omega, rfl⟩
  | case4 => cases member

/-- What is written consists of symbols and padding. -/
theorem of_mem_encodePadded {octets : List UInt8} {octet : UInt8}
    (member : octet ∈ encodePadded octets) :
    octet = padding ∨ ∃ bits < 64, octet = symbolOf bits := by
  rw [encodePadded, List.mem_append] at member
  rcases member with inSymbols | inPadding
  · exact .inr (exists_symbolOf_of_mem_encode inSymbols)
  · exact .inl (List.mem_replicate.mp inPadding).2

theorem ofNat_eq_of_toNat (octet : UInt8) {value : Nat} (same : value = octet.toNat) :
    UInt8.ofNat value = octet := by
  rw [same, UInt8.ofNat_toNat]

theorem joinFour_parts (first second third : UInt8) :
    joinFour (first.toNat / 4) (first.toNat % 4 * 16 + second.toNat / 16)
      (second.toNat % 16 * 4 + third.toNat / 64) (third.toNat % 64) =
        [first, second, third] := by
  have firstLt := first.toNat_lt
  have secondLt := second.toNat_lt
  have thirdLt := third.toNat_lt
  rw [joinFour, ofNat_eq_of_toNat first (by omega),
    ofNat_eq_of_toNat second (by omega),
    ofNat_eq_of_toNat third (by omega)]

theorem encode_append {front last : List UInt8} (whole : 3 ∣ front.length) :
    encode (front ++ last) = encode front ++ encode last := by
  fun_induction encode front with
  | case1 first second third rest ih =>
      have wholeRest : 3 ∣ rest.length := by
        simp only [List.length_cons] at whole
        omega
      simp only [List.cons_append, encode, ih wholeRest]
  | case2 first second => simp at whole
  | case3 first => simp at whole
  | case4 => simp

theorem length_encode_of_whole {front : List UInt8} (whole : 3 ∣ front.length) :
    4 ∣ (encode front).length := by
  fun_induction encode front with
  | case1 first second third rest ih =>
      have wholeRest : 3 ∣ rest.length := by
        simp only [List.length_cons] at whole
        omega
      have := ih wholeRest
      simp only [List.length_cons]
      omega
  | case2 first second => simp at whole
  | case3 first => simp at whole
  | case4 => simp

/-- Whole groups are read back. -/
theorem readGroups_encode {front : List UInt8} (whole : 3 ∣ front.length) (offset : Nat) :
    readGroups offset (encode front) = .ok front := by
  fun_induction encode front generalizing offset with
  | case1 first second third rest ih =>
      have firstLt := first.toNat_lt
      have secondLt := second.toNat_lt
      have thirdLt := third.toNat_lt
      have wholeRest : 3 ∣ rest.length := by
        simp only [List.length_cons] at whole
        omega
      rw [readGroups, readSymbol_symbolOf _ (by omega), readSymbol_symbolOf _ (by omega),
        readSymbol_symbolOf _ (by omega), readSymbol_symbolOf _ (by omega),
        ih wholeRest (offset + 4)]
      simp only [bind, Except.bind, pure, Except.pure, joinFour_parts, List.cons_append,
        List.nil_append]
  | case2 first second => simp at whole
  | case3 first => simp at whole
  | case4 => rfl

theorem readSymbols_map_symbolOf (offset : Nat) {symbols : List Nat}
    (small : ∀ bits ∈ symbols, bits < 64) :
    readSymbols offset (symbols.map symbolOf) = .ok symbols := by
  induction symbols generalizing offset with
  | nil => rfl
  | cons bits rest ih =>
      obtain ⟨bitsSmall, restSmall⟩ := List.forall_mem_cons.mp small
      rw [List.map_cons, readSymbols, readSymbol_symbolOf _ bitsSmall, ih _ restSmall]
      rfl

/-- Padding stands behind at least two symbols and is passed over. -/
theorem readLast_eq (offset count : Nat) (symbols : List Nat)
    (small : ∀ bits ∈ symbols, bits < 64) (enough : 2 ≤ symbols.length) :
    readLast offset (symbols.map symbolOf ++ List.replicate count padding) =
      joinLast offset (symbols.map symbolOf) symbols := by
  have bare : ∀ octet ∈ symbols.map symbolOf, (octet != padding) = true := by
    intro octet member
    obtain ⟨bits, inSymbols, rfl⟩ := List.mem_map.mp member
    exact symbolOf_ne_padding (small bits inSymbols)
  have noSymbol : (List.replicate count padding).takeWhile (· != padding) = [] := by
    cases count <;> simp [List.replicate_succ]
  have filling : (List.replicate count padding).dropWhile (· != padding) =
      List.replicate count padding := by
    cases count <;> simp [List.replicate_succ]
  have padded : (List.replicate count padding).any (· != padding) = false := by
    simp
  have notFewer : decide ((symbols.map symbolOf).length < 2) = false := by
    rw [List.length_map]
    exact decide_eq_false (by omega)
  rw [readLast, List.takeWhile_append_of_pos bare, List.dropWhile_append_of_pos bare,
    noSymbol, filling, List.append_nil, readSymbols_map_symbolOf _ small, padded, notFewer,
    Bool.or_false, Bool.and_false]
  rfl

/-- One to three octets are read back from the group that ends the written form, with
padding that is full, partial or left out. -/
theorem readLast_encode (offset : Nat) {last : List UInt8} (positive : 0 < last.length)
    (few : last.length ≤ 3) {count : Nat} (fits : count ≤ paddingCount last.length) :
    readLast offset (encode last ++ List.replicate count padding) = .ok last := by
  match last with
  | [first] =>
      have firstLt := first.toNat_lt
      have reads := readLast_eq offset count
        [first.toNat / 4, first.toNat % 4 * 16] (by simp; omega) (by simp)
      have unused : first.toNat % 4 * 16 % 16 = 0 := by omega
      change readLast offset (encode [first] ++ List.replicate count padding) = _ at reads
      rw [reads, joinLast, if_pos unused, ofNat_eq_of_toNat first (by omega)]
  | [first, second] =>
      have firstLt := first.toNat_lt
      have secondLt := second.toNat_lt
      have reads := readLast_eq offset count
        [first.toNat / 4, first.toNat % 4 * 16 + second.toNat / 16,
          second.toNat % 16 * 4] (by simp; omega) (by simp)
      have unused : second.toNat % 16 * 4 % 4 = 0 := by omega
      change readLast offset (encode [first, second] ++ List.replicate count padding) = _
        at reads
      rw [reads, joinLast, if_pos unused, ofNat_eq_of_toNat first (by omega),
        ofNat_eq_of_toNat second (by omega)]
  | [first, second, third] =>
      have firstLt := first.toNat_lt
      have secondLt := second.toNat_lt
      have thirdLt := third.toNat_lt
      have reads := readLast_eq offset count
        [first.toNat / 4, first.toNat % 4 * 16 + second.toNat / 16,
          second.toNat % 16 * 4 + third.toNat / 64, third.toNat % 64] (by simp; omega)
        (by simp)
      have written : encode [first, second, third] =
          [first.toNat / 4, first.toNat % 4 * 16 + second.toNat / 16,
            second.toNat % 16 * 4 + third.toNat / 64, third.toNat % 64].map symbolOf := by
        simp [encode]
      rw [written, reads, joinLast, joinFour_parts]

theorem paddingCount_append {front last : List UInt8} (whole : 3 ∣ front.length) :
    paddingCount (front ++ last).length = paddingCount last.length := by
  have sameRest : (front ++ last).length % 3 = last.length % 3 := by
    rw [List.length_append]
    omega
  rw [paddingCount, paddingCount, sameRest]

/-- What is behind the whole groups of octets: at least one of them, if there is any. -/
theorem exists_last_group {octets : List UInt8} (nonempty : octets ≠ []) :
    ∃ front last, octets = front ++ last ∧ 3 ∣ front.length ∧ 0 < last.length ∧
      last.length ≤ 3 := by
  have positive := List.length_pos_iff.mpr nonempty
  refine ⟨octets.take ((octets.length - 1) / 3 * 3),
    octets.drop ((octets.length - 1) / 3 * 3), (List.take_append_drop _ _).symm, ?_⟩
  rw [List.length_take, List.length_drop]
  omega

/-- The last group of a text is what makes no whole group, or else a whole one. -/
theorem decode_of_groups {front last : List UInt8} (whole : 4 ∣ front.length)
    (several : 2 ≤ last.length) (few : last.length ≤ 4) :
    decode (front ++ last) = (do
      let head ← readGroups 0 front
      let tail ← readLast front.length last
      return head ++ tail) := by
  have total : (front ++ last).length = front.length + last.length := List.length_append
  have filled : (front ++ last).isEmpty = false := by
    rw [List.isEmpty_eq_false_iff, ← List.length_pos_iff]
    omega
  have noLoneSymbol : decide ((front ++ last).length % 4 = 1) = false :=
    decide_eq_false (by omega)
  have grouped : groupedLength (front ++ last).length = front.length := by
    rw [groupedLength]
    split
    · omega
    · omega
  rw [decode, filled, noLoneSymbol, grouped]
  simp only [List.take_left, List.drop_left]
  rfl

theorem length_encode_last {last : List UInt8} (positive : 0 < last.length)
    (few : last.length ≤ 3) :
    2 ≤ (encode last).length ∧ (encode last).length + paddingCount last.length = 4 := by
  match last with
  | [_] => exact ⟨Nat.le_refl 2, rfl⟩
  | [_, _] => exact ⟨Nat.le_succ 2, rfl⟩
  | [_, _, _] => simp [encode, paddingCount]

/-- Octets that are written are read back, with padding that is full, partial or left
out. -/
theorem decode_encode (octets : List UInt8) {count : Nat}
    (fits : count ≤ paddingCount octets.length) :
    decode (encode octets ++ List.replicate count padding) = .ok octets := by
  by_cases isEmpty : octets = []
  · subst isEmpty
    obtain rfl := Nat.le_zero.mp fits
    rfl
  · obtain ⟨front, last, rfl, whole, positive, few⟩ := exists_last_group isEmpty
    rw [paddingCount_append whole] at fits
    have lastLength := length_encode_last positive few
    have tailLength : (encode last ++ List.replicate count padding).length =
        (encode last).length + count := by
      rw [List.length_append, List.length_replicate]
    rw [encode_append whole, List.append_assoc,
      decode_of_groups (length_encode_of_whole whole) (by omega) (by omega),
      readGroups_encode whole, readLast_encode _ positive few fits]
    rfl

theorem decode_encodePadded (octets : List UInt8) :
    decode (encodePadded octets) = .ok octets :=
  decode_encode octets (Nat.le_refl _)

end Base64

end EditorLaunch
