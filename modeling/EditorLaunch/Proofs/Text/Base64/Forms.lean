import EditorLaunch.Proofs.Readers
import EditorLaunch.Proofs.Text.Base64
import EditorLaunch.Proofs.Text.Utf8

/-!
# What may be read as base 64

Whatever is read was written: the symbols of each group are those of the octets that it
is read as, and no more padding stands behind the last one than completes it.  A symbol
of another alphabet, bits that are left over and padding in excess are refused, since
they are not written for any octets.
-/

namespace EditorLaunch

namespace Base64

/-- A symbol that is read is the one that is written for its bits. -/
theorem eq_symbolOf_of_bitsOf? {octet : UInt8} {bits : Nat}
    (reads : bitsOf? octet = some bits) : bits < 64 ∧ octet = symbolOf bits := by
  have checked : ∀ value < 256, ∀ bits ∈ bitsOf? (.ofNat value),
      bits < 64 ∧ UInt8.ofNat value = symbolOf bits := by
    decide +kernel
  have found := checked octet.toNat octet.toNat_lt bits
  rw [UInt8.ofNat_toNat] at found
  exact found reads

theorem eq_symbolOf_of_readSymbol {offset bits : Nat} {octet : UInt8}
    (reads : readSymbol offset octet = .ok bits) : bits < 64 ∧ octet = symbolOf bits := by
  unfold readSymbol at reads
  split at reads
  · rename_i found isSymbol
    obtain rfl := Except.ok.inj reads
    exact eq_symbolOf_of_bitsOf? isSymbol
  · cases reads

theorem eq_map_of_readSymbols {offset : Nat} {octets : List UInt8} {symbols : List Nat}
    (reads : readSymbols offset octets = .ok symbols) :
    (∀ bits ∈ symbols, bits < 64) ∧ octets = symbols.map symbolOf := by
  induction octets generalizing offset symbols with
  | nil =>
      obtain rfl := Except.ok.inj reads
      exact ⟨by simp, rfl⟩
  | cons octet rest ih =>
      simp only [readSymbols, bind_eq_ok_iff] at reads
      obtain ⟨bits, first, others, later, reads⟩ := reads
      obtain rfl := Except.ok.inj reads
      obtain ⟨small, rfl⟩ := eq_symbolOf_of_readSymbol first
      obtain ⟨othersSmall, rfl⟩ := ih later
      exact ⟨List.forall_mem_cons.mpr ⟨small, othersSmall⟩, rfl⟩

theorem encode_joinFour {first second third fourth : Nat} (firstLt : first < 64)
    (secondLt : second < 64) (thirdLt : third < 64) (fourthLt : fourth < 64)
    (rest : List UInt8) :
    encode (joinFour first second third fourth ++ rest) =
      [first, second, third, fourth].map symbolOf ++ encode rest := by
  have one := UInt8.toNat_ofNat_of_lt' (show first * 4 + second / 16 < 256 by omega)
  have two := UInt8.toNat_ofNat_of_lt' (show second % 16 * 16 + third / 4 < 256 by omega)
  have three := UInt8.toNat_ofNat_of_lt' (show third % 4 * 64 + fourth < 256 by omega)
  have parts : (first * 4 + second / 16) / 4 = first ∧
      (first * 4 + second / 16) % 4 * 16 + (second % 16 * 16 + third / 4) / 16 = second ∧
      (second % 16 * 16 + third / 4) % 16 * 4 + (third % 4 * 64 + fourth) / 64 = third ∧
      (third % 4 * 64 + fourth) % 64 = fourth := by
    omega
  simp only [joinFour, List.cons_append, List.nil_append, encode, one, two, three, parts,
    List.map_cons, List.map_nil]

/-- The symbols of a last group are those that are written for its octets, and make four
together with their padding. -/
theorem encode_of_joinLast {offset : Nat} {octets found : List UInt8} {symbols : List Nat}
    (small : ∀ bits ∈ symbols, bits < 64)
    (joins : joinLast offset octets symbols = .ok found) :
    encode found = symbols.map symbolOf ∧
      symbols.length + paddingCount found.length = 4 := by
  unfold joinLast at joins
  split at joins
  · rename_i first second third fourth
    obtain rfl := Except.ok.inj joins
    obtain ⟨firstLt, secondLt, thirdLt, fourthLt⟩ :
        first < 64 ∧ second < 64 ∧ third < 64 ∧ fourth < 64 := by
      simpa using small
    have written := encode_joinFour firstLt secondLt thirdLt fourthLt []
    exact ⟨by simpa [encode] using written, by simp [joinFour, paddingCount]⟩
  · rename_i first second third
    obtain ⟨firstLt, secondLt, thirdLt⟩ : first < 64 ∧ second < 64 ∧ third < 64 := by
      simpa using small
    split at joins
    · rename_i unused
      obtain rfl := Except.ok.inj joins
      have one := UInt8.toNat_ofNat_of_lt' (show first * 4 + second / 16 < 256 by omega)
      have two := UInt8.toNat_ofNat_of_lt' (show second % 16 * 16 + third / 4 < 256 by omega)
      have parts : (first * 4 + second / 16) / 4 = first ∧
          (first * 4 + second / 16) % 4 * 16 + (second % 16 * 16 + third / 4) / 16 =
            second ∧
          (second % 16 * 16 + third / 4) % 16 * 4 = third := by
        omega
      exact ⟨by simp only [encode, one, two, parts, List.map_cons, List.map_nil], rfl⟩
    · cases joins
  · rename_i first second
    obtain ⟨firstLt, secondLt⟩ : first < 64 ∧ second < 64 := by
      simpa using small
    split at joins
    · rename_i unused
      obtain rfl := Except.ok.inj joins
      have one := UInt8.toNat_ofNat_of_lt' (show first * 4 + second / 16 < 256 by omega)
      have parts : (first * 4 + second / 16) / 4 = first ∧
          (first * 4 + second / 16) % 4 * 16 = second := by
        omega
      exact ⟨by simp only [encode, one, parts, List.map_cons, List.map_nil], rfl⟩
    · cases joins
  · cases joins

/-- Whole groups that are read are what is written for their octets. -/
theorem eq_encode_of_readGroups {offset : Nat} {octets found : List UInt8}
    (whole : 4 ∣ octets.length) (reads : readGroups offset octets = .ok found) :
    octets = encode found ∧ 3 ∣ found.length := by
  fun_induction readGroups offset octets generalizing found with
  | case1 offset first second third fourth rest ih =>
      simp only [bind_eq_ok_iff] at reads
      obtain ⟨one, oneReads, two, twoReads, three, threeReads, four, fourReads, others,
        othersRead, reads⟩ := reads
      obtain rfl := Except.ok.inj reads
      obtain ⟨oneLt, rfl⟩ := eq_symbolOf_of_readSymbol oneReads
      obtain ⟨twoLt, rfl⟩ := eq_symbolOf_of_readSymbol twoReads
      obtain ⟨threeLt, rfl⟩ := eq_symbolOf_of_readSymbol threeReads
      obtain ⟨fourLt, rfl⟩ := eq_symbolOf_of_readSymbol fourReads
      simp only [List.length_cons] at whole
      obtain ⟨rfl, wholeFound⟩ := ih (by omega) othersRead
      refine ⟨by rw [encode_joinFour oneLt twoLt threeLt fourLt]; rfl, ?_⟩
      simp only [joinFour, List.length_append, List.length_cons, List.length_nil]
      omega
  | case2 octets offset short =>
      obtain rfl := Except.ok.inj reads
      rcases octets with _ | ⟨first, _ | ⟨second, _ | ⟨third, _ | ⟨fourth, rest⟩⟩⟩⟩
      · exact ⟨rfl, by simp⟩
      · simp at whole
      · simp at whole
      · simp at whole
      · exact absurd rfl (short first second third fourth rest)

/-- The last group that is read is what is written for its octets, with no more padding
than these need. -/
theorem eq_encode_of_readLast {offset : Nat} {octets found : List UInt8}
    (few : octets.length ≤ 4) (reads : readLast offset octets = .ok found) :
    ∃ count ≤ paddingCount found.length,
      octets = encode found ++ List.replicate count padding := by
  simp only [readLast, bind_eq_ok_iff] at reads
  obtain ⟨bits, symbolsRead, reads⟩ := reads
  obtain ⟨small, symbolsEq⟩ := eq_map_of_readSymbols symbolsRead
  have divided := List.takeWhile_append_dropWhile (p := (· != padding)) (l := octets)
  rw [symbolsEq] at divided reads
  generalize octets.dropWhile (· != padding) = filling at divided reads
  split at reads
  · cases reads
  rename_i accepted
  have padded : filling = List.replicate filling.length padding := by
    refine List.eq_replicate_iff.mpr ⟨rfl, fun octet member => ?_⟩
    have filled := List.isEmpty_eq_false_iff.mpr (List.ne_nil_of_mem member)
    simp only [filled, Bool.not_false, Bool.true_and, Bool.or_eq_true, not_or,
      List.any_eq_true, not_exists, not_and, bne_iff_ne, not_not] at accepted
    exact accepted.2 octet member
  obtain ⟨written, complete⟩ := encode_of_joinLast small reads
  have lengths := congrArg List.length divided
  rw [List.length_append, List.length_map] at lengths
  refine ⟨filling.length, by omega, ?_⟩
  rw [written, ← padded, divided]

/-- Octets that are read are divided into whole groups and a last one. -/
theorem exists_groups_of_decode {octets found : List UInt8} (nonempty : octets ≠ [])
    (reads : decode octets = .ok found) :
    ∃ head tail,
      readGroups 0 (octets.take (groupedLength octets.length)) = .ok head ∧
        readLast (groupedLength octets.length)
            (octets.drop (groupedLength octets.length)) = .ok tail ∧
          found = head ++ tail := by
  unfold decode at reads
  rw [if_neg (by simpa using nonempty)] at reads
  dsimp only at reads
  split at reads
  · simp only [bind_eq_ok_iff] at reads
    obtain ⟨-, -, head, headReads, tail, tailReads, joined⟩ := reads
    exact ⟨head, tail, headReads, tailReads, (Except.ok.inj joined).symm⟩
  · simp only [bind_eq_ok_iff] at reads
    obtain ⟨head, headReads, tail, tailReads, joined⟩ := reads
    exact ⟨head, tail, headReads, tailReads, (Except.ok.inj joined).symm⟩

/-- Octets are read exactly if they are what is written for some others, with padding
that is full, partial or left out. -/
theorem decode_eq_ok_iff {octets found : List UInt8} :
    decode octets = .ok found ↔
      ∃ count ≤ paddingCount found.length,
        octets = encode found ++ List.replicate count padding := by
  constructor
  · intro reads
    by_cases isEmpty : octets = []
    · subst isEmpty
      obtain rfl := Except.ok.inj reads
      exact ⟨0, Nat.zero_le _, rfl⟩
    · have positive := List.length_pos_iff.mpr isEmpty
      obtain ⟨head, tail, headReads, tailReads, rfl⟩ := exists_groups_of_decode isEmpty reads
      have grouped : 4 ∣ groupedLength octets.length ∧
          groupedLength octets.length ≤ octets.length ∧
          octets.length ≤ groupedLength octets.length + 4 := by
        unfold groupedLength
        split
        · omega
        · omega
      obtain ⟨headEq, whole⟩ := eq_encode_of_readGroups
        (by rw [List.length_take]; omega) headReads
      obtain ⟨count, fits, tailEq⟩ := eq_encode_of_readLast
        (by rw [List.length_drop]; omega) tailReads
      refine ⟨count, (paddingCount_append whole).symm ▸ fits, ?_⟩
      rw [encode_append whole, List.append_assoc, ← headEq, ← tailEq,
        List.take_append_drop]
  · rintro ⟨count, fits, rfl⟩
    exact decode_encode found fits

theorem exists_symbolOf_of_mem_text {octets : List UInt8} {letter : Char}
    (member : letter ∈ (text octets).toList) :
    ∃ bits < 64, letter = Char.ofNat (symbolOf bits).toNat := by
  rw [text, String.toList_ofList, List.mem_map] at member
  obtain ⟨octet, inEncoded, rfl⟩ := member
  obtain ⟨bits, small, rfl⟩ := exists_symbolOf_of_mem_encode inEncoded
  exact ⟨bits, small, rfl⟩

theorem four_dvd_length_encodePadded (octets : List UInt8) :
    4 ∣ (encodePadded octets).length := by
  by_cases isEmpty : octets = []
  · subst isEmpty
    exact Nat.dvd_zero 4
  · obtain ⟨front, last, rfl, whole, positive, few⟩ := exists_last_group isEmpty
    have frontLength := length_encode_of_whole whole
    have lastLength := (length_encode_last positive few).2
    rw [encodePadded, List.length_append, List.length_replicate, encode_append whole,
      paddingCount_append whole, List.length_append]
    omega

/-- The written form of octets as text, with so many equals signs behind it. -/
theorem ofText_text_append (octets : List UInt8) (count : Nat) :
    Utf8.ofText (text octets ++ String.ofList (List.replicate count '=')) =
      encode octets ++ List.replicate count padding := by
  have sign : Char.ofNat padding.toNat = '=' := by decide
  have ascii : ∀ octet ∈ encode octets ++ List.replicate count padding,
      octet.toNat < 0x80 := by
    have symbols : ∀ bits < 64, (symbolOf bits).toNat < 0x80 := by decide
    intro octet member
    rcases List.mem_append.mp member with inSymbols | inPadding
    · obtain ⟨bits, small, rfl⟩ := exists_symbolOf_of_mem_encode inSymbols
      exact symbols bits small
    · rw [(List.mem_replicate.mp inPadding).2]
      decide
  rw [Utf8.ofText, text, String.toList_append, String.toList_ofList, String.toList_ofList,
    ← sign, ← List.map_replicate (f := fun octet : UInt8 => Char.ofNat octet.toNat),
    ← List.map_append]
  exact Utf8.encode_ascii ascii

theorem equalsSign_not_mem_text (octets : List UInt8) : '=' ∉ (text octets).toList := by
  intro member
  obtain ⟨bits, small, isSign⟩ := exists_symbolOf_of_mem_text member
  revert bits
  decide

theorem ofText_text (octets : List UInt8) : Utf8.ofText (text octets) = encode octets := by
  have plain := ofText_text_append octets 0
  simpa using plain

theorem decode_text (octets : List UInt8) : decode (Utf8.ofText (text octets)) = .ok octets := by
  have read := decode_encode octets (Nat.zero_le _)
  rwa [List.replicate_zero, List.append_nil, ← ofText_text] at read

theorem text_injective {octets others : List UInt8} (same : text octets = text others) :
    octets = others := by
  have read := decode_text octets
  rw [same, decode_text others] at read
  exact (Except.ok.inj read).symm

end Base64

end EditorLaunch
