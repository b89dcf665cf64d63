import EditorLaunch.Proofs.Readers
import EditorLaunch.Proofs.Text.Percent
import EditorLaunch.Text.Form

/-!
# Form-encoded pairs and back

Pairs that are written are read back as they were, in their order, whatever their
names and values hold.  A text comes back because each of its characters does,
and the pieces come back because nothing that is written for a text looks like an
ampersand or an equals sign.
-/

namespace EditorLaunch

namespace Form

/-- How a character is written: as a plus sign, by escapes, or as itself. -/
theorem encodeChar_cases (character : Char) :
    character = ' ' ∧ encodeChar character = ['+'] ∨
      encodeChar character = (String.utf8EncodeChar character).flatMap Percent.escape ∨
      isBare character = true ∧ encodeChar character = [character] := by
  unfold encodeChar
  split
  · exact .inl ⟨‹_›, rfl⟩
  · unfold Percent.encodeChar
    split
    · exact .inr (.inl rfl)
    · rename_i bare
      simp only [Bool.or_eq_true, not_or, Bool.not_eq_true, Bool.not_eq_false'] at bare
      exact .inr (.inr ⟨bare.2, rfl⟩)

theorem isAlphanum_bounds {character : Char} (alphanumeric : character.isAlphanum = true) :
    0x30 ≤ character.toNat ∧ character.toNat ≤ 0x7A ∧ character.toNat ≠ 0x3D := by
  delta Char.isAlphanum Char.isAlpha Char.isUpper Char.isLower Char.isDigit at alphanumeric
  simp only [Bool.or_eq_true, Bool.and_eq_true, decide_eq_true_eq, ge_iff_le,
    UInt32.le_iff_toNat_le] at alphanumeric
  change (0x41 ≤ character.toNat ∧ character.toNat ≤ 0x5A ∨
    0x61 ≤ character.toNat ∧ character.toNat ≤ 0x7A) ∨
      0x30 ≤ character.toNat ∧ character.toNat ≤ 0x39 at alphanumeric
  omega

theorem isBare_bounds {character : Char} (bare : isBare character = true) :
    character.toNat < 0x80 ∧ character.toNat ≠ 0x23 ∧ character.toNat ≠ 0x25 ∧
      character.toNat ≠ 0x26 ∧ character.toNat ≠ 0x2B ∧ character.toNat ≠ 0x3D := by
  simp only [isBare, Bool.or_eq_true, beq_iff_eq] at bare
  rcases bare with (((alphanumeric | rfl) | rfl) | rfl) | rfl
  · have := isAlphanum_bounds alphanumeric
    omega
  all_goals decide

/-- Octets with blanks for plus signs. -/
def spaced (octets : List UInt8) : List UInt8 :=
  octets.map fun octet => if octet = 0x2B then 0x20 else octet

theorem spaced_append (before behind : List UInt8) :
    spaced (before ++ behind) = spaced before ++ spaced behind :=
  List.map_append

/-- Octets that neither separate nor stand for a blank. -/
def IsContent (octet : UInt8) : Prop :=
  octet ≠ 0x26 ∧ octet ≠ 0x2B ∧ octet ≠ 0x3D

theorem spaced_of_content {octets : List UInt8}
    (content : ∀ octet ∈ octets, IsContent octet) : spaced octets = octets := by
  induction octets with
  | nil => rfl
  | cons octet rest ih =>
      have noPlus : octet ≠ 0x2B := (content octet List.mem_cons_self).2.1
      have others := ih fun other member => content other (List.mem_cons_of_mem _ member)
      rw [spaced, List.map_cons, if_neg noPlus]
      exact congrArg (octet :: ·) others

theorem isContent_digitOctet {value : Nat} (isDigit : value < 16) :
    IsContent (Percent.digitOctet value) := by
  unfold IsContent
  revert value
  decide

theorem isContent_of_mem_escapes {octets : List UInt8} {octet : UInt8}
    (member : octet ∈ Utf8.encode (octets.flatMap Percent.escape)) : IsContent octet := by
  induction octets with
  | nil => cases member
  | cons first rest ih =>
      rw [List.flatMap_cons, Utf8.encode_append, List.mem_append] at member
      rcases member with inFirst | inRest
      · have small := first.toNat_lt
        simp only [Percent.encode_escape, List.mem_cons, List.not_mem_nil, or_false] at inFirst
        rcases inFirst with rfl | rfl | rfl
        · unfold IsContent
          decide
        · exact isContent_digitOctet (by omega)
        · exact isContent_digitOctet (by omega)
      · exact ih inRest

theorem encode_bare {character : Char} (bare : isBare character = true) :
    ∃ octet, String.utf8EncodeChar character = [octet] ∧ octet ≠ 0x25 ∧
      IsContent octet := by
  obtain ⟨ascii, -, noPercent, noAmpersand, noPlus, noEquals⟩ := isBare_bounds bare
  have value : (UInt8.ofNat character.toNat).toNat = character.toNat :=
    Utf8.toNat_ofNat_of_lt (by omega)
  have ne (octet : UInt8) (other : character.toNat ≠ octet.toNat) :
      UInt8.ofNat character.toNat ≠ octet := by
    rintro rfl
    exact other value.symm
  refine ⟨.ofNat character.toNat, ?_, ne 0x25 noPercent, ne 0x26 noAmpersand,
    ne 0x2B noPlus, ne 0x3D noEquals⟩
  have fits : character.val.toNat ≤ 0x7F := by
    change character.toNat ≤ 0x7F
    omega
  rw [String.utf8EncodeChar, if_pos fits]
  rfl

/-- What is written for a character is read back as its octets. -/
theorem decode_encodeChar (character : Char) (rest : List UInt8) :
    Percent.decode (spaced (Utf8.encode (encodeChar character)) ++ rest) =
      String.utf8EncodeChar character ++ Percent.decode rest := by
  rcases encodeChar_cases character with ⟨rfl, blank⟩ | escaped | ⟨bare, itself⟩
  · have written : spaced (Utf8.encode ['+']) = [0x20] := by decide
    have read : String.utf8EncodeChar ' ' = [0x20] := by decide
    rw [blank, written, read, List.singleton_append, Percent.decode_cons_of_ne (by decide),
      List.singleton_append]
  · rw [escaped, spaced_of_content fun _ => isContent_of_mem_escapes,
      Percent.decode_escapes]
  · obtain ⟨octet, written, noPercent, content⟩ := encode_bare bare
    rw [itself, Utf8.encode_cons, Utf8.encode_nil, List.append_nil, written,
      spaced_of_content (by simpa using content), List.singleton_append,
      Percent.decode_cons_of_ne noPercent, List.singleton_append]

theorem decode_encodeCharacters (characters : List Char) :
    Percent.decode (spaced (Utf8.encode (characters.flatMap encodeChar))) =
      Utf8.encode characters := by
  induction characters with
  | nil => rfl
  | cons character rest ih =>
      rw [List.flatMap_cons, Utf8.encode_append, spaced_append, decode_encodeChar, ih,
        Utf8.encode_cons]

/-- A text is read back as it was written. -/
theorem decodeText_encodeText (text : String) :
    decodeText (Utf8.encode (encodeText text)) = text := by
  change Utf8.toTextLossy (Percent.decode (spaced (Utf8.encode (encodeText text)))) = text
  rw [encodeText, decode_encodeCharacters]
  exact Utf8.toTextLossy_ofText text

/-- Nothing that is written for a text separates. -/
theorem ne_of_mem_encodeText {text : String} {octet : UInt8}
    (member : octet ∈ Utf8.encode (encodeText text)) : octet ≠ 0x26 ∧ octet ≠ 0x3D := by
  unfold encodeText at member
  generalize text.toList = characters at member
  induction characters with
  | nil => cases member
  | cons character rest ih =>
      rw [List.flatMap_cons, Utf8.encode_append, List.mem_append] at member
      rcases member with inFirst | inRest
      · rcases encodeChar_cases character with ⟨-, blank⟩ | escaped | ⟨bare, itself⟩
        · rw [blank, show Utf8.encode ['+'] = [0x2B] by decide, List.mem_singleton]
            at inFirst
          subst inFirst
          decide
        · rw [escaped] at inFirst
          have content := isContent_of_mem_escapes inFirst
          exact ⟨content.1, content.2.2⟩
        · obtain ⟨written, writtenEq, -, content⟩ := encode_bare bare
          rw [itself, Utf8.encode_cons, Utf8.encode_nil, List.append_nil, writtenEq,
            List.mem_singleton] at inFirst
          subst inFirst
          exact ⟨content.1, content.2.2⟩
      · exact ih inRest

theorem encode_encodePair (pair : Pair) :
    Utf8.encode (encodePair pair) =
      Utf8.encode (encodeText pair.1) ++ 0x3D :: Utf8.encode (encodeText pair.2) := by
  have sign : String.utf8EncodeChar '=' = [0x3D] := by decide
  rw [encodePair, Utf8.encode_append, Utf8.encode_cons, sign, List.singleton_append]

/-- The first equals sign of a pair stands behind its name. -/
theorem decodePair_encodePair (pair : Pair) :
    decodePair (Utf8.encode (encodePair pair)) = pair := by
  have inName : ∀ octet ∈ Utf8.encode (encodeText pair.1), (octet != 0x3D) = true := by
    intro octet member
    simpa using (ne_of_mem_encodeText member).2
  rw [encode_encodePair, decodePair, List.takeWhile_append_of_pos inName,
    List.dropWhile_append_of_pos inName]
  simp [decodeText_encodeText]

theorem not_mem_encode_encodePair (pair : Pair) :
    0x26 ∉ Utf8.encode (encodePair pair) := by
  rw [encode_encodePair, List.mem_append, List.mem_cons]
  rintro (inName | isSign | inValue)
  · exact (ne_of_mem_encodeText inName).1 rfl
  · exact absurd isSign (by decide)
  · exact (ne_of_mem_encodeText inValue).1 rfl

/-- Pairs that are written are read back in their order. -/
theorem decode_encode (pairs : List Pair) : decode (encode pairs) = pairs := by
  have octets : Utf8.ofText (encode pairs) =
      List.intercalate [0x26] (pairs.map fun pair => Utf8.encode (encodePair pair)) := by
    rw [Utf8.ofText, encode, String.toList_ofList, Utf8.encode_intercalate, List.map_map]
    rfl
  rw [decode, octets, decodeOctets]
  cases pairs with
  | nil => rfl
  | cons first rest =>
      have divided : ∀ piece ∈ (first :: rest).map fun pair => Utf8.encode (encodePair pair),
          0x26 ∉ piece := by
        intro piece member
        obtain ⟨pair, -, rfl⟩ := List.mem_map.mp member
        exact not_mem_encode_encodePair pair
      have filled : ∀ piece ∈ (first :: rest).map fun pair => Utf8.encode (encodePair pair),
          (!piece.isEmpty) = true := by
        intro piece member
        obtain ⟨pair, -, rfl⟩ := List.mem_map.mp member
        simp [encode_encodePair]
      rw [List.splitOn_intercalate 0x26 divided (by simp), List.filter_eq_self.mpr filled,
        List.map_map]
      exact List.map_id'' decodePair_encodePair _

/-- What is written for pairs: signs, escapes, and characters that stand for
themselves. -/
theorem mem_encode_cases {pairs : List Pair} {character : Char}
    (member : character ∈ (encode pairs).toList) :
    character ∈ ['+', '=', '&'] ∨ Percent.IsEscaping character ∨
      isBare character = true := by
  have inText {text : String} (inText : character ∈ encodeText text) :
      character ∈ ['+', '=', '&'] ∨ Percent.IsEscaping character ∨
        isBare character = true := by
    obtain ⟨original, -, written⟩ := List.mem_flatMap.mp inText
    rcases encodeChar_cases original with ⟨-, blank⟩ | escaped | ⟨bare, itself⟩
    · rw [blank, List.mem_singleton] at written
      simp [written]
    · rw [escaped] at written
      exact .inr (.inl (Percent.isEscaping_of_mem_escapes written))
    · rw [itself, List.mem_singleton] at written
      exact .inr (.inr (written ▸ bare))
  rw [encode, String.toList_ofList] at member
  rcases mem_of_mem_intercalate member with rfl | ⟨piece, inPieces, inPiece⟩
  · simp
  · obtain ⟨pair, -, rfl⟩ := List.mem_map.mp inPieces
    rw [encodePair, List.mem_append, List.mem_cons] at inPiece
    rcases inPiece with inName | rfl | inValue
    · exact inText inName
    · simp
    · exact inText inValue

theorem ne_numberSign_of_mem_encode {pairs : List Pair} {character : Char}
    (member : character ∈ (encode pairs).toList) : character ≠ '#' := by
  rcases mem_encode_cases member with isSign | escaping | bare
  · rintro rfl
    exact absurd isSign (by decide)
  · exact escaping.ne_sign.2
  · rintro rfl
    exact (isBare_bounds bare).2.1 rfl

end Form

end EditorLaunch
