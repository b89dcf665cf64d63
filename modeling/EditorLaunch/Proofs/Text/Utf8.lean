import EditorLaunch.Text.Utf8
import Mathlib.Tactic.SplitIfs

/-!
# Reading back what was written as UTF-8

Octets that were written from characters are not damaged, and reading them
leniently gives the characters back, whatever damage is marked with.  The first
octet of a character announces how many octets follow, and the bounds of the
second one exclude exactly the spellings that are too long and the halves of
surrogate pairs.
-/

namespace EditorLaunch

/-- What is checked of all codes below a bound holds of every character below it. -/
theorem holds_of_codes (holds : Char → Prop) {bound : Nat}
    (checked : ∀ code < bound, holds (Char.ofNat code)) {character : Char}
    (below : character.toNat < bound) : holds character := by
  have held := checked character.toNat below
  rwa [Char.ofNat_toNat] at held

namespace Utf8

theorem encode_nil : encode [] = [] :=
  rfl

theorem encode_cons (character : Char) (rest : List Char) :
    encode (character :: rest) = String.utf8EncodeChar character ++ encode rest :=
  List.flatMap_cons ..

theorem encode_append (before behind : List Char) :
    encode (before ++ behind) = encode before ++ encode behind :=
  List.flatMap_append

/-- The value of an octet that is written from a small number. -/
theorem toNat_ofNat_of_lt {value : Nat} (small : value < 256) :
    (UInt8.ofNat value).toNat = value := by
  rw [UInt8.toNat_ofNat']
  omega

/-- An octet that follows adds the six bits that it was written from. -/
theorem follow_part {count value low high part : Nat} {rest : List UInt8}
    (above : low ≤ part % 64 + 0x80) (below : part % 64 + 0x80 ≤ high) :
    follow (count + 1) value low high (.ofNat (part % 64 + 0x80) :: rest) =
      follow count (value * 64 + part % 64) 0x80 0xBF rest := by
  have octet : (UInt8.ofNat (part % 64 + 0x80)).toNat = part % 64 + 0x80 :=
    toNat_ofNat_of_lt (by omega)
  rw [follow, octet, if_pos ⟨above, below⟩, Nat.add_sub_cancel]

variable {mark : List Char}

theorem decodeMarking_of_follow {octet : UInt8} {octets rest : List UInt8}
    {bits following low high code : Nat}
    (announced : lead? octet = some ⟨bits, following, low, high⟩)
    (followed : follow following bits low high octets = (some code, rest)) :
    decodeMarking mark (octet :: octets) = Char.ofNat code :: decodeMarking mark rest := by
  rw [decodeMarking, announced]
  simp only [followed, Option.map_some, Option.getD_some, List.singleton_append]

/-- The code points of characters. -/
def IsScalar (code : Nat) : Prop :=
  code < 0xD800 ∨ 0xDFFF < code ∧ code < 0x110000

theorem decodeMarking_one {code : Nat} (below : code ≤ 0x7F) (rest : List UInt8) :
    decodeMarking mark (.ofNat code :: rest) = Char.ofNat code :: decodeMarking mark rest := by
  have octet : (UInt8.ofNat code).toNat = code := toNat_ofNat_of_lt (by omega)
  have announced : lead? (.ofNat code) = some ⟨code, 0, 0x80, 0xBF⟩ := by
    simp only [lead?, octet]
    rw [if_pos (by omega)]
  exact decodeMarking_of_follow announced rfl

theorem decodeMarking_two {code : Nat} (above : 0x7F < code) (below : code ≤ 0x7FF)
    (rest : List UInt8) :
    decodeMarking mark (.ofNat (code / 64 % 32 + 0xC0) :: .ofNat (code % 64 + 0x80) :: rest) =
      Char.ofNat code :: decodeMarking mark rest := by
  have octet : (UInt8.ofNat (code / 64 % 32 + 0xC0)).toNat = code / 64 + 0xC0 := by
    rw [toNat_ofNat_of_lt (by omega)]
    omega
  have announced : lead? (.ofNat (code / 64 % 32 + 0xC0)) =
      some ⟨code / 64, 1, 0x80, 0xBF⟩ := by
    simp only [lead?, octet]
    rw [if_neg (by omega), if_pos (by omega), Nat.add_sub_cancel]
  refine decodeMarking_of_follow announced ?_
  have joined : code / 64 * 64 + code % 64 = code := by omega
  rw [follow_part (by omega) (by omega), joined, follow]

/-- The second octet of three is bounded so that the code point needs three octets
and is no half of a pair. -/
theorem exists_lead?_of_three {octet : UInt8} {code : Nat}
    (value : octet.toNat = code / 4096 + 0xE0) (above : 0x7FF < code)
    (below : code ≤ 0xFFFF) (scalar : IsScalar code) :
    ∃ low high, lead? octet = some ⟨code / 4096, 2, low, high⟩ ∧
      low ≤ code / 64 % 64 + 0x80 ∧ code / 64 % 64 + 0x80 ≤ high := by
  unfold IsScalar at scalar
  simp only [lead?, value]
  rw [if_neg (by omega), if_neg (by omega)]
  split_ifs with first surrogates others
  · have bits : code / 4096 = 0 := by omega
    exact ⟨0xA0, 0xBF, by rw [bits], by omega, by omega⟩
  · have bits : code / 4096 = 0xD := by omega
    exact ⟨0x80, 0x9F, by rw [bits], by omega, by omega⟩
  · exact ⟨0x80, 0xBF, by rw [Nat.add_sub_cancel], by omega, by omega⟩
  all_goals omega

theorem decodeMarking_three {code : Nat} (above : 0x7FF < code) (below : code ≤ 0xFFFF)
    (scalar : IsScalar code) (rest : List UInt8) :
    decodeMarking mark (.ofNat (code / 4096 % 16 + 0xE0) :: .ofNat (code / 64 % 64 + 0x80) ::
        .ofNat (code % 64 + 0x80) :: rest) =
      Char.ofNat code :: decodeMarking mark rest := by
  have octet : (UInt8.ofNat (code / 4096 % 16 + 0xE0)).toNat = code / 4096 + 0xE0 := by
    rw [toNat_ofNat_of_lt (by omega)]
    omega
  obtain ⟨low, high, announced, lowLe, leHigh⟩ :=
    exists_lead?_of_three octet above below scalar
  refine decodeMarking_of_follow announced ?_
  have joined : (code / 4096 * 64 + code / 64 % 64) * 64 + code % 64 = code := by omega
  rw [follow_part lowLe leHigh, follow_part (by omega) (by omega), joined, follow]

/-- The second octet of four is bounded so that the code point needs four octets
and is not beyond the last one. -/
theorem exists_lead?_of_four {octet : UInt8} {code : Nat}
    (value : octet.toNat = code / 262144 + 0xF0) (above : 0xFFFF < code)
    (scalar : IsScalar code) :
    ∃ low high, lead? octet = some ⟨code / 262144, 3, low, high⟩ ∧
      low ≤ code / 4096 % 64 + 0x80 ∧ code / 4096 % 64 + 0x80 ≤ high := by
  unfold IsScalar at scalar
  simp only [lead?, value]
  rw [if_neg (by omega), if_neg (by omega), if_neg (by omega), if_neg (by omega),
    if_neg (by omega)]
  split_ifs with first others last
  · have bits : code / 262144 = 0 := by omega
    exact ⟨0x90, 0xBF, by rw [bits], by omega, by omega⟩
  · exact ⟨0x80, 0xBF, by rw [Nat.add_sub_cancel], by omega, by omega⟩
  · have bits : code / 262144 = 4 := by omega
    exact ⟨0x80, 0x8F, by rw [bits], by omega, by omega⟩
  all_goals omega

theorem decodeMarking_four {code : Nat} (above : 0xFFFF < code) (scalar : IsScalar code)
    (rest : List UInt8) :
    decodeMarking mark (.ofNat (code / 262144 % 8 + 0xF0) :: .ofNat (code / 4096 % 64 + 0x80) ::
        .ofNat (code / 64 % 64 + 0x80) :: .ofNat (code % 64 + 0x80) :: rest) =
      Char.ofNat code :: decodeMarking mark rest := by
  have octet : (UInt8.ofNat (code / 262144 % 8 + 0xF0)).toNat = code / 262144 + 0xF0 := by
    unfold IsScalar at scalar
    rw [toNat_ofNat_of_lt (by omega)]
    omega
  obtain ⟨low, high, announced, lowLe, leHigh⟩ := exists_lead?_of_four octet above scalar
  refine decodeMarking_of_follow announced ?_
  have joined : ((code / 262144 * 64 + code / 4096 % 64) * 64 + code / 64 % 64) * 64 +
      code % 64 = code := by omega
  rw [follow_part lowLe leHigh, follow_part (by omega) (by omega),
    follow_part (by omega) (by omega), joined, follow]

theorem decodeMarking_utf8EncodeChar (character : Char) (rest : List UInt8) :
    decodeMarking mark (String.utf8EncodeChar character ++ rest) =
      character :: decodeMarking mark rest := by
  have scalar : IsScalar character.val.toNat := character.valid
  have named : Char.ofNat character.val.toNat = character := Char.ofNat_toNat character
  unfold String.utf8EncodeChar
  dsimp only
  split_ifs with one two three
  · exact (decodeMarking_one one rest).trans (by rw [named])
  · exact (decodeMarking_two (by omega) two rest).trans (by rw [named])
  · exact (decodeMarking_three (by omega) three scalar rest).trans (by rw [named])
  · exact (decodeMarking_four (by omega) scalar rest).trans (by rw [named])

/-- Characters that were written are read back. -/
theorem decodeMarking_encode (mark characters : List Char) :
    decodeMarking mark (encode characters) = characters := by
  induction characters with
  | nil => rw [encode_nil, decodeMarking]
  | cons character rest ih => rw [encode_cons, decodeMarking_utf8EncodeChar, ih]

theorem toTextLossy_ofText (text : String) : toTextLossy (ofText text) = text := by
  rw [toTextLossy, ofText, decodeLossy, decodeMarking_encode, String.ofList_toList]

theorem toByteArray_eq (text : String) : text.toByteArray = ⟨(ofText text).toArray⟩ := by
  apply ByteArray.ext
  rw [← String.utf8Encode_toList, List.utf8Encode, List.data_toByteArray]
  rfl

/-- What was written from a text is well formed. -/
theorem toText?_ofText (text : String) : toText? (ofText text) = some text := by
  rw [toText?, ← toByteArray_eq, String.fromUTF8?, dif_pos text.isValidUTF8]
  rfl

/-- What is well formed was written from its text. -/
theorem toText?_eq_some_iff {octets : List UInt8} {text : String} :
    toText? octets = some text ↔ octets = ofText text := by
  constructor
  · intro reads
    unfold toText? String.fromUTF8? at reads
    split at reads
    · obtain rfl := Option.some.inj reads
      have same := toByteArray_eq (String.fromUTF8 ⟨octets.toArray⟩ ‹_›)
      exact congrArg (fun bytes => bytes.data.toList) same
    · cases reads
  · rintro rfl
    exact toText?_ofText text

theorem ofText_injective {text other : String} (same : ofText text = ofText other) :
    text = other :=
  Option.some.inj (by rw [← toText?_ofText text, same, toText?_ofText other])

theorem utf8EncodeChar_ofNat :
    ∀ code < 0x80, String.utf8EncodeChar (Char.ofNat code) = [.ofNat code] := by
  decide

/-- A character of ASCII is written as one octet. -/
theorem utf8EncodeChar_of_ascii {character : Char} (ascii : character.toNat < 0x80) :
    String.utf8EncodeChar character = [.ofNat character.toNat] := by
  have written := utf8EncodeChar_ofNat character.toNat ascii
  rwa [Char.ofNat_toNat] at written

theorem mem_utf8EncodeChar {octet : UInt8} {character : Char}
    (member : octet ∈ String.utf8EncodeChar character) :
    0x80 ≤ octet.toNat ∨ octet.toNat = character.toNat := by
  change _ ∨ octet.toNat = character.val.toNat
  unfold String.utf8EncodeChar at member
  dsimp only at member
  split_ifs at member <;>
    simp only [List.mem_cons, List.not_mem_nil, or_false] at member
  · subst member
    rw [toNat_ofNat_of_lt (by omega)]
    exact .inr rfl
  · rcases member with rfl | rfl
    all_goals
      rw [toNat_ofNat_of_lt (by omega)]
      omega
  · rcases member with rfl | rfl | rfl
    all_goals
      rw [toNat_ofNat_of_lt (by omega)]
      omega
  · rcases member with rfl | rfl | rfl | rfl
    all_goals
      rw [toNat_ofNat_of_lt (by omega)]
      omega

/-- The octet of a sign of ASCII stands among those of a text exactly if the sign stands
in the text. -/
theorem mem_encode_iff {sign : Char} (ascii : sign.toNat < 0x80) {letters : List Char} :
    UInt8.ofNat sign.toNat ∈ encode letters ↔ sign ∈ letters := by
  have small : (UInt8.ofNat sign.toNat).toNat = sign.toNat := toNat_ofNat_of_lt (by omega)
  rw [encode, List.mem_flatMap]
  constructor
  · rintro ⟨letter, inLetters, inOctets⟩
    have same := mem_utf8EncodeChar inOctets
    rw [small] at same
    have codeEq : sign.toNat = letter.toNat := same.resolve_left (by omega)
    have letterEq : sign = letter := by
      rw [← Char.ofNat_toNat sign, codeEq, Char.ofNat_toNat]
    exact letterEq ▸ inLetters
  · intro inLetters
    refine ⟨sign, inLetters, ?_⟩
    rw [utf8EncodeChar_of_ascii ascii]
    exact List.mem_singleton_self _

/-- Octets of ASCII are the octets of their characters. -/
theorem encode_ascii {octets : List UInt8} (ascii : ∀ octet ∈ octets, octet.toNat < 0x80) :
    encode (octets.map fun octet => Char.ofNat octet.toNat) = octets := by
  induction octets with
  | nil => rfl
  | cons octet rest ih =>
      obtain ⟨octetAscii, restAscii⟩ := List.forall_mem_cons.mp ascii
      rw [List.map_cons, encode_cons, utf8EncodeChar_ofNat _ octetAscii, UInt8.ofNat_toNat,
        ih restAscii, List.singleton_append]

theorem encode_intercalate (pieces : List (List Char)) :
    encode (List.intercalate ['&'] pieces) =
      List.intercalate [0x26] (pieces.map encode) := by
  have sign : encode ['&'] = [0x26] := by decide
  induction pieces with
  | nil => rfl
  | cons first rest ih =>
      cases rest with
      | nil => simp [List.intercalate_singleton]
      | cons second others =>
          rw [List.intercalate_cons_cons, encode_append, encode_append, ih, sign]
          simp only [List.map_cons, List.intercalate_cons_cons]

end Utf8

end EditorLaunch
