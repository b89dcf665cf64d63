import EditorLaunch.Proofs.Text.Utf8
import EditorLaunch.Text.Percent

/-!
# Percent escapes and back

An escape is read back as its octet, and an octet other than the percent sign is
read as itself.  What is written with escapes consists of escapes and of those
characters of the original that may stand by themselves.
-/

namespace EditorLaunch

namespace Percent

theorem decode_cons_of_ne {octet : UInt8} {rest : List UInt8} (ne : octet ≠ 0x25) :
    decode (octet :: rest) = octet :: decode rest := by
  rw [decode]
  intro high low others same
  exact absurd same ne

/-- The octet of a digit in an escape. -/
def digitOctet (value : Nat) : UInt8 :=
  .ofNat (Hex.capitalDigit value).toNat

theorem utf8EncodeChar_capitalDigit {value : Nat} (isDigit : value < 16) :
    String.utf8EncodeChar (Hex.capitalDigit value) = [digitOctet value] := by
  revert value
  decide

theorem digitValue?_digitOctet {value : Nat} (isDigit : value < 16) :
    digitValue? (digitOctet value) = some value := by
  revert value
  decide

theorem encode_escape (octet : UInt8) :
    Utf8.encode (escape octet) =
      [0x25, digitOctet (octet.toNat / 16), digitOctet (octet.toNat % 16)] := by
  have small := octet.toNat_lt
  have high : octet.toNat / 16 < 16 := by omega
  have low : octet.toNat % 16 < 16 := by omega
  have sign : String.utf8EncodeChar '%' = [0x25] := by decide
  simp only [escape, Utf8.encode_cons, Utf8.encode_nil, sign,
    utf8EncodeChar_capitalDigit high, utf8EncodeChar_capitalDigit low, List.cons_append,
    List.nil_append]

/-- An escape is read back as its octet. -/
theorem decode_escape (octet : UInt8) (rest : List UInt8) :
    decode (Utf8.encode (escape octet) ++ rest) = octet :: decode rest := by
  have small := octet.toNat_lt
  have high := digitValue?_digitOctet (show octet.toNat / 16 < 16 by omega)
  have low := digitValue?_digitOctet (show octet.toNat % 16 < 16 by omega)
  have joined : octet.toNat / 16 * 16 + octet.toNat % 16 = octet.toNat := by omega
  rw [encode_escape, List.cons_append, List.cons_append, List.cons_append,
    List.nil_append, decode, high, low]
  simp only [joined, UInt8.ofNat_toNat]

theorem decode_escapes (octets rest : List UInt8) :
    decode (Utf8.encode (octets.flatMap escape) ++ rest) = octets ++ decode rest := by
  induction octets with
  | nil => rfl
  | cons octet others ih =>
      rw [List.flatMap_cons, Utf8.encode_append, List.append_assoc, decode_escape, ih,
        List.cons_append]

/-- Characters of escapes. -/
def IsEscaping (character : Char) : Prop :=
  character = '%' ∨ ∃ value < 16, character = Hex.capitalDigit value

theorem IsEscaping.ne_sign {character : Char} (escaping : IsEscaping character) :
    character ≠ '?' ∧ character ≠ '#' := by
  rcases escaping with rfl | ⟨value, isDigit, rfl⟩
  · decide
  · revert value
    decide

theorem isEscaping_of_mem_escapes {octets : List UInt8} {character : Char}
    (member : character ∈ octets.flatMap escape) : IsEscaping character := by
  obtain ⟨octet, -, inEscape⟩ := List.mem_flatMap.mp member
  have small := octet.toNat_lt
  simp only [escape, List.mem_cons, List.not_mem_nil, or_false] at inEscape
  rcases inEscape with rfl | rfl | rfl
  · exact .inl rfl
  · exact .inr ⟨_, by omega, rfl⟩
  · exact .inr ⟨_, by omega, rfl⟩

theorem isEscaping_or_bare_of_mem_encode {mustEscape : Char → Bool}
    {characters : List Char} {character : Char}
    (member : character ∈ encode mustEscape characters) :
    IsEscaping character ∨ character ∈ characters ∧ mustEscape character = false := by
  obtain ⟨original, inOriginal, written⟩ := List.mem_flatMap.mp member
  unfold encodeChar at written
  split at written
  · exact .inl (isEscaping_of_mem_escapes written)
  · rename_i bare
    rw [List.mem_singleton] at written
    subst written
    simp only [Bool.or_eq_true, not_or, Bool.not_eq_true] at bare
    exact .inr ⟨inOriginal, bare.2⟩

end Percent

end EditorLaunch
