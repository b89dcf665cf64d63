import EditorLaunch.Proofs.Text.Form

/-!
# Form-encoded texts with escapes put in

A text that is read as the query of an address gets escapes for the characters that may not
stand there.  Reading it as a form afterwards gives what would have been read before, for a
percent sign in the text does not come to stand before two digits that way: what is escaped
is no digit, and an escape begins with none.  Escaped characters are no plus signs either.
-/

namespace EditorLaunch

namespace Percent

variable {octet : UInt8} {octets written : List UInt8}

/-- Octets that do not begin with two digits, so that a percent sign before them stays one. -/
def KeepsSign (octets : List UInt8) : Prop :=
  ∀ high low others, octets = high :: low :: others →
    digitValue? high = none ∨ digitValue? low = none

theorem decode_cons_of_keepsSign (keeps : octet = 0x25 → KeepsSign octets) :
    decode (octet :: octets) = octet :: decode octets := by
  by_cases sign : octet = 0x25
  · subst sign
    match octets with
    | [] => rfl
    | [_] => rfl
    | high :: low :: others =>
        rw [decode]
        rcases keeps rfl high low others rfl with noDigit | noDigit
        · rw [noDigit]
        · rw [noDigit]
          cases digitValue? high <;> rfl
  · exact decode_cons_of_ne sign

/-- An octet that may be written as an escape without changing how others are read. -/
structure IsQuiet (octet : UInt8) : Prop where
  noSign : octet ≠ 0x25
  noPlus : octet ≠ 0x2B
  noDigit : digitValue? octet = none

/-- Octets and the same octets with escapes for some of the quiet ones. -/
inductive Respelled : List UInt8 → List UInt8 → Prop
  | nil : Respelled [] []
  | bare (octet : UInt8) {written octets : List UInt8} :
      Respelled written octets → Respelled (octet :: written) (octet :: octets)
  | escaped {octet : UInt8} {written octets : List UInt8} :
      IsQuiet octet → Respelled written octets →
        Respelled (Utf8.encode (escape octet) ++ written) (octet :: octets)

theorem Respelled.append {before behind : List UInt8} (front : Respelled before octets)
    (rest : Respelled behind written) : Respelled (before ++ behind) (octets ++ written) := by
  induction front with
  | nil => exact rest
  | bare octet _ ih => exact .bare octet ih
  | escaped quiet _ ih =>
      rw [List.append_assoc]
      exact .escaped quiet ih

theorem Respelled.refl (octets : List UInt8) : Respelled octets octets := by
  induction octets with
  | nil => exact .nil
  | cons octet rest ih => exact .bare octet ih

theorem Respelled.escapes (quiet : ∀ octet ∈ octets, IsQuiet octet) :
    Respelled (Utf8.encode (octets.flatMap escape)) octets := by
  induction octets with
  | nil => exact .nil
  | cons octet rest ih =>
      rw [List.flatMap_cons, Utf8.encode_append]
      exact .escaped (quiet octet List.mem_cons_self)
        (ih fun other member => quiet other (List.mem_cons_of_mem _ member))

/-- A digit at the front has not been written as an escape. -/
theorem Respelled.exists_of_digit {first : UInt8} {value : Nat}
    (respelled : Respelled written (first :: octets)) (digit : digitValue? first = some value) :
    ∃ rest, written = first :: rest ∧ Respelled rest octets := by
  cases respelled with
  | bare _ rest => exact ⟨_, rfl, rest⟩
  | escaped quiet =>
      rw [quiet.noDigit] at digit
      cases digit

/-- Nor has an escape been read as a digit. -/
theorem Respelled.digit_first {first : UInt8} {others : List UInt8} {value : Nat}
    (respelled : Respelled (first :: others) octets) (digit : digitValue? first = some value) :
    ∃ rest, octets = first :: rest ∧ Respelled others rest := by
  generalize whole : first :: others = written at respelled
  cases respelled with
  | nil => cases whole
  | bare _ rest =>
      obtain ⟨rfl, rfl⟩ := List.cons.inj whole
      exact ⟨_, rfl, rest⟩
  | escaped _ _ =>
      rw [encode_escape] at whole
      obtain ⟨rfl, -⟩ := List.cons.inj whole
      cases digit

theorem Respelled.keepsSign (respelled : Respelled written octets)
    (keeps : KeepsSign octets) : KeepsSign written := by
  rintro high low others rfl
  by_contra! digits
  obtain ⟨first, firstDigit⟩ := Option.ne_none_iff_exists'.mp digits.1
  obtain ⟨second, secondDigit⟩ := Option.ne_none_iff_exists'.mp digits.2
  obtain ⟨behind, rfl, behindRespelled⟩ := respelled.digit_first firstDigit
  obtain ⟨rest, rfl, -⟩ := behindRespelled.digit_first secondDigit
  rcases keeps high low rest rfl with noDigit | noDigit
  · exact digits.1 noDigit
  · exact digits.2 noDigit

theorem Respelled.decode_cons (behind : Respelled written octets)
    (keeps : octet = 0x25 → KeepsSign octets) (same : decode written = decode octets) :
    decode (octet :: written) = decode (octet :: octets) := by
  rw [decode_cons_of_keepsSign fun sign => behind.keepsSign (keeps sign),
    decode_cons_of_keepsSign keeps, same]

/-- Escapes that are put in are read back, with everything else as before. -/
theorem Respelled.decode_eq (respelled : Respelled written octets) :
    decode written = decode octets := by
  induction octets using decode.induct generalizing written with
  | case1 high low rest first second secondDigit firstDigit ih =>
      cases respelled with
      | escaped quiet => exact absurd rfl quiet.noSign
      | bare _ behind =>
          obtain ⟨behindHigh, rfl, lowRespelled⟩ := behind.exists_of_digit firstDigit
          obtain ⟨behindLow, rfl, restRespelled⟩ := lowRespelled.exists_of_digit secondDigit
          rw [decode, decode]
          simp only [firstDigit, secondDigit, ih restRespelled]
  | case2 high low rest noDigits ih =>
      cases respelled with
      | escaped quiet => exact absurd rfl quiet.noSign
      | bare _ behind =>
          refine behind.decode_cons (fun _ first second others same => ?_) (ih behind)
          simp only [List.cons.injEq] at same
          obtain ⟨rfl, rfl, -⟩ := same
          by_contra! digits
          obtain ⟨firstValue, firstDigit⟩ := Option.ne_none_iff_exists'.mp digits.1
          obtain ⟨secondValue, secondDigit⟩ := Option.ne_none_iff_exists'.mp digits.2
          exact noDigits firstValue secondValue firstDigit secondDigit
  | case3 octet rest noEscape ih =>
      cases respelled with
      | escaped quiet behind => rw [decode_escape, decode_cons_of_ne quiet.noSign, ih behind]
      | bare _ behind =>
          refine behind.decode_cons (fun sign first second others same => ?_) (ih behind)
          exact absurd same (noEscape first second others sign)
  | case4 =>
      cases respelled with
      | nil => rfl

theorem isQuiet_of_above (above : 0x80 ≤ octet.toNat) : IsQuiet octet := by
  have noDigit : ∀ value < 256, 0x80 ≤ value → digitValue? (.ofNat value) = none := by
    decide +kernel
  refine ⟨?_, ?_, ?_⟩
  · rintro rfl
    exact absurd above (by decide)
  · rintro rfl
    exact absurd above (by decide)
  · have found := noDigit octet.toNat octet.toNat_lt above
    rwa [UInt8.ofNat_toNat] at found

theorem isQuiet_of_escapedInSpecialQuery {character : Char}
    (escaped : escapedInSpecialQuery character = true) (below : character.toNat < 0x80) :
    IsQuiet (.ofNat character.toNat) := by
  have quiet : ∀ code < 0x80, escapedInSpecialQuery (Char.ofNat code) = true →
      UInt8.ofNat (Char.ofNat code).toNat ≠ 0x25 ∧ UInt8.ofNat (Char.ofNat code).toNat ≠ 0x2B ∧
        digitValue? (.ofNat (Char.ofNat code).toNat) = none := by
    decide +kernel
  obtain ⟨noSign, noPlus, noDigit⟩ := holds_of_codes
    (fun character => escapedInSpecialQuery character = true →
      UInt8.ofNat character.toNat ≠ 0x25 ∧ UInt8.ofNat character.toNat ≠ 0x2B ∧
        digitValue? (.ofNat character.toNat) = none) quiet below escaped
  exact ⟨noSign, noPlus, noDigit⟩

theorem isQuiet_of_mem_utf8EncodeChar {character : Char}
    (escaped : 0x80 ≤ character.toNat ∨ escapedInSpecialQuery character = true)
    (member : octet ∈ String.utf8EncodeChar character) : IsQuiet octet := by
  rcases Utf8.mem_utf8EncodeChar member with above | same
  · exact isQuiet_of_above above
  · by_cases below : character.toNat < 0x80
    · rw [← UInt8.ofNat_toNat (x := octet), same]
      exact isQuiet_of_escapedInSpecialQuery (escaped.resolve_left (by omega)) below
    · exact isQuiet_of_above (by omega)

end Percent

namespace Form

open Percent

theorem respelled_spaced {written octets : List UInt8} (respelled : Respelled written octets) :
    Respelled (spaced written) (spaced octets) := by
  induction respelled with
  | nil => exact .nil
  | bare octet _ ih => exact .bare _ ih
  | @escaped octet written octets quiet _ ih =>
      have itself : spaced (Utf8.encode (escape octet)) = Utf8.encode (escape octet) := by
        refine spaced_of_content fun other member => ?_
        have inEscapes : other ∈ Utf8.encode ([octet].flatMap escape) := by
          rwa [List.flatMap_singleton]
        exact isContent_of_mem_escapes inEscapes
      have kept : spaced (octet :: octets) = octet :: spaced octets := by
        rw [spaced, List.map_cons, if_neg quiet.noPlus]
        rfl
      rw [spaced_append, itself, kept]
      exact .escaped quiet ih

theorem respelled_encode (characters : List Char) :
    Respelled (Utf8.encode (Percent.encode escapedInSpecialQuery characters))
      (Utf8.encode characters) := by
  induction characters with
  | nil => exact .nil
  | cons character rest ih =>
      rw [Percent.encode, List.flatMap_cons, Utf8.encode_append, Utf8.encode_cons]
      refine Respelled.append ?_ ih
      unfold Percent.encodeChar
      split
      · rename_i escaped
        rw [Bool.or_eq_true, decide_eq_true_eq] at escaped
        exact .escapes fun _ => isQuiet_of_mem_utf8EncodeChar escaped
      · rw [Utf8.encode_cons, Utf8.encode_nil, List.append_nil]
        exact .refl _

/-- A text is read as a form the same way once it has been read as the query of an address. -/
theorem decodeText_encode (characters : List Char) :
    decodeText (Utf8.encode (Percent.encode escapedInSpecialQuery characters)) =
      decodeText (Utf8.encode characters) :=
  congrArg Utf8.toTextLossy (respelled_spaced (respelled_encode characters)).decode_eq

end Form

end EditorLaunch
