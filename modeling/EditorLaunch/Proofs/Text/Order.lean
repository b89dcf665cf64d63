import EditorLaunch.Proofs.Text.Utf8

/-!
# The order of texts and of their octets

Texts are compared character by character and octets octet by octet, and UTF-8 keeps the one
order in the other.  The octets of a character are the digits of its code to the base of 64
behind marks that grow with their number, so two characters differ first in a digit or in the
marks, and the smaller one is smaller there.
-/

namespace EditorLaunch.Utf8

theorem ofNat_lt_ofNat_iff {value other : Nat} (small : value < 256) (otherSmall : other < 256) :
    UInt8.ofNat value < UInt8.ofNat other ↔ value < other := by
  rw [UInt8.lt_iff_toNat_lt, toNat_ofNat_of_lt small, toNat_ofNat_of_lt otherSmall]

theorem ofNat_eq_ofNat_iff {value other : Nat} (small : value < 256) (otherSmall : other < 256) :
    UInt8.ofNat value = UInt8.ofNat other ↔ value = other := by
  rw [← UInt8.toNat_inj, toNat_ofNat_of_lt small, toNat_ofNat_of_lt otherSmall]

theorem digits_lt {value other : Nat} (below : value < other) :
    value / 64 < other / 64 ∨ value / 64 = other / 64 ∧ value % 64 < other % 64 := by
  omega

theorem utf8EncodeChar_of_four {character : Char} (above : 0xFFFF < character.val.toNat) :
    String.utf8EncodeChar character =
      [.ofNat (character.val.toNat / 262144 % 8 + 0xF0),
        .ofNat (character.val.toNat / 4096 % 64 + 0x80),
        .ofNat (character.val.toNat / 64 % 64 + 0x80),
        .ofNat (character.val.toNat % 64 + 0x80)] := by
  unfold String.utf8EncodeChar
  dsimp only
  rw [if_neg (by omega), if_neg (by omega), if_neg (by omega)]

theorem utf8EncodeChar_lt {character other : Char} (below : character < other)
    (behind otherBehind : List UInt8) :
    String.utf8EncodeChar character ++ behind < String.utf8EncodeChar other ++ otherBehind := by
  have codes : character.val.toNat < other.val.toNat := below
  have last : other.val.toNat < 0x110000 := by
    have := other.valid
    unfold UInt32.isValidChar Nat.isValidChar at this
    omega
  by_cases four : 0xFFFF < character.val.toNat
  · rw [utf8EncodeChar_of_four four, utf8EncodeChar_of_four (Nat.lt_trans four codes)]
    simp (disch := omega) only [List.cons_append, List.cons_lt_cons_iff,
      ofNat_lt_ofNat_iff, ofNat_eq_ofNat_iff]
    have thirdDigits := @digits_lt (character.val.toNat / 64) (other.val.toNat / 64)
    have secondDigits := @digits_lt (character.val.toNat / 4096) (other.val.toNat / 4096)
    rcases digits_lt codes with higher | same
    · omega
    · omega
  · unfold String.utf8EncodeChar
    dsimp only
    split_ifs <;>
      simp (disch := omega) only [List.cons_append, List.nil_append, List.cons_lt_cons_iff,
        ofNat_lt_ofNat_iff, ofNat_eq_ofNat_iff] <;> omega

theorem encode_ne_nil {characters : List Char} (filled : characters ≠ []) :
    encode characters ≠ [] := by
  intro nothing
  have read := decodeMarking_encode [] characters
  rw [nothing, decodeMarking] at read
  exact filled read.symm

theorem encode_lt {characters others : List Char} (below : characters < others) :
    encode characters < encode others := by
  induction characters generalizing others with
  | nil =>
      have filled : encode others ≠ [] :=
        encode_ne_nil fun nothing => List.not_lt_nil _ (nothing ▸ below)
      obtain ⟨octet, octets, written⟩ := List.exists_cons_of_ne_nil filled
      rw [encode_nil, written]
      exact List.nil_lt_cons _ _
  | cons character rest ih =>
      cases others with
      | nil => exact absurd below (List.not_lt_nil _)
      | cons other otherRest =>
          rw [encode_cons, encode_cons]
          rcases List.cons_lt_cons_iff.mp below with first | ⟨rfl, later⟩
          · exact utf8EncodeChar_lt first _ _
          · exact List.append_left_lt (ih later)

theorem ofText_lt {text other : String} (below : text < other) : ofText text < ofText other :=
  encode_lt below

/-- Texts are in the order of their octets. -/
theorem ofText_le_ofText_iff {text other : String} :
    ofText text ≤ ofText other ↔ text ≤ other := by
  constructor
  · intro ordered
    rw [← String.not_lt]
    exact fun above => ordered (ofText_lt above)
  · intro ordered above
    by_cases same : text = other
    · exact List.lt_irrefl _ (same ▸ above)
    · have below : text < other := String.not_le.mp fun reverse =>
        same (String.le_antisymm ordered reverse)
      exact List.lt_asymm above (ofText_lt below)

end EditorLaunch.Utf8
