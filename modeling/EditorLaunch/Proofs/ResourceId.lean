import EditorLaunch.Proofs.Readers
import EditorLaunch.Proofs.Text.Base64
import EditorLaunch.Proofs.Text.Utf8
import EditorLaunch.Proofs.Unicode.Blank
import EditorLaunch.ResourceId
import Mathlib.Data.List.TakeDrop
import Mathlib.Data.List.TakeWhile

/-!
# Identifiers and back

The written form of an identifier is read back as the text that it was written from,
whatever this text holds: base 64 has no blanks that trimming could take away.  Which
identifier the text names is another matter.  It is divided at its first colon, so
that an identifier comes back exactly if the name of its storage has none.
-/

namespace EditorLaunch

theorem trimmed_eq_self {text : String}
    (noBlanks : ∀ character ∈ text.toList, isBlank character = false) :
    trimmed text = text := by
  have kept : trimBlanks text.toList = text.toList :=
    trimBlanks_eq_self (fun _ first => noBlanks _ (List.mem_of_head? first))
      fun _ last => noBlanks _ (List.mem_of_getLast? last)
  rw [trimmed, kept, String.ofList_toList]

namespace Base64

theorem toNat_lt_of_mem_encodePadded {octets : List UInt8} {octet : UInt8}
    (member : octet ∈ encodePadded octets) :
    octet.toNat < 0x80 ∧ isBlank (Char.ofNat octet.toNat) = false := by
  have symbols : ∀ bits < 64, (symbolOf bits).toNat < 0x80 ∧
      isBlank (Char.ofNat (symbolOf bits).toNat) = false := by
    decide
  rcases of_mem_encodePadded member with rfl | ⟨bits, small, rfl⟩
  · decide
  · exact symbols bits small

theorem ofText_paddedText (octets : List UInt8) :
    Utf8.ofText (paddedText octets) = encodePadded octets := by
  rw [Utf8.ofText, paddedText, String.toList_ofList]
  exact Utf8.encode_ascii fun octet member => (toNat_lt_of_mem_encodePadded member).1

theorem trimmed_paddedText (octets : List UInt8) :
    trimmed (paddedText octets) = paddedText octets := by
  apply trimmed_eq_self
  intro character member
  rw [paddedText, String.toList_ofList, List.mem_map] at member
  obtain ⟨octet, written, rfl⟩ := member
  exact (toNat_lt_of_mem_encodePadded written).2

end Base64

namespace ResourceId

/-- A text is the two parts of an identifier with a colon between them, and this colon
is the first one of the text. -/
structure Divides (content : String) (id : ResourceId) : Prop where
  joined : content = id.storageId ++ ":" ++ id.opaqueId
  first : ':' ∉ id.storageId.toList

theorem ofText?_of_divides {content : String} {id : ResourceId}
    (divides : Divides content id) : ofText? content = some id := by
  obtain ⟨rfl, first⟩ := divides
  have colon : ":".toList = [':'] := rfl
  have before : ∀ character ∈ id.storageId.toList, (character != ':') = true := by
    intro character member
    rw [bne_iff_ne]
    rintro rfl
    exact first member
  rw [ofText?, String.toList_append, String.toList_append, colon, List.append_assoc,
    span_append before (by simp)]
  simp

theorem Divides.unique {content : String} {id other : ResourceId}
    (divides : Divides content id) (otherDivides : Divides content other) : id = other :=
  Option.some.inj
    ((ofText?_of_divides divides).symm.trans (ofText?_of_divides otherDivides))

/-- A text with a colon has a first one. -/
theorem exists_divides {content : String} (colon : ':' ∈ content.toList) :
    ∃ id, Divides content id := by
  obtain ⟨storage, behind, textEq, first⟩ := List.eq_append_cons_of_mem colon
  refine ⟨⟨String.ofList storage, String.ofList behind⟩, ?_, ?_⟩
  · apply String.toList_injective
    simp [textEq]
  · rwa [String.toList_ofList]

theorem decode_encode_of_divides {id read : ResourceId} (divides : Divides id.text read) :
    decode (encode id) = .ok read := by
  rw [decode, encode, Base64.trimmed_paddedText, Base64.ofText_paddedText,
    Base64.decode_encodePadded]
  simp only [Utf8.toText?_ofText, ofText?_of_divides divides]

/-- Reading the written form of an identifier succeeds.  It gives the parts of the
identifier's text that stand before and behind the first colon, and these are the
identifier itself exactly if the name of the storage holds no colon. -/
theorem reads_back_at_first_colon (id : ResourceId) :
    ∃ read, decode (encode id) = .ok read ∧
      Divides (id.storageId ++ ":" ++ id.opaqueId) read ∧
      (decode (encode id) = .ok id ↔ ':' ∉ id.storageId.toList) := by
  have colon : ':' ∈ id.text.toList := by
    simp [text]
  obtain ⟨read, divides⟩ := exists_divides colon
  have decoded := decode_encode_of_divides divides
  refine ⟨read, decoded, divides, ?_⟩
  rw [decoded, Except.ok.injEq]
  constructor
  · rintro rfl
    exact divides.first
  · intro first
    exact divides.unique ⟨rfl, first⟩

example : decode (encode ⟨"a:b", " c\n"⟩) = .ok ⟨"a", "b: c\n"⟩ := by
  decide +kernel

end ResourceId

end EditorLaunch
