import EditorLaunch.Proofs.ResourceId
import EditorLaunch.Proofs.Text.Base64.Forms

/-!
# Spellings of identifiers

An identifier may be spelled with blanks around it and with less padding than its
written form has, and in no other way.  Spellings that are alike apart from the blanks
and the padding name the same identifier, and no others do: the symbols that are left
are those of one text, and this text is divided at its first colon.
-/

namespace EditorLaunch

namespace Base64

theorem paddedText_eq (octets : List UInt8) :
    paddedText octets =
      text octets ++ String.ofList (List.replicate (paddingCount octets.length) '=') := by
  apply Utf8.ofText_injective
  rw [ofText_paddedText, ofText_text_append, encodePadded]

end Base64

namespace ResourceId

/-- A text spells a content: without the blanks around it, it is the written form of the
content, with padding that is full, partial or left out. -/
def Spells (encoded content : String) : Prop :=
  ∃ count ≤ Base64.paddingCount (Utf8.ofText content).length,
    trimmed encoded = Base64.text (Utf8.ofText content) ++
      String.ofList (List.replicate count '=')

/-- What is left of a text without blanks around it and equals signs behind it. -/
def symbols (encoded : String) : List Char :=
  trimEndWhile (· == '=') (trimmed encoded).toList

theorem decode_trimmed_eq_ok_iff {encoded content : String} :
    Base64.decode (Utf8.ofText (trimmed encoded)) = .ok (Utf8.ofText content) ↔
      Spells encoded content := by
  rw [Base64.decode_eq_ok_iff]
  constructor
  · rintro ⟨count, fits, written⟩
    rw [← Base64.ofText_text_append] at written
    exact ⟨count, fits, Utf8.ofText_injective written⟩
  · rintro ⟨count, fits, spelled⟩
    exact ⟨count, fits, by rw [spelled, Base64.ofText_text_append]⟩

theorem ofText?_eq_some_iff {content : String} {id : ResourceId} :
    ofText? content = some id ↔ Divides content id := by
  constructor
  · intro divided
    have colon : ':' ∈ content.toList := by
      by_contra noColon
      have passes : ∀ character ∈ content.toList, (character != ':') = true := by
        intro character member
        rw [bne_iff_ne]
        rintro rfl
        exact noColon member
      rw [ofText?, List.span_eq_takeWhile_dropWhile,
        List.dropWhile_eq_nil_iff.mpr passes] at divided
      cases divided
    obtain ⟨read, divides⟩ := exists_divides colon
    rw [ofText?_of_divides divides, Option.some.injEq] at divided
    exact divided ▸ divides
  · exact ofText?_of_divides

theorem decode_eq_ok_iff {encoded : String} {id : ResourceId} :
    decode encoded = .ok id ↔ ∃ content, Spells encoded content ∧ Divides content id := by
  constructor
  · intro reads
    unfold decode at reads
    split at reads
    · cases reads
    · rename_i octets decoded
      split at reads
      · cases reads
      · rename_i content spelled
        obtain rfl := Utf8.toText?_eq_some_iff.mp spelled
        split at reads
        · cases reads
        · rename_i read divided
          obtain rfl := Except.ok.inj reads
          exact ⟨content, decode_trimmed_eq_ok_iff.mp decoded,
            ofText?_eq_some_iff.mp divided⟩
  · rintro ⟨content, spells, divides⟩
    unfold decode
    rw [decode_trimmed_eq_ok_iff.mpr spells]
    simp only [Utf8.toText?_ofText, ofText?_of_divides divides]

theorem exists_message_of_decode_eq_error {encoded : String} {failure : Failure}
    (refused : decode encoded = .error failure) :
    ∃ message, failure = .malformedIdentifier message := by
  unfold decode at refused
  split at refused
  · exact ⟨_, (Except.error.inj refused).symm⟩
  · split at refused
    · exact ⟨_, (Except.error.inj refused).symm⟩
    · split at refused
      · exact ⟨_, (Except.error.inj refused).symm⟩
      · cases refused

theorem Divides.text_eq {content : String} {id : ResourceId} (divides : Divides content id) :
    id.text = content :=
  divides.joined.symm

theorem Divides.colon {content : String} {id : ResourceId} (divides : Divides content id) :
    ':' ∈ content.toList := by
  rw [divides.joined]
  simp

theorem Spells.symbols_eq {encoded content : String} (spells : Spells encoded content) :
    symbols encoded = (Base64.text (Utf8.ofText content)).toList := by
  obtain ⟨count, -, spelled⟩ := spells
  have ends : ∀ letter ∈ (List.replicate count '=').reverse, (letter == '=') = true := by
    intro letter member
    rw [(List.mem_replicate.mp (List.mem_reverse.mp member)).2]
    rfl
  have stays : (Base64.text (Utf8.ofText content)).toList.reverse.dropWhile (· == '=') =
      (Base64.text (Utf8.ofText content)).toList.reverse := by
    rw [List.dropWhile_eq_self_iff]
    intro positive isSign
    have member := List.mem_reverse.mp (List.getElem_mem positive)
    rw [beq_iff_eq.mp isSign] at member
    exact Base64.equalsSign_not_mem_text _ member
  rw [symbols, spelled, String.toList_append, String.toList_ofList, trimEndWhile,
    List.reverse_append, List.dropWhile_append_of_pos ends, stays, List.reverse_reverse]

/-- A text is read as an identifier exactly if it spells a content with a colon, and is
malformed otherwise.  The written form of the identifier has the symbols of each of its
spellings and the padding that completes them, so that two spellings name the same
identifier exactly if their symbols are the same. -/
theorem decode_reads_spellings :
    (∀ encoded, (∃ id, decode encoded = .ok id) ↔
      ∃ content, ':' ∈ content.toList ∧ Spells encoded content) ∧
    (∀ encoded failure, decode encoded = .error failure →
      ∃ message, failure = .malformedIdentifier message) ∧
    (∀ encoded id, decode encoded = .ok id →
      ∃ content, Spells encoded content ∧ Divides content id ∧
        encode id = Base64.text (Utf8.ofText content) ++
          String.ofList
            (List.replicate (Base64.paddingCount (Utf8.ofText content).length) '=') ∧
        4 ∣ (encode id).length) ∧
    (∀ encoded other id otherId, decode encoded = .ok id → decode other = .ok otherId →
      (id = otherId ↔ symbols encoded = symbols other)) := by
  refine ⟨fun encoded => ⟨?_, ?_⟩, fun encoded failure => exists_message_of_decode_eq_error,
    fun encoded id decoded => ?_, fun encoded other id otherId decoded otherDecoded => ?_⟩
  · rintro ⟨id, decoded⟩
    obtain ⟨content, spells, divides⟩ := decode_eq_ok_iff.mp decoded
    exact ⟨content, divides.colon, spells⟩
  · rintro ⟨content, colon, spells⟩
    obtain ⟨id, divides⟩ := exists_divides colon
    exact ⟨id, decode_eq_ok_iff.mpr ⟨content, spells, divides⟩⟩
  · obtain ⟨content, spells, divides⟩ := decode_eq_ok_iff.mp decoded
    refine ⟨content, spells, divides, ?_, ?_⟩
    · rw [encode, divides.text_eq, Base64.paddedText_eq]
    · rw [encode, Base64.paddedText, String.length_ofList, List.length_map]
      exact Base64.four_dvd_length_encodePadded _
  · obtain ⟨content, spells, divides⟩ := decode_eq_ok_iff.mp decoded
    obtain ⟨otherContent, otherSpells, otherDivides⟩ := decode_eq_ok_iff.mp otherDecoded
    rw [spells.symbols_eq, otherSpells.symbols_eq]
    constructor
    · rintro rfl
      rw [← divides.text_eq, otherDivides.text_eq]
    · intro same
      have sameOctets := Base64.text_injective (String.toList_injective same)
      obtain rfl := Utf8.ofText_injective sameOctets
      exact divides.unique otherDivides

example : decode "\tczE6NDI\n" = decode "czE6NDI=" := by
  decide +kernel

end ResourceId

end EditorLaunch
