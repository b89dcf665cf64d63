import EditorLaunch.Proofs.Path.Folder
import EditorLaunch.Proofs.Readers
import EditorLaunch.Proofs.Text.Utf8

/-!
# Extensions

The extension of a path is the end of its last element from the last dot on.  It is told
by what it is: an end of the path with one dot, which stands in front, and without slashes,
or nothing if the last element has no dot.  Searching the octets of the path from behind
finds the same: what is found are signs of ASCII, and no octet of another character is
equal to one of them, so that the path is always divided between two characters.
-/

namespace EditorLaunch

variable {sign : Char}

namespace Utf8

theorem length_ofText (text : String) : (ofText text).length = text.utf8ByteSize := by
  rw [String.utf8ByteSize, toByteArray_eq]
  rfl

end Utf8

namespace Path

theorem exists_last_of_mem {letters : List Char} (member : sign ∈ letters) :
    ∃ front behind, letters = front ++ sign :: behind ∧ sign ∉ behind := by
  obtain ⟨behind, front, reversed, noSign⟩ :=
    List.eq_append_cons_of_mem (List.mem_reverse.mpr member)
  refine ⟨front.reverse, behind.reverse, ?_, fun inBehind => ?_⟩
  · have turned := congrArg List.reverse reversed
    rw [List.reverse_reverse, List.reverse_append, List.reverse_cons, List.append_assoc,
      List.singleton_append] at turned
    exact turned
  · exact noSign (List.mem_reverse.mp inBehind)

theorem reverse_takeWhile_reverse {front behind : List Char} (noSign : sign ∉ behind) :
    ((front ++ sign :: behind).reverse.takeWhile (· != sign)).reverse = behind := by
  have divided := span_reverse_append front noSign
  rw [List.span_eq_takeWhile_dropWhile] at divided
  rw [(Prod.mk.inj divided).1, List.reverse_reverse]

theorem lastElement_append (front : List Char) {name : List Char} (undivided : '/' ∉ name) :
    lastElement (front ++ '/' :: name) = name :=
  reverse_takeWhile_reverse undivided

theorem lastElement_of_undivided {path : List Char} (undivided : '/' ∉ path) :
    lastElement path = path :=
  lastElement_of_throughLastSlash_eq_nil (throughLastSlash_of_undivided undivided)

theorem nameExtension_append (front : List Char) {ending : List Char}
    (undotted : '.' ∉ ending) : nameExtension (front ++ '.' :: ending) = '.' :: ending := by
  rw [nameExtension, reverse_takeWhile_reverse undotted]
  simp

theorem nameExtension_of_undotted {name : List Char} (undotted : '.' ∉ name) :
    nameExtension name = [] := by
  rw [nameExtension, List.contains_eq_mem, decide_eq_false undotted]
  rfl

/-- What tells the extension of a path: it is nothing exactly if the last element has no
dot, and otherwise an end of the path that begins with a dot and holds neither another
dot nor a slash. -/
structure IsExtension (path extension : String) : Prop where
  empty_iff : extension = "" ↔ '.' ∉ (base path).toList
  ending : extension ≠ "" → ∃ front, path = front ++ extension
  dotted : extension ≠ "" →
    ∃ rest, extension = "." ++ rest ∧ '.' ∉ rest.toList ∧ '/' ∉ rest.toList

theorem toList_extension (path : String) :
    (extension path).toList = nameExtension (lastElement path.toList) :=
  String.toList_ofList

/-- The extension is an end of the last element, with or without a dot in it. -/
theorem exists_base_eq_append (path : String) : ∃ front, base path = front ++ extension path := by
  by_cases dotted : '.' ∈ lastElement path.toList
  · obtain ⟨front, behind, divided, undotted⟩ := exists_last_of_mem dotted
    refine ⟨String.ofList front, ?_⟩
    rw [← String.toList_inj, String.toList_append, toList_base, toList_extension,
      String.toList_ofList, divided, nameExtension_append front undotted]
  · refine ⟨base path, ?_⟩
    rw [← String.toList_inj, String.toList_append, toList_extension,
      nameExtension_of_undotted dotted, List.append_nil]

theorem exists_eq_append_base (path : String) : ∃ front, path = front ++ base path := by
  refine ⟨String.ofList (throughLastSlash path.toList), ?_⟩
  rw [← String.toList_inj, String.toList_append, String.toList_ofList, toList_base,
    throughLastSlash_append_lastElement]

theorem isExtension_extension (path : String) : IsExtension path (extension path) := by
  have textEq := toList_extension path
  refine ⟨?empty, fun _ => ?ending, fun filled => ?dotted⟩
  case empty =>
    rw [← String.toList_eq_nil_iff, textEq, toList_base]
    constructor
    · intro isEmpty dotted
      obtain ⟨front, behind, divided, undotted⟩ := exists_last_of_mem dotted
      rw [divided, nameExtension_append front undotted] at isEmpty
      cases isEmpty
    · exact nameExtension_of_undotted
  case ending =>
    obtain ⟨front, wholeEq⟩ := exists_eq_append_base path
    obtain ⟨stem, baseEq⟩ := exists_base_eq_append path
    exact ⟨front ++ stem, by rw [String.append_assoc, ← baseEq, ← wholeEq]⟩
  case dotted =>
    by_cases dotted : '.' ∈ lastElement path.toList
    · obtain ⟨front, behind, divided, undotted⟩ := exists_last_of_mem dotted
      refine ⟨String.ofList behind, ?_, ?_, ?_⟩
      · rw [← String.toList_inj, textEq, divided, nameExtension_append front undotted]
        simp
      · rwa [String.toList_ofList]
      · rw [String.toList_ofList]
        intro slash
        apply undivided_lastElement path.toList
        rw [divided]
        exact List.mem_append_right _ (List.mem_cons_of_mem _ slash)
    · refine absurd ?_ filled
      rw [← String.toList_eq_nil_iff, textEq, nameExtension_of_undotted dotted]

/-- There is only one extension. -/
theorem IsExtension.eq_extension {path ending : String} (isExtension : IsExtension path ending) :
    ending = extension path := by
  rw [← String.toList_inj, toList_extension]
  by_cases isEmpty : ending = ""
  · have undotted := isExtension.empty_iff.mp isEmpty
    rw [toList_base] at undotted
    rw [isEmpty, nameExtension_of_undotted undotted]
    rfl
  · obtain ⟨front, wholeEq⟩ := isExtension.ending isEmpty
    obtain ⟨rest, dottedEq, undotted, undivided⟩ := isExtension.dotted isEmpty
    have lettersEq : ending.toList = '.' :: rest.toList := by
      rw [dottedEq, String.toList_append]
      rfl
    have noSlash : '/' ∉ ending.toList := by
      rw [lettersEq]
      exact fun member => (List.mem_cons.mp member).elim (by decide) undivided
    -- an end without slashes does not reach beyond the last element
    obtain ⟨stem, elementEq⟩ : ∃ stem, lastElement path.toList = stem ++ ending.toList := by
      rw [wholeEq, String.toList_append]
      by_cases divided : '/' ∈ front.toList
      · obtain ⟨before, stem, frontEq, stemUndivided⟩ := exists_last_of_mem divided
        refine ⟨stem, ?_⟩
        rw [frontEq, List.append_assoc, List.cons_append]
        apply lastElement_append
        exact fun member => (List.mem_append.mp member).elim stemUndivided noSlash
      · refine ⟨front.toList, lastElement_of_undivided ?_⟩
        exact fun member => (List.mem_append.mp member).elim divided noSlash
    rw [elementEq, lettersEq, nameExtension_append stem undotted]

/-- Where an octet stands last. -/
def lastOffset? (octet : UInt8) : List UInt8 → Option Nat
  | [] => none
  | first :: rest =>
      match lastOffset? octet rest with
      | some offset => some (offset + 1)
      | none => if first = octet then some 0 else none

/-- What stands in a text from an offset on, counted in octets.  No text begins within a
character. -/
def fromOffset? (text : String) (offset : Nat) : Option String :=
  if String.Pos.Raw.IsValid text ⟨offset⟩ then Utf8.toText? ((Utf8.ofText text).drop offset)
  else none

/-- The octets of a slash and of a dot. -/
def slashOctet : UInt8 := 0x2F

def dotOctet : UInt8 := 0x2E

/-- Where the last element begins. -/
def elementOffset (path : String) : Nat :=
  match lastOffset? slashOctet (Utf8.ofText path) with
  | some offset => offset + 1
  | none => 0

/-- The extension as it is found among octets: the path is divided where the last element
begins, and once more where the last dot stands, which is looked for in that element. -/
def octetExtension? (path : String) : Option String := do
  let name ← fromOffset? path (elementOffset path)
  match lastOffset? dotOctet (Utf8.ofText name) with
  | some offset => fromOffset? path (elementOffset path + offset)
  | none => return ""

theorem lastOffset?_eq_none {octet : UInt8} {octets : List UInt8} (absent : octet ∉ octets) :
    lastOffset? octet octets = none := by
  induction octets with
  | nil => rfl
  | cons first rest ih =>
      rw [List.mem_cons, not_or] at absent
      rw [lastOffset?, ih absent.2]
      exact if_neg (Ne.symm absent.1)

theorem lastOffset?_append {octet : UInt8} (front : List UInt8) {behind : List UInt8}
    (absent : octet ∉ behind) :
    lastOffset? octet (front ++ octet :: behind) = some front.length := by
  induction front with
  | nil =>
      rw [List.nil_append, lastOffset?, lastOffset?_eq_none absent]
      exact if_pos rfl
  | cons first rest ih =>
      rw [List.cons_append, lastOffset?, ih]
      rfl

/-- The octets of letters that a sign of ASCII divides. -/
theorem encode_divided (ascii : sign.toNat < 0x80) (front behind : List Char) :
    Utf8.encode (front ++ sign :: behind) =
      Utf8.encode front ++ UInt8.ofNat sign.toNat :: Utf8.encode behind := by
  rw [Utf8.encode_append, Utf8.encode_cons, Utf8.utf8EncodeChar_of_ascii ascii,
    List.singleton_append]

theorem fromOffset?_append (front behind : String) :
    fromOffset? (front ++ behind) (Utf8.ofText front).length = some behind := by
  have boundary : String.Pos.Raw.IsValid (front ++ behind) ⟨(Utf8.ofText front).length⟩ :=
    String.Pos.Raw.isValid_iff_exists_append.mpr
      ⟨front, behind, rfl, by rw [Utf8.length_ofText]; rfl⟩
  have octetsEq : Utf8.ofText (front ++ behind) = Utf8.ofText front ++ Utf8.ofText behind := by
    rw [Utf8.ofText, String.toList_append]
    exact Utf8.encode_append _ _
  rw [fromOffset?, if_pos boundary, octetsEq, List.drop_left, Utf8.toText?_ofText]

theorem elementOffset_eq (path : String) :
    elementOffset path = (Utf8.encode (throughLastSlash path.toList)).length := by
  rcases throughLastSlash_cases path.toList with none | ⟨front, through⟩
  · have undivided := undivided_lastElement path.toList
    rw [lastElement_of_throughLastSlash_eq_nil none] at undivided
    have absent : slashOctet ∉ Utf8.ofText path := fun member =>
      undivided ((Utf8.mem_encode_iff (by decide)).mp member)
    rw [elementOffset, lastOffset?_eq_none absent, none]
    rfl
  · have whole := throughLastSlash_append_lastElement path.toList
    rw [through, List.append_assoc, List.singleton_append] at whole
    have absent : slashOctet ∉ Utf8.encode (lastElement path.toList) := fun member =>
      undivided_lastElement path.toList ((Utf8.mem_encode_iff (by decide)).mp member)
    have octetsEq : Utf8.ofText path =
        Utf8.encode front ++ slashOctet :: Utf8.encode (lastElement path.toList) := by
      conv => lhs; rw [Utf8.ofText, ← whole]
      exact encode_divided (by decide) _ _
    rw [elementOffset, octetsEq, lastOffset?_append _ absent, through, Utf8.encode_append,
      List.length_append]
    rfl

/-- Every division that the search needs is one between characters, and it finds the
extension. -/
theorem octetExtension?_eq (path : String) : octetExtension? path = some (extension path) := by
  obtain ⟨front, frontEq, wholeEq⟩ : ∃ front, front.toList = throughLastSlash path.toList ∧
      path = front ++ base path := by
    refine ⟨String.ofList (throughLastSlash path.toList), String.toList_ofList, ?_⟩
    rw [← String.toList_inj, String.toList_append, String.toList_ofList, toList_base,
      throughLastSlash_append_lastElement]
  have startEq : elementOffset path = (Utf8.ofText front).length := by
    rw [elementOffset_eq, ← frontEq]
    rfl
  have named : fromOffset? path (elementOffset path) = some (base path) := by
    rw [startEq]
    conv => lhs; rw [wholeEq]
    exact fromOffset?_append front (base path)
  rw [octetExtension?, named, Option.bind_eq_bind, Option.bind_some]
  by_cases dotted : '.' ∈ (base path).toList
  · obtain ⟨stem, ending, divided, undotted⟩ := exists_last_of_mem dotted
    have extensionEq : (extension path).toList = '.' :: ending := by
      rw [toList_extension, ← toList_base, divided, nameExtension_append stem undotted]
    have absent : dotOctet ∉ Utf8.encode ending := fun member =>
      undotted ((Utf8.mem_encode_iff (by decide)).mp member)
    have octetsEq : Utf8.ofText (base path) =
        Utf8.encode stem ++ dotOctet :: Utf8.encode ending := by
      rw [Utf8.ofText, divided]
      exact encode_divided (by decide) _ _
    have lengthEq : elementOffset path + (Utf8.encode stem).length =
        (Utf8.ofText (front ++ String.ofList stem)).length := by
      rw [startEq, Utf8.ofText, Utf8.ofText, String.toList_append, String.toList_ofList,
        Utf8.encode_append, List.length_append]
    have pathEq : path = front ++ String.ofList stem ++ extension path := by
      rw [← String.toList_inj, String.toList_append, String.toList_append, extensionEq,
        String.toList_ofList, List.append_assoc, ← divided, ← String.toList_append, ← wholeEq]
    rw [octetsEq, lastOffset?_append _ absent]
    simp only [lengthEq]
    conv => lhs; rw [pathEq]
    exact fromOffset?_append _ _
  · have absent : dotOctet ∉ Utf8.ofText (base path) := fun member =>
      dotted ((Utf8.mem_encode_iff (by decide)).mp member)
    have isEmpty := (isExtension_extension path).empty_iff.mpr dotted
    rw [lastOffset?_eq_none absent, isEmpty]
    rfl

/-- The extension of a path is what an extension has to be, and nothing else is: empty if
the last element has no dot, and otherwise the end of the path from its last dot on, which
lies within the last element.  So what stands before the last slash does not matter.  A
search among the octets, which divides the path only between characters, always succeeds
and finds the extension. -/
theorem extension_ends_last_element (path : String) :
    IsExtension path (extension path) ∧
    (∃ front, base path = front ++ extension path) ∧
    (∀ other, IsExtension path other → other = extension path) ∧
    (∀ folder name, '/' ∉ name.toList →
      extension (folder ++ "/" ++ name) = extension name) ∧
    octetExtension? path = some (extension path) := by
  refine ⟨isExtension_extension path, exists_base_eq_append path,
    fun _ isExtension => isExtension.eq_extension, fun folder name undivided => ?_,
    octetExtension?_eq path⟩
  rw [← String.toList_inj, toList_extension, toList_extension,
    lastElement_of_undivided undivided, String.toList_append, String.toList_append,
    List.append_assoc]
  exact congrArg nameExtension (lastElement_append folder.toList undivided)

example : extension "/v1.2/Ä.tar.gz" = ".gz" := by decide

end Path

end EditorLaunch
