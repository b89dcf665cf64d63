import EditorLaunch.Proofs.EditorLink.Expiry
import EditorLaunch.Proofs.Url.Query

/-!
# Handles that reach the editor

The handle of a session is put behind the address of the editor as it is.  If that address
ends with a query, the handle is read as the value of one more parameter: nothing of it ends
the parameter or is cut off, and the escapes it gets on the way are taken back.  So the link
carries the parameters of the address and the handle, without the token.
-/

namespace EditorLaunch

namespace Form

theorem mem_encode_ampersand {characters : List Char}
    (member : 0x26 ∈ Utf8.encode characters) : '&' ∈ characters := by
  obtain ⟨character, here, written⟩ := List.mem_flatMap.mp member
  rcases Utf8.mem_utf8EncodeChar written with above | same
  · exact absurd above (by decide)
  · have isSign : character = '&' := by
      rw [← Char.ofNat_toNat character, ← same]
      rfl
    exact isSign ▸ here

/-- Ampersands divide pairs, whatever stands around them. -/
theorem decode_append (before behind : List Char) :
    decode (String.ofList (before ++ '&' :: behind)) =
      decode (String.ofList before) ++ decode (String.ofList behind) := by
  have sign : String.utf8EncodeChar '&' = [0x26] := by decide
  rw [decode, decode, decode, Utf8.ofText, Utf8.ofText, Utf8.ofText, String.toList_ofList,
    String.toList_ofList, String.toList_ofList, Utf8.encode_append, Utf8.encode_cons, sign,
    List.singleton_append, decodeOctets, List.splitOn_append_cons_self, List.filter_append,
    List.map_append]
  rfl

/-- A name without signs and a value without an ampersand are one pair. -/
theorem decode_pair {name value : List Char}
    (nameAmpersand : 0x26 ∉ Utf8.encode name) (nameEquals : 0x3D ∉ Utf8.encode name)
    (noAmpersand : '&' ∉ value) :
    decode (String.ofList (name ++ '=' :: value)) =
      [(decodeText (Utf8.encode name), decodeText (Utf8.encode value))] := by
  have sign : String.utf8EncodeChar '=' = [0x3D] := by decide
  have octets : Utf8.ofText (String.ofList (name ++ '=' :: value)) =
      Utf8.encode name ++ 0x3D :: Utf8.encode value := by
    rw [Utf8.ofText, String.toList_ofList, Utf8.encode_append, Utf8.encode_cons, sign,
      List.singleton_append]
  have undivided : 0x26 ∉ Utf8.encode name ++ 0x3D :: Utf8.encode value := by
    rw [List.mem_append, List.mem_cons]
    rintro (inName | isSign | inValue)
    · exact nameAmpersand inName
    · exact absurd isSign (by decide)
    · exact noAmpersand (mem_encode_ampersand inValue)
  have inName : ∀ octet ∈ Utf8.encode name, (octet != 0x3D) = true := by
    intro octet member
    rw [bne_iff_ne]
    rintro rfl
    exact nameEquals member
  rw [decode, octets, decodeOctets, List.splitOn_eq_singleton undivided,
    List.filter_cons_of_pos (by simp), List.filter_nil, List.map_singleton, decodePair,
    List.takeWhile_append_of_pos inName, List.dropWhile_append_of_pos inName,
    List.takeWhile_cons_of_neg (by decide), List.append_nil, List.dropWhile_cons_of_neg (by decide),
    List.drop_one, List.tail_cons]

end Form

namespace EditorLink

variable {editorAddress : String} {url : Url} {handle : SessionHandle} {lifetime : Duration}
  {now : Int}

/-- A handle that stays in one piece behind an address. -/
structure Whole (handle : SessionHandle) : Prop where
  noSigns : ∀ letter ∈ handle.text.toList, letter ≠ '&' ∧ letter ≠ '#'
  unskipped : ∀ letter ∈ handle.text.toList, Url.isSkipped letter = false
  keepsEnd : Url.KeepsEnd handle.text

/-- A lifetime that can be counted from now on and ends on the calendar. -/
structure InRange (lifetime : Duration) (now : Int) : Prop where
  countable : lifetime.nanoseconds ≤ longestLifetime
  begins : firstInstant ≤ now + lifetime.milliseconds
  ends : now + lifetime.milliseconds ≤ lastInstant

/-- What stands behind the address of the editor. -/
def parameter (handle : SessionHandle) : String :=
  "&WOPISrc=" ++ handle.text

theorem toList_parameter (handle : SessionHandle) :
    (parameter handle).toList = '&' :: ("WOPISrc".toList ++ '=' :: handle.text.toList) := by
  rw [parameter, String.toList_append]
  rfl

theorem keepsEnd_parameter (whole : Whole handle) : Url.KeepsEnd (parameter handle) := by
  refine Url.keepsEnd_append (fun last isLast => ?_) whole.keepsEnd
  obtain rfl : '=' = last := Option.some.inj isLast
  decide

theorem noFragment_parameter (whole : Whole handle) : '#' ∉ (parameter handle).toList := by
  rw [parameter, String.toList_append, List.mem_append, not_or]
  exact ⟨by decide, fun inHandle => (whole.noSigns '#' inHandle).2 rfl⟩

theorem unskipped_parameter (whole : Whole handle) :
    ∀ letter ∈ (parameter handle).toList, Url.isSkipped letter = false := by
  rw [parameter, String.toList_append]
  exact List.forall_mem_append.mpr ⟨by simp [Url.isSkipped], whole.unskipped⟩

/-- The handle is one more parameter behind those of the address. -/
theorem decode_with_parameter (whole : Whole handle) (query : List Char) :
    Form.decode (String.ofList
        (query ++ Percent.encode Percent.escapedInSpecialQuery (parameter handle).toList)) =
      Form.decode (String.ofList query) ++
        [("WOPISrc", Form.decodeText (Utf8.ofText handle.text))] := by
  have written : Percent.encode Percent.escapedInSpecialQuery (parameter handle).toList =
      '&' :: ("WOPISrc".toList ++
        '=' :: Percent.encode Percent.escapedInSpecialQuery handle.text.toList) := by
    rw [toList_parameter, Percent.encode, List.flatMap_cons, List.flatMap_append, List.flatMap_cons]
    rfl
  have noAmpersand :
      '&' ∉ Percent.encode Percent.escapedInSpecialQuery handle.text.toList := by
    intro member
    rcases Percent.isEscaping_or_bare_of_mem_encode member with escaping | ⟨inHandle, -⟩
    · rcases escaping with isSign | ⟨value, isDigit, same⟩
      · exact absurd isSign (by decide)
      · revert value
        decide
    · exact (whole.noSigns '&' inHandle).1 rfl
  have name : Form.decodeText (Utf8.encode "WOPISrc".toList) = "WOPISrc" := by decide +kernel
  rw [written, Form.decode_append, Form.decode_pair (by decide) (by decide) noAmpersand,
    Form.decodeText_encode, name, Utf8.ofText]

theorem expiry_of_inRange (inRange : InRange lifetime now) :
    expiry lifetime now = .ok (now + lifetime.milliseconds) := by
  have on := onCalendar_endOf_iff.mpr ⟨inRange.begins, inRange.ends⟩
  rw [expiry_of_onCalendar inRange.countable on, fdiv_endOf]

theorem common_of_web (web : url.scheme = "http".toList ∨ url.scheme = "https".toList) :
    Url.SchemeKind.ofScheme url.scheme = .common := by
  rcases web with http | https
  · rw [http]
    decide
  · rw [https]
    decide

/-- The address of an editor with the handle behind it is read as that address with one more
parameter. -/
theorem parse_with_parameter (reads : Url.parse editorAddress = .ok url)
    (web : url.scheme = "http".toList ∨ url.scheme = "https".toList)
    (mark : '?' ∈ editorAddress.toList) (noFragment : '#' ∉ editorAddress.toList)
    (keepsEnd : Url.KeepsEnd editorAddress) (whole : Whole handle) :
    ∃ query, Url.parse (editorAddress ++ "&WOPISrc=" ++ handle.text) =
        .ok { url with query := some query } ∧
      Form.decode (String.ofList query) =
        url.pairs ++ [("WOPISrc", Form.decodeText (Utf8.ofText handle.text))] := by
  obtain ⟨query, queryEq, longer⟩ := Url.parse_append_query reads (common_of_web web) mark
    noFragment keepsEnd
    (noFragment_parameter whole) (keepsEnd_parameter whole) (unskipped_parameter whole)
  rw [parameter, ← String.append_assoc, ← parameter] at longer
  refine ⟨_, longer, ?_⟩
  rw [decode_with_parameter whole, Url.pairs, queryEq, Option.getD_some]

/-- The link for a session is the address of the editor with another query, if that is an
address of the web that ends with a query and the handle stays in one piece behind it.  The
new query decodes to the parameters of the address and the handle for one more, sorted by
their names, without the tokens. -/
theorem handle_reaches_editor (reads : Url.parse editorAddress = .ok url)
    (web : url.scheme = "http".toList ∨ url.scheme = "https".toList)
    (mark : '?' ∈ editorAddress.toList) (noFragment : '#' ∉ editorAddress.toList)
    (keepsEnd : Url.KeepsEnd editorAddress) (whole : Whole handle)
    (inRange : InRange lifetime now) :
    ∃ link query,
      assemble editorAddress handle lifetime now = .ok link ∧
      Url.queryIn link.address = some query ∧
      link.address = Url.text { url with query := some query } ∧
      SortedWithout "access_token"
        (url.pairs ++ [("WOPISrc", Form.decodeText (Utf8.ofText handle.text))])
        (Form.decode (String.ofList query)) := by
  obtain ⟨longerQuery, longer, pairsEq⟩ :=
    parse_with_parameter reads web mark noFragment keepsEnd whole
  have assembled : assemble editorAddress handle lifetime now = _ := assemble_of_parse longer
  rw [expiry_of_inRange inRange] at assembled
  obtain ⟨longerUrl, returned, kept, parsed, -, sorted, addressEq, queryEq, -, filled, rooted⟩ :=
    link_of_assemble assembled
  obtain rfl := Except.ok.inj (longer.symm.trans parsed)
  have longerPairs : ({ url with query := some longerQuery } : Url).pairs =
      url.pairs ++ [("WOPISrc", Form.decodeText (Utf8.ofText handle.text))] := pairsEq
  rw [longerPairs] at sorted
  -- The handle is no token, so it is among what is kept.
  have keptFilled : kept ≠ [] := by
    rintro rfl
    have others := sorted.others "WOPISrc" (by decide)
    rw [List.filter_append, List.filter_nil] at others
    simp at others
  obtain ⟨query, returnedQuery, decoded⟩ := filled keptFilled
  obtain ⟨letters, pathEq⟩ := Url.exists_path_of_parse reads (common_of_web web)
  refine ⟨_, query, assembled, queryEq.trans returnedQuery, ?_, decoded.symm ▸ sorted⟩
  rw [addressEq, rooted _ pathEq, returnedQuery]

/-- An address with parameters of one name, with a token, and with a percent sign that waits
for digits. -/
def officeAddress : Url where
  scheme := "https".toList
  authority := some ⟨[], [], .long ⟨[0, 0, 0, 0, 0, 0, 0, 2], rfl⟩, none⟩
  path := .rooted "/edit".toList
  query := some "z=1&access_token=one&a=%26&z=0%".toList
  fragment := none

/-- A handle that would be an escape with what stands before it, but is not, and that is read
with blanks for its plus sign. -/
theorem handle_reaches_office :
    ∃ link query,
      assemble "https://[::2]/edit?z=1&access_token=one&a=%26&z=0%" ⟨"4\"1 + é?"⟩
        (.ofSeconds 60) 0 = .ok link ∧
      Url.queryIn link.address = some query ∧
      SortedWithout "access_token"
        [("z", "1"), ("access_token", "one"), ("a", "&"), ("z", "0%"), ("WOPISrc", "4\"1   é?")]
        (Form.decode (String.ofList query)) := by
  have reads : Url.parse "https://[::2]/edit?z=1&access_token=one&a=%26&z=0%" =
      .ok officeAddress := by
    rfl
  have whole : Whole ⟨"4\"1 + é?"⟩ := by
    refine ⟨by simp, by simp [Url.isSkipped], fun last isLast => ?_⟩
    obtain rfl : '?' = last := Option.some.inj isLast
    decide
  have keepsEnd : Url.KeepsEnd "https://[::2]/edit?z=1&access_token=one&a=%26&z=0%" := by
    intro last isLast
    obtain rfl : '%' = last := Option.some.inj isLast
    decide
  have inRange : InRange (.ofSeconds 60) 0 := ⟨by decide, by decide, by decide⟩
  have pairsEq : officeAddress.pairs ++
      [("WOPISrc", Form.decodeText (Utf8.ofText "4\"1 + é?"))] =
      [("z", "1"), ("access_token", "one"), ("a", "&"), ("z", "0%"),
        ("WOPISrc", "4\"1   é?")] := by
    decide +kernel
  obtain ⟨link, query, assembled, queryEq, -, sorted⟩ :=
    handle_reaches_editor reads (.inr rfl) (by decide) (by decide) keepsEnd whole inRange
  exact ⟨link, query, assembled, queryEq, pairsEq ▸ sorted⟩

end EditorLink

end EditorLaunch
