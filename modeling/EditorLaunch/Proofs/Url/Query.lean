import EditorLaunch.Proofs.Text.Respelling
import EditorLaunch.Proofs.Url.Appending

/-!
# Addresses with something behind their query

An address of a common scheme that has a question mark and no number sign ends with its
query.  So what is put behind its text is put behind its query, escaped for a query, and
nothing else of the address changes: neither the scheme nor the authority nor the path
reaches beyond the first question mark.
-/

namespace EditorLaunch

namespace Url

variable {content added : String} {url : Url}

/-- The last letter of a text is not cut off. -/
def KeepsEnd (text : String) : Prop :=
  ∀ last ∈ text.toList.getLast?, isTrimmed last = false

theorem keepsEnd_append (keeps : KeepsEnd content) (addedKeeps : KeepsEnd added) :
    KeepsEnd (content ++ added) := by
  intro last isLast
  rw [String.toList_append, List.getLast?_append, Option.mem_def, Option.or_eq_some_iff] at isLast
  rcases isLast with here | ⟨-, before⟩
  · exact addedKeeps last here
  · exact keeps last before

theorem dropWhile_append_of_mem {letters : List Char} {letter : Char} (skips : Char → Bool)
    (member : letter ∈ letters) (stays : skips letter = false) (behind : List Char) :
    letter ∈ letters.dropWhile skips ∧
      (letters ++ behind).dropWhile skips = letters.dropWhile skips ++ behind := by
  have kept : letter ∈ letters.dropWhile skips := by
    rw [← List.takeWhile_append_dropWhile (p := skips) (l := letters)] at member
    refine (List.mem_append.mp member).resolve_left fun skipped => ?_
    rw [List.mem_takeWhile_imp skipped] at stays
    cases stays
  have filled := List.ne_nil_of_mem kept
  exact ⟨kept, by rw [List.dropWhile_append, if_neg (by simpa using filled)]⟩

theorem begun_append {letters behind : List Char} (mark : '?' ∈ letters)
    (unskipped : ∀ letter ∈ behind, isSkipped letter = false) :
    '?' ∈ begun letters ∧ begun (letters ++ behind) = begun letters ++ behind := by
  obtain ⟨kept, goesOn⟩ := dropWhile_append_of_mem isTrimmed mark (by decide) behind
  have keptBehind : behind.filter (!isSkipped ·) = behind :=
    List.filter_eq_self.mpr fun letter member => by rw [unskipped letter member]; rfl
  exact ⟨List.mem_filter.mpr ⟨kept, by decide⟩,
    by rw [begun, goesOn, List.filter_append, keptBehind, begun]⟩

theorem relevant_append_of_keepsEnd (keeps : KeepsEnd content) (addedKeeps : KeepsEnd added)
    (mark : '?' ∈ content.toList) (unskipped : ∀ letter ∈ added.toList, isSkipped letter = false) :
    '?' ∈ relevant content.toList ∧
      relevant (content ++ added).toList = relevant content.toList ++ added.toList := by
  obtain ⟨kept, goesOn⟩ := begun_append mark unskipped
  rw [relevant_eq_begun keeps, relevant_eq_begun (keepsEnd_append keeps addedKeeps),
    String.toList_append]
  exact ⟨kept, goesOn⟩

theorem relevant_subset (letters : List Char) : relevant letters ⊆ letters := by
  intro letter member
  have kept := List.mem_reverse.mp (List.mem_of_mem_filter member)
  exact List.dropWhile_subset _ (List.mem_reverse.mp (List.dropWhile_subset _ kept))

theorem finish_of_query {scheme path query : List Char} {authority : Option Authority}
    (unmarked : Unmarked path) (noFragment : '#' ∉ query) :
    finish scheme .common authority (path ++ '?' :: query) =
      ⟨scheme, authority, .rooted (readPath .common path),
        some (Percent.encode Percent.escapedInSpecialQuery query), none⟩ := by
  have passes : ∀ letter ∈ path, (!endsPath letter) = true := by
    intro letter member
    rw [unmarked letter member]
    rfl
  have marked : ∀ first ∈ ('?' :: query).head?, (!endsPath first) = false := by
    rintro _ ⟨⟩
    rfl
  have whole : ∀ letter ∈ '?' :: query, (letter != '#') = true := by
    intro letter member
    rw [bne_iff_ne]
    rintro rfl
    exact noFragment (List.mem_of_ne_of_mem (by decide) member)
  simp only [finish, span_append passes marked, readTail, List.span_eq_takeWhile_dropWhile,
    List.takeWhile_eq_self_iff.mpr whole, List.dropWhile_eq_nil_iff.mpr whole]
  rfl

/-- Letters behind the authority that hold a question mark and no number sign are a path and
a query that goes to the end. -/
theorem finish_append {scheme letters behind : List Char} {authority : Option Authority}
    (mark : '?' ∈ letters) (noFragment : '#' ∉ letters) (behindNoFragment : '#' ∉ behind) :
    ∃ query, (finish scheme .common authority letters).query = some query ∧
      finish scheme .common authority (letters ++ behind) =
        { finish scheme .common authority letters with
          query := some (query ++ Percent.encode Percent.escapedInSpecialQuery behind) } := by
  obtain ⟨path, query, rfl, noMark⟩ := List.eq_append_cons_of_mem mark
  rw [List.mem_append, not_or, List.mem_cons, not_or] at noFragment
  have unmarked : Unmarked path := fun letter member => endsPath_eq_false_iff.mpr
    ⟨fun same => noMark (same ▸ member), fun same => noFragment.1 (same ▸ member)⟩
  have longerNoFragment : '#' ∉ query ++ behind :=
    List.not_mem_append noFragment.2.2 behindNoFragment
  refine ⟨Percent.encode Percent.escapedInSpecialQuery query, ?_, ?_⟩
  · rw [finish_of_query unmarked noFragment.2.2]
  · rw [List.append_assoc, List.cons_append, finish_of_query unmarked longerNoFragment,
      finish_of_query unmarked noFragment.2.2, Percent.encode, List.flatMap_append]
    rfl

/-- What stands behind the authority begins with a letter that ends one, and so it does with
more behind it. -/
theorem readAuthority_append_of_mark {scheme letters behind rest : List Char}
    {authority : Authority} (mark : '?' ∈ letters)
    (reads : readAuthority scheme .common letters = .ok (authority, rest)) :
    '?' ∈ rest ∧ rest ⊆ letters ∧
      readAuthority scheme .common (letters ++ behind) = .ok (authority, rest ++ behind) := by
  obtain ⟨kept, -⟩ := dropWhile_append_of_mem (!endsAuthority .common ·) mark rfl []
  have stops := stops_dropWhile letters
  have within := within_takeWhile letters
  have longerStops :
      Stops (letters.dropWhile (!endsAuthority .common ·) ++ behind) := by
    intro letter first
    rw [List.head?_append_of_ne_nil _ (List.ne_nil_of_mem kept)] at first
    exact stops letter first
  rw [← List.takeWhile_append_dropWhile (p := (!endsAuthority .common ·)) (l := letters)] at reads
  obtain ⟨rfl, -, elsewhere⟩ := readAuthority_append within stops reads
  refine ⟨kept, List.dropWhile_subset _, ?_⟩
  have whole := elsewhere _ longerStops
  rwa [← List.append_assoc, List.takeWhile_append_dropWhile] at whole

/-- An address with a question mark and without a number sign takes what is put behind its
text into its query. -/
theorem parse_append_query (reads : parse content = .ok url)
    (common : SchemeKind.ofScheme url.scheme = .common) (mark : '?' ∈ content.toList)
    (noFragment : '#' ∉ content.toList) (keeps : KeepsEnd content)
    (addedNoFragment : '#' ∉ added.toList) (addedKeeps : KeepsEnd added)
    (unskipped : ∀ letter ∈ added.toList, isSkipped letter = false) :
    ∃ query, url.query = some query ∧
      parse (content ++ added) = .ok { url with
        query := some
          (query ++ Percent.encode Percent.escapedInSpecialQuery added.toList) } := by
  obtain ⟨rest, authority, behind, schemeEq, authorityEq, urlEq⟩ :=
    exists_finish_of_parse reads common
  obtain ⟨relevantMark, relevantEq⟩ := relevant_append_of_keepsEnd keeps addedKeeps mark unskipped
  obtain ⟨restMark, restSubset⟩ : '?' ∈ rest ∧ rest ⊆ relevant content.toList := by
    obtain ⟨first, others, wholeEq, -, schemeLetters, -⟩ := scheme?_eq_some_iff.mp schemeEq
    rw [wholeEq] at relevantMark ⊢
    refine ⟨?_, fun letter member => List.mem_append_right _ (List.mem_cons_of_mem _ member)⟩
    rcases List.mem_append.mp relevantMark with inScheme | behindScheme
    · exact absurd (schemeLetters '?' inScheme) (by decide)
    · exact List.mem_of_ne_of_mem (by decide) behindScheme
  have restNoFragment : '#' ∉ rest := fun member =>
    noFragment (relevant_subset _ (restSubset member))
  rw [← List.append_nil (relevant content.toList)] at schemeEq
  obtain ⟨begins, restEq, longer⟩ := scheme?_append List.not_mem_nil schemeEq
  obtain rfl : rest = begins := by rw [restEq, List.append_nil]
  obtain ⟨slashedMark, slashesEq⟩ :=
    dropWhile_append_of_mem (isSlash .common) restMark (by decide) added.toList
  obtain ⟨behindMark, behindSubset, longerAuthority⟩ :=
    @readAuthority_append_of_mark _ _ added.toList _ _ slashedMark authorityEq
  have behindNoFragment : '#' ∉ behind := fun member =>
    restNoFragment (List.dropWhile_subset _ (behindSubset member))
  obtain ⟨query, queryEq, finishEq⟩ := @finish_append url.scheme behind added.toList
    (some authority) behindMark behindNoFragment addedNoFragment
  rw [← urlEq] at queryEq finishEq
  refine ⟨query, queryEq, ?_⟩
  have longerScheme := longer added.toList
  rw [← relevantEq] at longerScheme
  rw [parse_of_common longerScheme common, slashesEq, longerAuthority]
  exact congrArg Except.ok finishEq

end Url

end EditorLaunch
