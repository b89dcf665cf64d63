import EditorLaunch.Http.Request
import EditorLaunch.Proofs.Url.Parts

/-!
# Which addresses a request can have

An address that was read has no character left in its path or in its form-encoded
query that a request could not carry.  So it depends on the authority alone whether
an address can be requested, as long as it is not too long.
-/

namespace EditorLaunch

namespace Http.Target

theorem fitsPath_of_isEscaping {character : Char} (escaping : Percent.IsEscaping character) :
    fitsPath character = true := by
  rcases escaping with rfl | ⟨value, isDigit, rfl⟩
  · decide
  · revert value
    decide

theorem fitsPath_of_bare {character : Char}
    (bare : Percent.escapedInPath character = false) : fitsPath character = true := by
  by_cases ascii : character.toNat < 0x7F
  · exact holds_of_codes
      (fun letter => Percent.escapedInPath letter = false → fitsPath letter = true)
      (by decide) ascii bare
  · have beyond : decide (0x7F ≤ character.toNat) = true := decide_eq_true (by omega)
    rw [fitsPath, beyond, Bool.true_or, Bool.true_or]

theorem fitsQuery_of_isEscaping {character : Char}
    (escaping : Percent.IsEscaping character) : fitsQuery character = true := by
  rcases escaping with rfl | ⟨value, isDigit, rfl⟩
  · decide
  · revert value
    decide

/-- A form-encoded query can be carried by a request. -/
theorem fitsQuery_of_mem_encode {pairs : List Form.Pair} {character : Char}
    (member : character ∈ (Form.encode pairs).toList) : fitsQuery character = true := by
  rcases Form.mem_encode_cases member with isSign | escaping | bare
  · simp only [List.mem_cons, List.not_mem_nil, or_false] at isSign
    rcases isSign with rfl | rfl | rfl <;> decide
  · exact fitsQuery_of_isEscaping escaping
  · have ascii := (Form.isBare_bounds bare).1
    exact holds_of_codes
      (fun letter => Form.isBare letter = true → fitsQuery letter = true)
      (by decide) ascii bare

/-- A path that was read can be carried by a request. -/
theorem fitsPath_of_mem_readPath {kind : Url.SchemeKind} {letters : List Char} :
    ∀ letter ∈ Url.readPath kind letters, fitsPath letter = true := by
  refine Url.forall_mem_readPath (by decide) (by decide) fun piece letter member => ?_
  rcases Percent.isEscaping_or_bare_of_mem_encode member with escaping | ⟨-, bare⟩
  · exact fitsPath_of_isEscaping escaping
  · exact fitsPath_of_bare bare

/-- The letters of an authority can be carried: those before a slash are an authority,
and the others fit a path. -/
structure FitsAuthority (letters : List Char) : Prop where
  isAuthority : isAuthority (letters.takeWhile (!endsAuthority ·)) = true
  hasHost : letters.takeWhile (!endsAuthority ·) ≠ []
  behind : ∀ letter ∈ letters.dropWhile (!endsAuthority ·), fitsPath letter = true

theorem ofPath?_append {path : List Char} {query? : Option (List Char)}
    (unmarked : Url.Unmarked path) (noSign : ∀ query ∈ query?, '#' ∉ query) :
    ofPath? (path ++ Url.optional '?' query?) =
      if path.all fitsPath && (query?.getD []).all fitsQuery then some ⟨path, query?⟩
      else none := by
  have untilNumber : ∀ letter ∈ path ++ Url.optional '?' query?, (letter != '#') = true := by
    intro letter member
    rw [bne_iff_ne]
    rcases List.mem_append.mp member with inPath | inQuery
    · exact (Url.endsPath_eq_false_iff.mp (unmarked letter inPath)).2
    · cases query? with
      | none => cases inQuery
      | some query =>
          rcases List.mem_cons.mp inQuery with rfl | inLetters
          · decide
          · rintro rfl
            exact noSign query rfl inLetters
  have untilQuestion : ∀ letter ∈ path, (letter != '?') = true := by
    intro letter member
    simpa using (Url.endsPath_eq_false_iff.mp (unmarked letter member)).1
  simp only [ofPath?, List.takeWhile_eq_self_iff.mpr untilNumber,
    List.span_eq_takeWhile_dropWhile, List.takeWhile_append_of_pos untilQuestion,
    List.dropWhile_append_of_pos untilQuestion]
  cases query? with
  | none => simp [Url.optional]
  | some query => simp [Url.optional]

theorem ofPath?_isSome_iff {path : List Char} {query? : Option (List Char)}
    (unmarked : Url.Unmarked path) (noSign : ∀ query ∈ query?, '#' ∉ query) :
    (ofPath? (path ++ Url.optional '?' query?)).isSome ↔
      (∀ letter ∈ path, fitsPath letter = true) ∧
        ∀ query ∈ query?, ∀ letter ∈ query, fitsQuery letter = true := by
  rw [ofPath?_append unmarked noSign]
  cases query? with
  | none => simp
  | some query => simp

theorem dropScheme?_spoken {scheme : List Char}
    (spoken : scheme = "http".toList ∨ scheme = "https".toList) (behind : List Char) :
    dropScheme? (scheme ++ ':' :: '/' :: '/' :: behind) = some (true, behind) := by
  have fits : ∀ letter ∈ scheme, fitsScheme letter = true := by
    rw [← List.all_eq_true]
    rcases spoken with rfl | rfl <;> decide
  have short : ¬ longestScheme < scheme.length := by
    rcases spoken with rfl | rfl <;> decide
  have colonEnds : ∀ first ∈ (':' :: '/' :: '/' :: behind).head?, fitsScheme first = false := by
    rintro _ ⟨⟩
    decide
  simp only [dropScheme?, span_append fits colonEnds, short, if_false]

/-- An authority ends at the slash behind its letters at the latest. -/
theorem takeWhile_append_slash (letters rest : List Char) :
    (letters ++ '/' :: rest).takeWhile (!endsAuthority ·) =
      letters.takeWhile (!endsAuthority ·) := by
  induction letters with
  | nil => rfl
  | cons letter others ih => simp only [List.cons_append, List.takeWhile_cons, ih]

theorem drop_append_slash (letters rest : List Char) :
    (letters ++ '/' :: rest).drop (letters.takeWhile (!endsAuthority ·)).length =
      letters.dropWhile (!endsAuthority ·) ++ '/' :: rest := by
  induction letters with
  | nil => rfl
  | cons letter others ih =>
      rw [List.takeWhile_cons, List.dropWhile_cons]
      split
      · exact ih
      · rfl

theorem ofHost?_isSome_iff {scheme letters path : List Char}
    {query? : Option (List Char)}
    (spoken : scheme = "http".toList ∨ scheme = "https".toList)
    (unmarked : Url.Unmarked letters) (pathUnmarked : Url.Unmarked ('/' :: path))
    (pathFits : ∀ letter ∈ '/' :: path, fitsPath letter = true)
    (noSign : ∀ query ∈ query?, '#' ∉ query) :
    (ofHost? (scheme ++ ':' :: '/' :: '/' ::
        (letters ++ '/' :: (path ++ Url.optional '?' query?)))).isSome ↔
      FitsAuthority letters ∧
        ∀ query ∈ query?, ∀ letter ∈ query, fitsQuery letter = true := by
  have behindUnmarked : Url.Unmarked (letters.dropWhile (!endsAuthority ·) ++ '/' :: path) :=
    Url.unmarked_append.mpr ⟨unmarked.subset (List.dropWhile_subset _), pathUnmarked⟩
  have behind := ofPath?_isSome_iff behindUnmarked noSign
  rw [List.append_assoc, List.cons_append, List.forall_mem_append] at behind
  simp only [ofHost?, dropScheme?_spoken spoken, Option.bind_eq_bind, Option.bind_some,
    takeWhile_append_slash, drop_append_slash, if_true]
  constructor
  · intro found
    split at found
    · cases found
    · rename_i isHost
      split at found
      · cases found
      · rename_i hasHost
        rw [Bool.not_eq_true, Bool.not_eq_false'] at isHost
        rw [List.isEmpty_iff] at hasHost
        obtain ⟨result, resultEq⟩ := Option.isSome_iff_exists.mp found
        obtain ⟨target, targetEq, -⟩ := Option.bind_eq_some_iff.mp resultEq
        have carried := behind.mp (by rw [targetEq]; rfl)
        exact ⟨⟨isHost, hasHost, carried.1.1⟩, carried.2⟩
  · rintro ⟨fits, queryFits⟩
    obtain ⟨target, targetEq⟩ :=
      Option.isSome_iff_exists.mp (behind.mpr ⟨⟨fits.behind, pathFits⟩, queryFits⟩)
    have hasHost := List.isEmpty_eq_false_iff.mpr fits.hasHost
    simp [fits.isAuthority, hasHost, targetEq]

theorem ofText?_of_letter {content : String} {first : Char} {rest : List Char}
    (letters : content.toList = first :: rest) (noSlash : first ≠ '/') (noStar : first ≠ '*') :
    ofText? content =
      if longest < content.utf8ByteSize then none else ofHost? content.toList := by
  have filled : content.isEmpty = false := by
    rw [← Bool.not_eq_true, String.isEmpty_iff]
    rintro rfl
    cases letters
  unfold ofText?
  rw [filled, Bool.false_or]
  simp only [decide_eq_true_eq]
  split
  · rfl
  · rw [letters]
    split
    · rename_i same
      exact absurd (List.cons.inj same).1 noSlash
    · rename_i same
      exact absurd (List.cons.inj same).1 noStar
    · rfl

/-- Whether an address with a path can be requested depends on its authority, and on
its length. -/
theorem ofText?_isSome_iff {url : Url} {authority : Authority} {path : List Char}
    (divided : url.Divided) (spoken : url.scheme = "http".toList ∨ url.scheme = "https".toList)
    (authorityEq : url.authority = some authority) (pathEq : url.path = .rooted ('/' :: path))
    (pathFits : ∀ letter ∈ '/' :: path, fitsPath letter = true)
    (noFragment : url.fragment = none)
    (queryFits : ∀ query ∈ url.query, ∀ letter ∈ query, fitsQuery letter = true) :
    (ofText? url.text).isSome ↔
      FitsAuthority authority.letters ∧ url.text.utf8ByteSize ≤ longest := by
  have authorityUnmarked := divided.authority authority authorityEq
  have pathUnmarked := divided.path
  rw [pathEq] at pathUnmarked
  have noSign : ∀ query ∈ url.query, '#' ∉ query := by
    intro query isQuery member
    exact absurd (queryFits query isQuery '#' member) (by decide)
  have lettersEq : url.text.toList = url.scheme ++ ':' :: '/' :: '/' ::
      (authority.letters ++ '/' :: (path ++ Url.optional '?' url.query)) := by
    simp [Url.text, Url.letters, authorityEq, Url.pathLetters, pathEq, noFragment,
      Url.optional]
  have host := ofHost?_isSome_iff spoken authorityUnmarked pathUnmarked pathFits noSign
  rw [← lettersEq] at host
  obtain ⟨rest, starts⟩ : ∃ rest, url.text.toList = 'h' :: rest := by
    rcases spoken with isHttp | isHttps
    · exact ⟨_, by rw [lettersEq, isHttp]; rfl⟩
    · exact ⟨_, by rw [lettersEq, isHttps]; rfl⟩
  rw [ofText?_of_letter starts (by decide) (by decide)]
  split
  · rename_i long
    constructor
    · rintro ⟨⟩
    · rintro ⟨-, short⟩
      omega
  · rename_i short
    rw [host]
    constructor
    · rintro ⟨fits, -⟩
      exact ⟨fits, by omega⟩
    · rintro ⟨fits, -⟩
      exact ⟨fits, queryFits⟩

/-- An address that is a path with or without a query is read as these two. -/
theorem ofText?_path {path : List Char} {query? : Option (List Char)}
    (slash : path.head? = some '/') (fits : ∀ letter ∈ path, fitsPath letter = true)
    (queryFits : ∀ query ∈ query?, ∀ letter ∈ query, fitsQuery letter = true)
    (short : (String.ofList (path ++ Url.optional '?' query?)).utf8ByteSize ≤ longest) :
    ofText? (String.ofList (path ++ Url.optional '?' query?)) = some ⟨path, query?⟩ := by
  have unmarked : Url.Unmarked path := by
    intro letter member
    rw [Url.endsPath_eq_false_iff]
    have fit := fits letter member
    constructor
    · rintro rfl
      exact absurd fit (by decide)
    · rintro rfl
      exact absurd fit (by decide)
  have noSign : ∀ query ∈ query?, '#' ∉ query := by
    intro query isQuery member
    exact absurd (queryFits query isQuery '#' member) (by decide)
  have read := ofPath?_append unmarked noSign
  have carried := (ofPath?_isSome_iff unmarked noSign).mpr ⟨fits, queryFits⟩
  rw [read] at carried
  have fitting : (path.all fitsPath && (query?.getD []).all fitsQuery) = true := by
    by_contra unfit
    rw [if_neg unfit] at carried
    cases carried
  rw [if_pos fitting] at read
  obtain ⟨others, rfl⟩ : ∃ others, path = '/' :: others := by
    cases path with
    | nil => cases slash
    | cons first others => exact ⟨others, by rw [Option.some.inj slash]⟩
  rw [← read, ofText?, if_neg (by simpa using short), String.toList_ofList]
  rfl

end Http.Target

end EditorLaunch
