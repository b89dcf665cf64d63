import EditorLaunch.Outbound.Client
import EditorLaunch.Proofs.Url.Authority
import EditorLaunch.Proofs.Url.Parts

/-!
# Addresses with a path behind them

A service is configured by its address, and the path of each call is put behind the
text of it.  If that address has neither a query nor a fragment, the longer one has
none either, and it leads to the same host as the same user: what the shorter text
loses at its end are slashes and blanks, and neither of them begins anything.
-/

namespace EditorLaunch

namespace Url

theorem isTrimmed_of_isSkipped {letter : Char} (skipped : isSkipped letter = true) :
    isTrimmed letter = true := by
  simp only [isSkipped, Bool.or_eq_true, beq_iff_eq] at skipped
  rcases skipped with (rfl | rfl) | rfl <;> rfl

/-- Blanks are no signs. -/
theorem ne_of_isTrimmed {letter : Char} (sign : Char) (above : 0x20 < sign.toNat)
    (blank : isTrimmed letter = true) : letter ≠ sign := by
  rintro rfl
  simp only [isTrimmed, decide_eq_true_eq] at blank
  omega

theorem within_of_isTrimmed {blanks : List Char}
    (blank : ∀ letter ∈ blanks, isTrimmed letter = true) : Within blanks := by
  intro letter member
  have other := fun sign above => ne_of_isTrimmed sign above (blank letter member)
  simp [endsAuthority, isSlash, other '/' (by decide), other '\\' (by decide),
    other '?' (by decide), other '#' (by decide)]

theorem unmarked_of_isTrimmed {blanks : List Char}
    (blank : ∀ letter ∈ blanks, isTrimmed letter = true) : Unmarked blanks := by
  intro letter member
  have other := fun sign above => ne_of_isTrimmed sign above (blank letter member)
  exact endsPath_eq_false_iff.mpr ⟨other '?' (by decide), other '#' (by decide)⟩

/-- What is read of a text that goes on. -/
def begun (letters : List Char) : List Char :=
  (letters.dropWhile isTrimmed).filter (!isSkipped ·)

theorem relevant_append {letters behind : List Char} (nonempty : behind ≠ [])
    (plain : ∀ letter ∈ behind, isTrimmed letter = false) :
    relevant (letters ++ behind) = begun letters ++ behind := by
  have notCut : behind.dropWhile isTrimmed = behind := by
    cases behind with
    | nil => rfl
    | cons first rest => simp [plain first]
  have notCutBehind (before : List Char) :
      (before ++ behind).reverse.dropWhile isTrimmed = (before ++ behind).reverse := by
    rw [List.reverse_append]
    cases ends : behind.reverse with
    | nil => exact absurd (List.reverse_eq_nil_iff.mp ends) nonempty
    | cons last others =>
        have inBehind : last ∈ behind := List.mem_reverse.mp (ends ▸ List.mem_cons_self)
        simp [plain last inBehind]
  have notSkipped : behind.filter (!isSkipped ·) = behind := by
    refine List.filter_eq_self.mpr fun letter member => ?_
    cases skipped : isSkipped letter with
    | false => rfl
    | true =>
        have trimmed := isTrimmed_of_isSkipped skipped
        rw [plain letter member] at trimmed
        cases trimmed
  have front : (letters ++ behind).dropWhile isTrimmed =
      letters.dropWhile isTrimmed ++ behind := by
    rw [List.dropWhile_append, notCut]
    split
    · rename_i allTrimmed
      rw [List.isEmpty_iff.mp allTrimmed, List.nil_append]
    · rfl
  rw [relevant, front, notCutBehind, List.reverse_reverse, List.filter_append, notSkipped,
    begun]

/-- What is cut off at the end of a text are blanks. -/
theorem exists_blanks (letters : List Char) :
    ∃ blanks, (∀ letter ∈ blanks, isTrimmed letter = true) ∧
      begun letters = relevant letters ++ blanks := by
  have divided : letters.dropWhile isTrimmed =
      ((letters.dropWhile isTrimmed).reverse.dropWhile isTrimmed).reverse ++
        ((letters.dropWhile isTrimmed).reverse.takeWhile isTrimmed).reverse := by
    rw [← List.reverse_append, List.takeWhile_append_dropWhile, List.reverse_reverse]
  refine ⟨(((letters.dropWhile isTrimmed).reverse.takeWhile isTrimmed).reverse).filter
    (!isSkipped ·), ?_, ?_⟩
  · intro letter member
    have inCut := List.mem_reverse.mp (List.mem_of_mem_filter member)
    exact List.mem_takeWhile_imp inCut
  · rw [relevant, ← List.filter_append, ← divided, begun]

/-- Nothing is cut off behind a last letter that is no blank. -/
theorem relevant_eq_begun {letters : List Char}
    (lastStays : ∀ last ∈ letters.getLast?, isTrimmed last = false) :
    relevant letters = begun letters := by
  have notCut : (letters.dropWhile isTrimmed).reverse.dropWhile isTrimmed =
      (letters.dropWhile isTrimmed).reverse := by
    cases ends : (letters.dropWhile isTrimmed).reverse with
    | nil => rfl
    | cons last others =>
        have isLast : letters.getLast? = some last := by
          rw [← List.takeWhile_append_dropWhile (p := isTrimmed) (l := letters),
            List.getLast?_append, List.getLast?_eq_head?_reverse, ends]
          rfl
        simp [lastStays last isLast]
  rw [relevant, notCut, List.reverse_reverse, begun]

/-- The letters of a scheme stand in front of the first colon. -/
theorem scheme?_eq_some_iff {letters scheme rest : List Char} :
    scheme? letters = some (scheme, rest) ↔
      ∃ first others, letters = first :: others ++ ':' :: rest ∧ first.isAlpha = true ∧
        (∀ letter ∈ first :: others, isSchemeLetter letter = true) ∧
        scheme = (first :: others).map Char.toLower := by
  constructor
  · intro reads
    unfold scheme? at reads
    simp only [List.span_eq_takeWhile_dropWhile] at reads
    split at reads
    · rename_i first others behind found follows
      split at reads
      · rename_i alphabetic
        obtain ⟨rfl, rfl⟩ := Prod.mk.inj (Option.some.inj reads)
        refine ⟨first, others, ?_, alphabetic, fun letter member => ?_, by rw [found]⟩
        · rw [← found, ← follows, List.takeWhile_append_dropWhile]
        · exact List.mem_takeWhile_imp (found ▸ member)
      · cases reads
    · cases reads
  · rintro ⟨first, others, rfl, alphabetic, schemeLetters, rfl⟩
    have colonEnds : isSchemeLetter ':' = false := by decide
    have found : (first :: others ++ ':' :: rest).takeWhile isSchemeLetter =
        first :: others := by
      rw [List.takeWhile_append_of_pos schemeLetters]
      simp [colonEnds]
    have follows : (first :: others ++ ':' :: rest).dropWhile isSchemeLetter =
        ':' :: rest := by
      rw [List.dropWhile_append_of_pos schemeLetters]
      simp [colonEnds]
    simp only [scheme?, List.span_eq_takeWhile_dropWhile, found, follows, alphabetic, if_true]

theorem scheme?_append {letters behind scheme rest : List Char}
    (noColon : ':' ∉ behind) (reads : scheme? (letters ++ behind) = some (scheme, rest)) :
    ∃ begins, rest = begins ++ behind ∧
      ∀ other, scheme? (letters ++ other) = some (scheme, begins ++ other) := by
  obtain ⟨first, others, whole, alphabetic, schemeLetters, schemeEq⟩ :=
    scheme?_eq_some_iff.mp reads
  obtain ⟨begins, rfl, restEq⟩ : ∃ begins, letters = first :: others ++ ':' :: begins ∧
      rest = begins ++ behind := by
    rcases List.append_eq_append_iff.mp whole with
      ⟨middle, -, behindEq⟩ | ⟨middle, lettersEq, restEq⟩
    · rw [behindEq] at noColon
      simp at noColon
    · cases middle with
      | nil =>
          rw [List.nil_append] at restEq
          rw [← restEq] at noColon
          simp at noColon
      | cons colon begins =>
          obtain ⟨rfl, rfl⟩ := List.cons.inj restEq
          exact ⟨begins, lettersEq, rfl⟩
  refine ⟨begins, restEq, fun other => ?_⟩
  rw [scheme?_eq_some_iff]
  exact ⟨first, others, by simp, alphabetic, schemeLetters, schemeEq⟩

theorem parse_of_common {content : String} {scheme rest : List Char}
    (schemeEq : scheme? (relevant content.toList) = some (scheme, rest))
    (common : SchemeKind.ofScheme scheme = .common) :
    parse content =
      (readAuthority scheme .common (rest.dropWhile (isSlash .common))).map fun found =>
        finish scheme .common (some found.1) found.2 := by
  unfold parse
  simp only [schemeEq, common]
  cases readAuthority scheme .common (rest.dropWhile (isSlash .common)) <;> rfl

theorem scheme_readFile {scheme letters : List Char} {url : Url}
    (reads : readFile scheme letters = .ok url) : url.scheme = scheme := by
  unfold readFile at reads
  split at reads
  · split at reads
    · obtain ⟨⟨host, behind⟩, -, reads⟩ := bind_eq_ok_iff.mp reads
      exact congrArg Url.scheme (Except.ok.inj reads).symm
    · exact congrArg Url.scheme (Except.ok.inj reads).symm
  · exact congrArg Url.scheme (Except.ok.inj reads).symm

theorem scheme_readOther {scheme letters : List Char} {url : Url}
    (reads : readOther scheme letters = .ok url) : url.scheme = scheme := by
  unfold readOther at reads
  split at reads
  · obtain ⟨⟨authority, behind⟩, -, reads⟩ := bind_eq_ok_iff.mp reads
    exact congrArg Url.scheme (Except.ok.inj reads).symm
  · exact congrArg Url.scheme (Except.ok.inj reads).symm
  · exact congrArg Url.scheme (Except.ok.inj reads).symm

theorem exists_finish_of_parse {content : String} {url : Url}
    (reads : parse content = .ok url) (common : SchemeKind.ofScheme url.scheme = .common) :
    ∃ rest authority behind,
      scheme? (relevant content.toList) = some (url.scheme, rest) ∧
        readAuthority url.scheme .common (rest.dropWhile (isSlash .common)) =
            .ok (authority, behind) ∧
          url = finish url.scheme .common (some authority) behind := by
  cases schemeEq : scheme? (relevant content.toList) with
  | none => simp [parse, schemeEq] at reads
  | some found =>
      obtain ⟨scheme, rest⟩ := found
      have sameScheme : url.scheme = scheme := by
        unfold parse at reads
        simp only [schemeEq] at reads
        split at reads
        · exact scheme_readFile reads
        · exact scheme_readOther reads
        · obtain ⟨⟨authority, behind⟩, -, reads⟩ := bind_eq_ok_iff.mp reads
          exact congrArg Url.scheme (Except.ok.inj reads).symm
      subst sameScheme
      rw [parse_of_common schemeEq common] at reads
      cases authorityEq : readAuthority url.scheme .common
          (rest.dropWhile (isSlash .common)) with
      | error failure => simp [authorityEq, Except.map] at reads
      | ok found =>
          rw [authorityEq] at reads
          exact ⟨rest, found.1, found.2, rfl, authorityEq, (Except.ok.inj reads).symm⟩

theorem finish_of_unmarked {scheme letters : List Char} {authority : Option Authority}
    (unmarked : Unmarked letters) :
    finish scheme .common authority letters =
      ⟨scheme, authority, .rooted (readPath .common letters), none, none⟩ := by
  have passes : ∀ letter ∈ letters, (!endsPath letter) = true := by
    intro letter member
    rw [unmarked letter member]
    rfl
  simp only [finish, List.span_eq_takeWhile_dropWhile,
    List.takeWhile_eq_self_iff.mpr passes, List.dropWhile_eq_nil_iff.mpr passes]
  rfl

theorem unmarked_of_finish {scheme letters : List Char} {authority : Option Authority}
    (noQuery : (finish scheme .common authority letters).query = none)
    (noFragment : (finish scheme .common authority letters).fragment = none) :
    Unmarked letters := by
  have stopped : ∀ letter ∈ (letters.dropWhile (!endsPath ·)).head?,
      endsPath letter = true := by
    intro letter first
    have refused := List.head?_dropWhile_not (!endsPath ·) letters
    rw [first] at refused
    simpa using refused
  have ended : letters.dropWhile (!endsPath ·) = [] := by
    simp only [finish, List.span_eq_takeWhile_dropWhile, readTail] at noQuery noFragment
    cases tail : letters.dropWhile (!endsPath ·) with
    | nil => rfl
    | cons mark rest =>
        have isMark := stopped mark (by rw [tail]; rfl)
        simp only [endsPath, Bool.or_eq_true, beq_iff_eq] at isMark
        rcases isMark with rfl | rfl
        · simp [tail] at noQuery
        · simp [tail] at noFragment
  intro letter member
  simpa using List.dropWhile_eq_nil_iff.mp ended letter member

/-- The text of an address, without the slashes at its end and with blanks that are cut
off behind.  There are never both. -/
theorem exists_core (host : String) :
    ∃ core blanks slashes, (∀ letter ∈ blanks, isTrimmed letter = true) ∧
      (∀ letter ∈ slashes, letter = '/') ∧
      begun (Outbound.trimAddress host).toList = core ++ blanks ∧
      relevant host.toList = core ++ slashes ∧
      (relevant host.toList = begun host.toList ↔ blanks = []) ∧
      (blanks = [] ∨ slashes = []) := by
  have divided : host.toList =
      (Outbound.trimAddress host).toList ++
        (host.toList.reverse.takeWhile (· == '/')).reverse := by
    rw [Outbound.trimAddress, String.toList_ofList, trimEndWhile, ← List.reverse_append,
      List.takeWhile_append_dropWhile, List.reverse_reverse]
  have onlySlashes : ∀ letter ∈ (host.toList.reverse.takeWhile (· == '/')).reverse,
      letter = '/' := by
    intro letter member
    simpa using List.mem_takeWhile_imp (List.mem_reverse.mp member)
  generalize (Outbound.trimAddress host).toList = kept at divided ⊢
  generalize (host.toList.reverse.takeWhile (· == '/')).reverse = slashes
    at divided onlySlashes
  by_cases noSlashes : slashes = []
  · subst noSlashes
    rw [List.append_nil] at divided
    obtain ⟨blanks, blank, begins⟩ := exists_blanks kept
    refine ⟨relevant kept, blanks, [], blank, by simp, begins, by rw [divided, List.append_nil],
      ?_, .inr rfl⟩
    rw [divided, begins]
    exact List.self_eq_append_right
  · have lastStays : ∀ last ∈ host.toList.getLast?, isTrimmed last = false := by
      intro last isLast
      rw [divided, List.getLast?_append_of_ne_nil _ noSlashes] at isLast
      rw [onlySlashes last (List.mem_of_getLast? isLast)]
      rfl
    refine ⟨begun kept, [], slashes, by simp, onlySlashes, (List.append_nil _).symm, ?_,
      iff_of_true (relevant_eq_begun lastStays) rfl, .inl rfl⟩
    rw [divided]
    refine relevant_append noSlashes fun letter member => ?_
    rw [onlySlashes letter member]
    rfl

/-- A path that may stand behind an address: it is rooted, and holds neither blanks nor
marks. -/
structure IsTail (path : List Char) : Prop where
  rooted : path.head? = some '/'
  plain : ∀ letter ∈ path, isTrimmed letter = false
  unmarked : Unmarked path

theorem IsTail.stops {path : List Char} (tail : IsTail path) : Stops path := by
  intro letter first
  rw [tail.rooted] at first
  obtain rfl := Option.some.inj first
  rfl

theorem IsTail.ne_nil {path : List Char} (tail : IsTail path) : path ≠ [] := by
  rintro rfl
  cases tail.rooted

theorem stops_append {letters behind : List Char} (lettersStop : Stops letters)
    (behindStops : Stops behind) : Stops (letters ++ behind) := by
  cases letters with
  | nil => exact behindStops
  | cons letter rest =>
      intro first isFirst
      exact lettersStop first isFirst

/-- Behind the letters of an authority, what stands in front of slashes stays there
whatever follows it. -/
theorem readAuthority_outside {scheme letters slashes behind : List Char}
    {authority : Authority} (onlySlashes : ∀ letter ∈ slashes, letter = '/')
    (reads : readAuthority scheme .common (letters ++ slashes) = .ok (authority, behind)) :
    ∃ inside outside, letters = inside ++ outside ∧ Within inside ∧ Stops outside ∧
      behind = outside ++ slashes ∧
      (authority.username, authority.password) = userIn inside ∧
      ∀ other, Stops other →
        readAuthority scheme .common (inside ++ other) = .ok (authority, other) := by
  have slashesStop : Stops slashes := by
    intro letter first
    rw [onlySlashes letter (List.mem_of_head? first)]
    rfl
  obtain ⟨inside, outside, rfl, within, outsideStops⟩ : ∃ inside outside,
      letters = inside ++ outside ∧ Within inside ∧ Stops outside :=
    ⟨_, _, (List.takeWhile_append_dropWhile).symm, within_takeWhile letters,
      stops_dropWhile letters⟩
  rw [List.append_assoc] at reads
  obtain ⟨rfl, userEq, elsewhere⟩ :=
    readAuthority_append within (stops_append outsideStops slashesStop) reads
  exact ⟨inside, outside, rfl, within, outsideStops, rfl, userEq, elsewhere⟩

/-- What stands behind the authority of an address may be replaced by a path, with
blanks in front or without: the user stays the same. -/
theorem readAuthority_longer {scheme letters slashes blanks path behind rest : List Char}
    {authority other : Authority} (onlySlashes : ∀ letter ∈ slashes, letter = '/')
    (blank : ∀ letter ∈ blanks, isTrimmed letter = true) (tail : IsTail path)
    (reads : readAuthority scheme .common (letters ++ slashes) = .ok (authority, behind))
    (unmarked : Unmarked behind)
    (longer : readAuthority scheme .common (letters ++ (blanks ++ path)) = .ok (other, rest)) :
    (other.username, other.password) = (authority.username, authority.password) ∧
      Unmarked rest := by
  obtain ⟨inside, outside, rfl, within, outsideStops, rfl, userEq, -⟩ :=
    readAuthority_outside onlySlashes reads
  obtain ⟨outsideUnmarked, -⟩ := unmarked_append.mp unmarked
  cases outside with
  | nil =>
      -- Blanks behind the letters of the authority are read with them.
      have noUser : '@' ∉ blanks := fun member =>
        ne_of_isTrimmed '@' (by decide) (blank '@' member) rfl
      rw [List.append_nil, ← List.append_assoc] at longer
      obtain ⟨rfl, otherUser, -⟩ := readAuthority_append
        (within_append.mpr ⟨within, within_of_isTrimmed blank⟩) tail.stops longer
      exact ⟨by rw [otherUser, userIn_append noUser, userEq], tail.unmarked⟩
  | cons letter others =>
      have goesOn : Stops (letter :: others ++ (blanks ++ path)) := fun first isFirst =>
        outsideStops first isFirst
      rw [List.append_assoc] at longer
      obtain ⟨rfl, otherUser, -⟩ := readAuthority_append within goesOn longer
      refine ⟨by rw [otherUser, userEq], ?_⟩
      rw [unmarked_append, unmarked_append]
      exact ⟨outsideUnmarked, unmarked_of_isTrimmed blank, tail.unmarked⟩

/-- An address that leads on from another one: to the same host, as the same user, and
without a query or a fragment. -/
structure LeadsOn (url longer : Url) : Prop where
  scheme : longer.scheme = url.scheme
  user : longer.authority.map (fun authority => (authority.username, authority.password)) =
    url.authority.map fun authority => (authority.username, authority.password)
  path : ∃ letters, longer.path = .rooted (readPath .common letters)
  query : longer.query = none
  fragment : longer.fragment = none

theorem readAuthority_nil (scheme : List Char) :
    readAuthority scheme .common [] = .error .emptyHost :=
  rfl

theorem exists_readPath_eq (letters : List Char) :
    ∃ rest, readPath .common letters = '/' :: rest := by
  unfold readPath
  rw [if_neg (by simp [SchemeKind.isSpecial])]
  exact ⟨_, rfl⟩

theorem exists_path_of_parse {content : String} {url : Url} (reads : parse content = .ok url)
    (common : SchemeKind.ofScheme url.scheme = .common) :
    ∃ letters, url.path = .rooted (readPath .common letters) := by
  obtain ⟨-, authority, behind, -, -, urlEq⟩ := exists_finish_of_parse reads common
  refine ⟨behind.takeWhile (!endsPath ·), ?_⟩
  rw [urlEq]
  simp only [finish, List.span_eq_takeWhile_dropWhile]

theorem exists_host_of_parse {host : String} {url : Url} (reads : parse host = .ok url)
    (common : SchemeKind.ofScheme url.scheme = .common) :
    ∃ authority, url.authority = some authority ∧ authority.host.isEmpty = false := by
  obtain ⟨rest, authority, behind, -, authorityEq, urlEq⟩ := exists_finish_of_parse reads common
  refine ⟨authority, by rw [urlEq]; rfl, ?_⟩
  unfold readAuthority at authorityEq
  simp only [bind_eq_ok_iff] at authorityEq
  obtain ⟨user, -, ⟨⟩, -, host, hostEq, ⟨⟩, -, port, -, ⟨⟩, -, found⟩ := authorityEq
  obtain ⟨rfl, -⟩ := Prod.mk.inj (Except.ok.inj found)
  exact isEmpty_of_readCommon hostEq

/-- How an address is read, and how it is read with a path behind it: the slashes at its
end give way to the path, and blanks that were cut off come to stand in front of it. -/
structure GoesOn (host : String) (url : Url) (letters blanks slashes : List Char)
    (authority : Authority) (behind : List Char) : Prop where
  blank : ∀ letter ∈ blanks, isTrimmed letter = true
  noBlanks : relevant host.toList = begun host.toList ↔ blanks = []
  notBoth : blanks = [] ∨ slashes = []
  onlySlashes : ∀ letter ∈ slashes, letter = '/'
  reads : readAuthority url.scheme .common (letters ++ slashes) = .ok (authority, behind)
  whole : url = finish url.scheme .common (some authority) behind
  longer : ∀ path : String, IsTail path.toList →
    parse (Outbound.trimAddress host ++ path) =
      (readAuthority url.scheme .common (letters ++ (blanks ++ path.toList))).map fun found =>
        finish url.scheme .common (some found.1) found.2

theorem GoesOn.unmarked {host : String} {url : Url} {letters blanks slashes behind : List Char}
    {authority : Authority} (goesOn : GoesOn host url letters blanks slashes authority behind)
    (noQuery : url.query = none) (noFragment : url.fragment = none) : Unmarked behind := by
  rw [goesOn.whole] at noQuery noFragment
  exact unmarked_of_finish noQuery noFragment

theorem exists_goesOn {host : String} {url : Url} (reads : parse host = .ok url)
    (common : SchemeKind.ofScheme url.scheme = .common) :
    ∃ letters blanks slashes authority behind,
      GoesOn host url letters blanks slashes authority behind := by
  obtain ⟨rest, authority, behind, schemeEq, authorityEq, urlEq⟩ :=
    exists_finish_of_parse reads common
  obtain ⟨core, blanks, slashes, blank, onlySlashes, begins, hostRead, noBlanks, notBoth⟩ :=
    exists_core host
  have longerRead (path : String) (tail : IsTail path.toList) :
      relevant (Outbound.trimAddress host ++ path).toList =
        core ++ (blanks ++ path.toList) := by
    rw [String.toList_append, relevant_append tail.ne_nil tail.plain, begins,
      List.append_assoc]
  have noColon : ':' ∉ slashes := fun member => absurd (onlySlashes ':' member) (by decide)
  rw [hostRead] at schemeEq
  obtain ⟨afterScheme, rfl, schemeOf⟩ := scheme?_append noColon schemeEq
  have hasHost : afterScheme.dropWhile (isSlash .common) ≠ [] := by
    intro noHost
    have nothing : (afterScheme ++ slashes).dropWhile (isSlash .common) = [] := by
      rw [List.dropWhile_append, noHost, List.isEmpty_nil, if_pos rfl,
        List.dropWhile_eq_nil_iff]
      intro letter member
      rw [onlySlashes letter member]
      rfl
    rw [nothing, readAuthority_nil] at authorityEq
    cases authorityEq
  have afterSlashes (behind : List Char) :
      (afterScheme ++ behind).dropWhile (isSlash .common) =
        afterScheme.dropWhile (isSlash .common) ++ behind := by
    rw [List.dropWhile_append, if_neg (by simpa using hasHost)]
  rw [afterSlashes] at authorityEq
  refine ⟨_, blanks, slashes, authority, behind, blank, noBlanks, notBoth, onlySlashes,
    authorityEq, urlEq, fun path tail => ?_⟩
  rw [parse_of_common (longerRead path tail ▸ schemeOf (blanks ++ path.toList)) common,
    afterSlashes]

/-- With a path behind it, an address without a query and a fragment leads on. -/
theorem leadsOn_of_parse_append {host path : String} {url longer : Url}
    (reads : parse host = .ok url) (common : SchemeKind.ofScheme url.scheme = .common)
    (noQuery : url.query = none) (noFragment : url.fragment = none)
    (tail : IsTail path.toList)
    (longerReads : parse (Outbound.trimAddress host ++ path) = .ok longer) :
    url.LeadsOn longer := by
  obtain ⟨letters, blanks, slashes, authority, behind, goesOn⟩ :=
    exists_goesOn reads common
  rw [goesOn.longer path tail] at longerReads
  cases outcome : readAuthority url.scheme .common (letters ++ (blanks ++ path.toList)) with
  | error failure => simp [outcome, Except.map] at longerReads
  | ok found =>
      obtain ⟨userEq, restUnmarked⟩ := readAuthority_longer goesOn.onlySlashes goesOn.blank tail
        goesOn.reads (goesOn.unmarked noQuery noFragment) outcome
      rw [outcome] at longerReads
      obtain rfl := Except.ok.inj longerReads
      dsimp only
      rw [finish_of_unmarked restUnmarked]
      refine ⟨rfl, ?_, ⟨_, rfl⟩, rfl, rfl⟩
      rw [goesOn.whole]
      exact congrArg some userEq

/-- If no blanks are cut off at its end, an address with a path behind it is read with the
same authority, and what is behind this goes on with the path where the slashes stood. -/
theorem parse_append {host : String} {url : Url} (reads : parse host = .ok url)
    (common : SchemeKind.ofScheme url.scheme = .common)
    (plainEnd : relevant host.toList = begun host.toList) :
    ∃ outside slashes, Stops outside ∧ (∀ letter ∈ slashes, letter = '/') ∧
      url = finish url.scheme .common url.authority (outside ++ slashes) ∧
      ∀ path : String, IsTail path.toList →
        parse (Outbound.trimAddress host ++ path) =
          .ok (finish url.scheme .common url.authority (outside ++ path.toList)) := by
  obtain ⟨letters, blanks, slashes, authority, behind, goesOn⟩ :=
    exists_goesOn reads common
  obtain ⟨inside, outside, rfl, -, outsideStops, rfl, -, elsewhere⟩ :=
    readAuthority_outside goesOn.onlySlashes goesOn.reads
  have authorityEq : url.authority = some authority := congrArg Url.authority goesOn.whole
  rw [authorityEq]
  refine ⟨outside, slashes, outsideStops, goesOn.onlySlashes, goesOn.whole, fun path tail => ?_⟩
  rw [goesOn.longer path tail, goesOn.noBlanks.mp plainEnd, List.nil_append, List.append_assoc,
    elsewhere _ (stops_append outsideStops tail.stops)]
  rfl

/-- The slashes at the end of a text begin no query and no fragment. -/
theorem unmarked_of_slashes {slashes : List Char} (onlySlashes : ∀ letter ∈ slashes, letter = '/') :
    Unmarked slashes := by
  intro letter member
  rw [onlySlashes letter member]
  rfl

end Url

end EditorLaunch
