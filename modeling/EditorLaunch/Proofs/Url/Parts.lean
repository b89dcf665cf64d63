import EditorLaunch.Proofs.Text.Form
import EditorLaunch.Proofs.Url.Host
import Mathlib.Data.List.TakeDrop
import Mathlib.Data.List.TakeWhile

/-!
# The parts of an address in its text

In an address that was read, nothing before the query holds a question mark or a
number sign.  Its query can therefore be found in its text without reading the
address again: it stands behind the first question mark and before the first
number sign.
-/

namespace EditorLaunch

/-- The letters of a path. -/
def UrlPath.letters : UrlPath → List Char
  | rooted letters => letters
  | opaquePath letters => letters

namespace Url

/-- An address whose parts before the query hold no marks. -/
structure Divided (url : Url) : Prop where
  scheme : Unmarked url.scheme
  authority : ∀ authority ∈ url.authority, Unmarked authority.letters
  path : Unmarked url.path.letters

theorem passes_toLower {letter : Char} (fits : isSchemeLetter letter = true) :
    endsPath letter.toLower = false := by
  have ascii : letter.toNat < 0x80 := by
    simp only [isSchemeLetter, Bool.or_eq_true, beq_iff_eq] at fits
    rcases fits with ((alphanumeric | rfl) | rfl) | rfl
    · have := Form.isAlphanum_bounds alphanumeric
      omega
    all_goals decide
  exact holds_of_codes
    (fun letter => isSchemeLetter letter = true → endsPath letter.toLower = false)
    (by decide) ascii fits

theorem unmarked_scheme? {letters scheme rest : List Char}
    (reads : scheme? letters = some (scheme, rest)) : Unmarked scheme := by
  unfold scheme? at reads
  dsimp only at reads
  split at reads
  · rename_i first others behind found _
    split at reads
    · obtain ⟨rfl, rfl⟩ := Prod.mk.inj (Option.some.inj reads)
      intro letter member
      obtain ⟨original, inFound, rfl⟩ := List.mem_map.mp member
      rw [List.span_eq_takeWhile_dropWhile] at inFound
      exact passes_toLower (List.mem_takeWhile_imp inFound)
    · cases reads
  · cases reads

/-- A user is written with escapes. -/
theorem exists_pieces_of_splitUser {kind : SchemeKind}
    {letters username password rest : List Char}
    (reads : splitUser kind letters = .ok ((username, password), rest)) :
    ∃ name word, username = Percent.encode Percent.escapedInUserinfo name ∧
      password = Percent.encode Percent.escapedInUserinfo word := by
  unfold splitUser at reads
  dsimp only at reads
  split at reads
  · split at reads
    · cases reads
    · have same := (Prod.mk.inj (Except.ok.inj reads)).1
      obtain ⟨rfl, rfl⟩ := Prod.mk.inj same
      exact ⟨_, _, rfl, rfl⟩
  · have same := (Prod.mk.inj (Except.ok.inj reads)).1
    obtain ⟨rfl, rfl⟩ := Prod.mk.inj same
    exact ⟨[], [], rfl, rfl⟩

theorem unmarked_splitUser {kind : SchemeKind} {letters username password rest : List Char}
    (reads : splitUser kind letters = .ok ((username, password), rest)) :
    Unmarked username ∧ Unmarked password := by
  obtain ⟨name, word, rfl, rfl⟩ := exists_pieces_of_splitUser reads
  constructor
  · exact unmarked_encode fun _ _ => passes_of_excluded (by decide) (by decide)
  · exact unmarked_encode fun _ _ => passes_of_excluded (by decide) (by decide)

theorem unmarked_authority {authority : Authority} (username : Unmarked authority.username)
    (password : Unmarked authority.password) (host : Unmarked authority.host.letters) :
    Unmarked authority.letters := by
  have user : Unmarked authority.userLetters := by
    unfold Authority.userLetters
    split
    · exact unmarked_nil
    · split
      · exact unmarked_append.mpr ⟨username, by decide⟩
      · rw [unmarked_append, unmarked_append, unmarked_cons]
        exact ⟨⟨username, by decide, password⟩, by decide⟩
  have port : Unmarked authority.portLetters := by
    unfold Authority.portLetters
    split
    · exact unmarked_cons.mpr ⟨by decide, unmarked_toDigits _⟩
    · exact unmarked_nil
  rw [Authority.letters, unmarked_append, unmarked_append]
  exact ⟨⟨user, host⟩, port⟩

theorem unmarked_readAuthority {scheme letters rest : List Char} {kind : SchemeKind}
    {authority : Authority} (reads : readAuthority scheme kind letters = .ok (authority, rest)) :
    Unmarked authority.letters := by
  unfold readAuthority at reads
  simp only [bind_eq_ok_iff] at reads
  obtain ⟨⟨⟨username, password⟩, afterUser⟩, user, reads⟩ := reads
  obtain ⟨-, -, host, hostEq, -, -, ⟨port, behind⟩, -, -, -, reads⟩ := reads
  obtain ⟨rfl, rfl⟩ := Prod.mk.inj (Except.ok.inj reads)
  obtain ⟨usernamePasses, passwordPasses⟩ := unmarked_splitUser user
  have hostPasses : Unmarked host.letters := by
    unfold readHost at hostEq
    split at hostEq
    · exact unmarked_readCommon hostEq
    · exact unmarked_readOther hostEq
  exact unmarked_authority usernamePasses passwordPasses hostPasses

theorem unmarked_readFileHost {letters rest : List Char} {host : Host}
    (reads : readFileHost letters = .ok (host, rest)) : Unmarked host.letters := by
  unfold readFileHost at reads
  dsimp only at reads
  split at reads
  · obtain ⟨rfl, -⟩ := Prod.mk.inj (Except.ok.inj reads)
    exact unmarked_nil
  · split at reads
    · obtain ⟨rfl, -⟩ := Prod.mk.inj (Except.ok.inj reads)
      exact unmarked_nil
    · obtain ⟨found, foundEq, reads⟩ := bind_eq_ok_iff.mp reads
      obtain ⟨rfl, -⟩ := Prod.mk.inj (Except.ok.inj reads)
      split
      · exact unmarked_nil
      · exact unmarked_readCommon foundEq

section

variable {holds : Char → Prop}

theorem forall_mem_goBack {kept : List (List Char)}
    (keptHold : ∀ element ∈ kept, ∀ letter ∈ element, holds letter) :
    ∀ element ∈ goBack kept, ∀ letter ∈ element, holds letter := by
  unfold goBack
  split
  · exact keptHold
  · split
    · exact keptHold
    · intro element member
      exact keptHold element (List.mem_cons_of_mem _ member)

/-- Resolving a path brings nothing new into it, colons behind drives aside. -/
theorem forall_mem_resolve {kind : SchemeKind} {kept elements : List (List Char)}
    (colon : holds ':') (keptHold : ∀ element ∈ kept, ∀ letter ∈ element, holds letter)
    (elementsHold : ∀ element ∈ elements, ∀ letter ∈ element, holds letter) :
    ∀ element ∈ resolve kind kept elements, ∀ letter ∈ element, holds letter := by
  have ended {condition : Prop} [Decidable condition] {shorter : List (List Char)}
      (shorterHold : ∀ element ∈ shorter, ∀ letter ∈ element, holds letter) :
      ∀ element ∈ (if condition then [] :: shorter else shorter),
        ∀ letter ∈ element, holds letter := by
    split
    · exact List.forall_mem_cons.mpr ⟨by simp, shorterHold⟩
    · exact shorterHold
  induction elements generalizing kept with
  | nil => exact keptHold
  | cons element rest ih =>
      obtain ⟨elementHolds, restHold⟩ := List.forall_mem_cons.mp elementsHold
      unfold resolve
      split
      · exact ih (ended (forall_mem_goBack keptHold)) restHold
      · split
        · exact ih (ended keptHold) restHold
        · refine ih (List.forall_mem_cons.mpr ⟨?_, keptHold⟩) restHold
          split
          · rw [List.forall_mem_append]
            exact ⟨fun letter member => elementHolds letter (List.take_subset 1 element member),
              by simpa using colon⟩
          · exact elementHolds

/-- A path consists of slashes, of what is escaped for it, and of colons behind
drives. -/
theorem forall_mem_readPath {kind : SchemeKind} {letters : List Char} (slash : holds '/')
    (colon : holds ':')
    (written : ∀ piece, ∀ letter ∈ Percent.encode Percent.escapedInPath piece, holds letter) :
    ∀ letter ∈ readPath kind letters, holds letter := by
  have elementsHold : ∀ element ∈ readElements kind letters,
      ∀ letter ∈ element, holds letter := by
    intro element member
    refine forall_mem_resolve colon (by simp) ?_ element (List.mem_reverse.mp member)
    intro element member
    obtain ⟨piece, -, rfl⟩ := List.mem_map.mp member
    exact written piece
  unfold readPath
  split
  · simp
  · refine List.forall_mem_cons.mpr ⟨slash, fun letter member => ?_⟩
    rcases mem_of_mem_intercalate member with rfl | ⟨element, inKept, inElement⟩
    · exact slash
    · refine elementsHold element ?_ letter inElement
      split at inKept
      · exact List.dropWhile_subset _ inKept
      · exact inKept

end

theorem unmarked_readPath (kind : SchemeKind) (letters : List Char) :
    Unmarked (readPath kind letters) :=
  forall_mem_readPath (by decide) (by decide) fun _ =>
    unmarked_encode fun _ _ => passes_of_excluded (by decide) (by decide)

theorem divided_finish {scheme letters : List Char} {kind : SchemeKind}
    {authority : Option Authority} (schemePasses : Unmarked scheme)
    (authorityPasses : ∀ found ∈ authority, Unmarked found.letters) :
    (finish scheme kind authority letters).Divided :=
  ⟨schemePasses, authorityPasses, unmarked_readPath kind _⟩

theorem divided_readFile {scheme letters : List Char} {url : Url}
    (schemePasses : Unmarked scheme) (reads : readFile scheme letters = .ok url) :
    url.Divided := by
  have noHost : Unmarked (Authority.letters ⟨[], [], .name [], none⟩) := by decide
  unfold readFile at reads
  split at reads
  · split at reads
    · obtain ⟨⟨host, behind⟩, hostEq, reads⟩ := bind_eq_ok_iff.mp reads
      obtain rfl := Except.ok.inj reads
      refine divided_finish schemePasses ?_
      intro authority found
      obtain rfl := Option.some.inj found
      refine unmarked_authority unmarked_nil unmarked_nil ?_
      dsimp only
      split
      · exact unmarked_nil
      · exact unmarked_readFileHost hostEq
    · obtain rfl := Except.ok.inj reads
      exact divided_finish schemePasses (by simpa using noHost)
  · obtain rfl := Except.ok.inj reads
    exact divided_finish schemePasses (by simpa using noHost)

theorem divided_readOther {scheme letters : List Char} {url : Url}
    (schemePasses : Unmarked scheme) (reads : readOther scheme letters = .ok url) :
    url.Divided := by
  unfold readOther at reads
  split at reads
  · obtain ⟨⟨authority, behind⟩, authorityEq, reads⟩ := bind_eq_ok_iff.mp reads
    obtain rfl := Except.ok.inj reads
    exact divided_finish schemePasses (by simpa using unmarked_readAuthority authorityEq)
  · obtain rfl := Except.ok.inj reads
    exact divided_finish schemePasses (by simp)
  · obtain rfl := Except.ok.inj reads
    refine ⟨schemePasses, by simp, unmarked_encode ?_⟩
    intro letter member _
    change letter ∈ (letters.span (!endsPath ·)).1 at member
    rw [List.span_eq_takeWhile_dropWhile] at member
    simpa using List.mem_takeWhile_imp member

/-- Nothing before the query of an address that was read looks like its start. -/
theorem divided_parse {content : String} {url : Url} (reads : parse content = .ok url) :
    url.Divided := by
  unfold parse at reads
  split at reads
  · cases reads
  · rename_i scheme rest schemeEq
    have schemePasses := unmarked_scheme? schemeEq
    split at reads
    · exact divided_readFile schemePasses reads
    · exact divided_readOther schemePasses reads
    · obtain ⟨⟨authority, behind⟩, authorityEq, reads⟩ := bind_eq_ok_iff.mp reads
      obtain rfl := Except.ok.inj reads
      exact divided_finish schemePasses (by simpa using unmarked_readAuthority authorityEq)

/-- The query of an address by its text alone. -/
def queryIn (text : String) : Option (List Char) :=
  match (text.toList.takeWhile (· != '#')).dropWhile (· != '?') with
  | _ :: query => some query
  | [] => none

/-- What stands before the query. -/
def front (url : Url) : List Char :=
  url.scheme ++ ':' :: (url.authority.elim [] fun authority => '/' :: '/' :: authority.letters) ++
    url.pathLetters

theorem letters_eq (url : Url) :
    url.letters = url.front ++ optional '?' url.query ++ optional '#' url.fragment := by
  unfold letters front
  cases url.authority with
  | none => simp
  | some authority => simp

theorem Divided.front {url : Url} (divided : url.Divided) : Unmarked url.front := by
  have authority : Unmarked
      (url.authority.elim [] fun authority => '/' :: '/' :: authority.letters) := by
    cases found : url.authority with
    | none => exact unmarked_nil
    | some authority =>
        have passes := divided.authority authority (by simp [found])
        exact unmarked_cons.mpr ⟨by decide, unmarked_cons.mpr ⟨by decide, passes⟩⟩
  have path : Unmarked url.pathLetters := by
    have passes := divided.path
    unfold pathLetters
    split
    · rename_i rest pathEq _
      rw [pathEq] at passes
      exact unmarked_cons.mpr ⟨by decide, unmarked_cons.mpr ⟨by decide, passes⟩⟩
    · rename_i pathEq _
      rw [pathEq] at passes
      exact passes
    · rename_i pathEq
      rw [pathEq] at passes
      exact passes
  unfold Url.front
  rw [unmarked_append, unmarked_append, unmarked_cons]
  exact ⟨⟨divided.scheme, by decide, authority⟩, path⟩

/-- The text of an address shows its query. -/
theorem queryIn_text {url : Url} (divided : url.Divided)
    (queryPasses : ∀ query ∈ url.query, '#' ∉ query) : queryIn url.text = url.query := by
  have frontPasses := divided.front
  have untilNumber : ∀ letter ∈ url.front ++ optional '?' url.query,
      (letter != '#') = true := by
    intro letter member
    rw [bne_iff_ne]
    rcases List.mem_append.mp member with inFront | inQuery
    · exact (endsPath_eq_false_iff.mp (frontPasses letter inFront)).2
    · cases found : url.query with
      | none => simp [found, optional] at inQuery
      | some query =>
          rw [found, optional, List.mem_cons] at inQuery
          rcases inQuery with rfl | inLetters
          · decide
          · rintro rfl
            exact queryPasses query (by simp [found]) inLetters
  have untilQuestion : ∀ letter ∈ url.front, (letter != '?') = true := by
    intro letter member
    simpa using (endsPath_eq_false_iff.mp (frontPasses letter member)).1
  have fragmentEnds : (optional '#' url.fragment).takeWhile (· != '#') = [] := by
    cases url.fragment with
    | none => rfl
    | some letters => simp [optional]
  have beforeFragment : url.letters.takeWhile (· != '#') =
      url.front ++ optional '?' url.query := by
    rw [letters_eq, List.takeWhile_append_of_pos untilNumber, fragmentEnds, List.append_nil]
  rw [queryIn, text, String.toList_ofList, beforeFragment,
    List.dropWhile_append_of_pos untilQuestion]
  cases url.query with
  | none => rfl
  | some query => simp [optional]

end Url

end EditorLaunch
