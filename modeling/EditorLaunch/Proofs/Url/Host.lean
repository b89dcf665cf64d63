import EditorLaunch.Proofs.Readers
import EditorLaunch.Proofs.Text.Percent
import EditorLaunch.Url.Reader

/-!
# Hosts have no marks

The question mark and the number sign divide the text of an address.  Whatever a
host is read from, its own text holds neither of them: numeric addresses consist
of digits and their separators, host names are checked for forbidden characters
before they are written in ASCII, and so are the names of other schemes.
-/

namespace EditorLaunch

namespace Url

/-- Letters among which none begins a query or a fragment. -/
def Unmarked (letters : List Char) : Prop :=
  ∀ letter ∈ letters, endsPath letter = false

instance (letters : List Char) : Decidable (Unmarked letters) :=
  decidable_of_iff (letters.all (!endsPath ·) = true) (by simp [Unmarked])

theorem endsPath_eq_false_iff {letter : Char} :
    endsPath letter = false ↔ letter ≠ '?' ∧ letter ≠ '#' := by
  simp [endsPath]

theorem passes_of_excluded {excluded : Char → Bool} {letter : Char}
    (question : excluded '?' = true) (number : excluded '#' = true)
    (passes : excluded letter = false) : endsPath letter = false := by
  rw [endsPath_eq_false_iff]
  constructor
  · rintro rfl
    exact absurd passes (by simp [question])
  · rintro rfl
    exact absurd passes (by simp [number])

theorem unmarked_nil : Unmarked [] := by
  simp [Unmarked]

theorem unmarked_cons {letter : Char} {letters : List Char} :
    Unmarked (letter :: letters) ↔ endsPath letter = false ∧ Unmarked letters :=
  List.forall_mem_cons

theorem unmarked_append {before behind : List Char} :
    Unmarked (before ++ behind) ↔ Unmarked before ∧ Unmarked behind :=
  List.forall_mem_append

theorem Unmarked.subset {letters others : List Char} (unmarked : Unmarked letters)
    (subset : others ⊆ letters) : Unmarked others :=
  fun letter member => unmarked letter (subset member)

/-- Escapes hold no marks, and neither does what was written without them. -/
theorem unmarked_encode {mustEscape : Char → Bool} {letters : List Char}
    (bare : ∀ letter ∈ letters, mustEscape letter = false → endsPath letter = false) :
    Unmarked (Percent.encode mustEscape letters) := by
  intro letter member
  rcases Percent.isEscaping_or_bare_of_mem_encode member with escaping | ⟨original, isBare⟩
  · exact endsPath_eq_false_iff.mpr escaping.ne_sign
  · exact bare letter original isBare

section

variable {holds : Char → Prop}

theorem exists_digitChar_of_mem_toDigits {base number : Nat} {letter : Char}
    (above : 1 < base) (member : letter ∈ Nat.toDigits base number) :
    ∃ digit < base, letter = Nat.digitChar digit := by
  induction number using Nat.strongRecOn with
  | ind number ih =>
      rcases Nat.lt_or_ge number base with small | large
      · rw [Nat.toDigits_of_lt_base small, List.mem_singleton] at member
        exact ⟨number, small, member⟩
      · rw [Nat.toDigits_of_base_le above large, List.mem_append, List.mem_singleton]
          at member
        rcases member with inHigher | rfl
        · exact ih (number / base) (Nat.div_lt_self (by omega) above) inHigher
        · exact ⟨number % base, Nat.mod_lt _ (by omega), rfl⟩

theorem forall_mem_toDigits {base : Nat} (above : 1 < base)
    (digits : ∀ digit < base, holds (Nat.digitChar digit)) (number : Nat) :
    ∀ letter ∈ Nat.toDigits base number, holds letter := by
  intro letter member
  obtain ⟨digit, isDigit, rfl⟩ := exists_digitChar_of_mem_toDigits above member
  exact digits digit isDigit

/-- A short address is written with digits and points. -/
theorem forall_mem_shortText (digits : ∀ digit < 10, holds (Nat.digitChar digit))
    (point : holds '.') (address : IpV4) : ∀ letter ∈ address.text.toList, holds letter := by
  have octet (number : Nat) : ∀ letter ∈ (toString number).toList, holds letter := by
    rw [Nat.toString_eq_ofList_toDigits, String.toList_ofList]
    exact forall_mem_toDigits (by omega) digits number
  have sign : ∀ letter ∈ ".".toList, holds letter := List.forall_mem_singleton.mpr point
  simp only [IpV4.text, String.toList_append, List.forall_mem_append]
  exact ⟨⟨⟨⟨⟨⟨octet _, sign⟩, octet _⟩, sign⟩, octet _⟩, sign⟩, octet _⟩

/-- A long address is written with digits and colons. -/
theorem forall_mem_longText (digits : ∀ digit < 16, holds (Nat.digitChar digit))
    (colon : holds ':') (address : IpV6) : ∀ letter ∈ address.text.toList, holds letter := by
  have joined (groups : List UInt16) : ∀ letter ∈ IpV6.joinGroups groups, holds letter := by
    intro letter member
    rcases mem_of_mem_intercalate member with rfl | ⟨piece, inPieces, inPiece⟩
    · exact colon
    · obtain ⟨group, -, rfl⟩ := List.mem_map.mp inPieces
      exact forall_mem_toDigits (by omega) digits _ letter inPiece
  rw [IpV6.text, String.toList_ofList]
  split
  · exact joined _
  · rw [List.forall_mem_append, List.forall_mem_cons, List.forall_mem_cons]
    exact ⟨joined _, colon, colon, joined _⟩

end

theorem unmarked_toDigits (number : Nat) : Unmarked (Nat.toDigits 10 number) :=
  forall_mem_toDigits (by omega) (by decide) number

/-- A letter that names of hosts may hold in ASCII. -/
def IsHostLetter (letter : Char) : Prop :=
  letter.toNat < 0x80 ∧ DomainName.isForbidden letter = false

instance (letter : Char) : Decidable (IsHostLetter letter) :=
  inferInstanceAs (Decidable (_ ∧ _))

/-- Letters of which all may stand in the name of a host. -/
def HostLetters (letters : List Char) : Prop :=
  ∀ letter ∈ letters, IsHostLetter letter

instance (letters : List Char) : Decidable (HostLetters letters) :=
  decidable_of_iff (letters.all (decide <| IsHostLetter ·) = true) (by simp [HostLetters])

theorem hostLetters_append {before behind : List Char} :
    HostLetters (before ++ behind) ↔ HostLetters before ∧ HostLetters behind :=
  List.forall_mem_append

theorem HostLetters.unmarked {letters : List Char} (hostLetters : HostLetters letters) :
    Unmarked letters := fun letter member =>
  passes_of_excluded (by decide) (by decide) (hostLetters letter member).2

theorem isHostLetter_digitChar {value : Nat} (isDigit : value < Punycode.base) :
    IsHostLetter (Punycode.digitChar value) := by
  unfold Punycode.base at isDigit
  revert value
  decide

theorem hostLetters_writeNumber (bias position value : Nat) :
    HostLetters (Punycode.writeNumber bias position value) := by
  have fewer (position : Nat) : Punycode.threshold bias position < Punycode.base := by
    unfold Punycode.threshold Punycode.base
    omega
  fun_induction Punycode.writeNumber bias position value with
  | case1 position value below =>
      have small : value < Punycode.base := Nat.lt_trans below (fewer position)
      exact List.forall_mem_singleton.mpr (isHostLetter_digitChar small)
  | case2 position value notBelow above weight ih =>
      have positive : 0 < weight := Nat.sub_pos_of_lt (fewer position)
      have digit : above % weight < weight := Nat.mod_lt _ positive
      refine List.forall_mem_cons.mpr ⟨isHostLetter_digitChar ?_, ih⟩
      have := fewer position
      omega

theorem hostLetters_pass {basicCount : Nat} {state : Punycode.EncoderState} {current : Nat}
    (written : HostLetters state.written) :
    HostLetters (Punycode.pass basicCount state current).written := by
  unfold Punycode.pass
  split
  · exact written
  · split
    · exact hostLetters_append.mpr ⟨written, hostLetters_writeNumber _ _ _⟩
    · exact written

theorem hostLetters_writeCode {basicCount : Nat} {codes : List Nat}
    {state : Punycode.EncoderState} {code : Nat} (written : HostLetters state.written) :
    HostLetters (Punycode.writeCode basicCount codes state code).written := by
  have passes (codes : List Nat) (state : Punycode.EncoderState)
      (written : HostLetters state.written) :
      HostLetters (codes.foldl (Punycode.pass basicCount) state).written := by
    induction codes generalizing state with
    | nil => exact written
    | cons current rest ih => exact ih _ (hostLetters_pass written)
  exact passes codes _ written

theorem hostLetters_writeCodes {basicCount : Nat} {codes others : List Nat}
    {state : Punycode.EncoderState} (written : HostLetters state.written) :
    HostLetters (others.foldl (Punycode.writeCode basicCount codes) state).written := by
  induction others generalizing state with
  | nil => exact written
  | cons code rest ih => exact ih (hostLetters_writeCode written)

theorem hostLetters_punycode {label written : List Char}
    (allowed : ∀ letter ∈ label, DomainName.isForbidden letter = false)
    (writes : Punycode.encode? label = some written) : HostLetters written := by
  unfold Punycode.encode? at writes
  split at writes
  · cases writes
  · obtain rfl := Option.some.inj writes
    refine hostLetters_writeCodes ?_
    have basic : HostLetters (label.filter (·.toNat < Punycode.firstCode)) := by
      intro letter member
      obtain ⟨inLabel, ascii⟩ := List.mem_filter.mp member
      exact ⟨of_decide_eq_true ascii, allowed letter inLabel⟩
    split
    · exact List.forall_mem_nil _
    · exact hostLetters_append.mpr ⟨basic, by decide⟩

theorem hostLetters_writeLabel? {label written : List Char}
    (allowed : DomainName.isAllowed label = true)
    (writes : DomainName.writeLabel? label = some written) : HostLetters written := by
  simp only [DomainName.isAllowed, Bool.and_eq_true, List.all_eq_true,
    Bool.not_eq_true'] at allowed
  unfold DomainName.writeLabel? at writes
  split at writes
  · rename_i ascii
    obtain rfl := Option.some.inj writes
    simp only [DomainName.isAscii, List.all_eq_true, decide_eq_true_eq] at ascii
    exact fun letter member => ⟨ascii letter member, allowed.1 letter member⟩
  · obtain ⟨code, codeEq, rfl⟩ := Option.map_eq_some_iff.mp writes
    exact hostLetters_append.mpr ⟨by decide, hostLetters_punycode allowed.1 codeEq⟩

theorem hostLetters_toAscii? {name written : List Char}
    (writes : DomainName.toAscii? name = some written) : HostLetters written := by
  unfold DomainName.toAscii? at writes
  split at writes
  · cases writes
  · simp only [Option.bind_eq_bind, Option.bind_eq_some_iff] at writes
    obtain ⟨mapped, -, labels, -, writes⟩ := writes
    split at writes
    · rename_i allowed
      simp only [Option.bind_eq_some_iff, Option.pure_def, Option.some.injEq] at writes
      obtain ⟨pieces, piecesEq, rfl⟩ := writes
      simp only [Bool.and_eq_true, List.all_eq_true] at allowed
      intro letter member
      rcases mem_of_mem_intercalate member with rfl | ⟨piece, inPieces, inPiece⟩
      · decide
      · obtain ⟨label, inLabels, pieceEq⟩ := exists_of_mem_of_mapM_eq_some piecesEq inPieces
        exact hostLetters_writeLabel? (allowed.1 label inLabels) pieceEq letter inPiece
    · cases writes

/-- A host of a common scheme as it is read: a name that is not empty and can be written in
ASCII, or a numeric address. -/
def IsWritten : Host → Prop
  | .name letters => letters ≠ [] ∧ HostLetters letters
  | .short _ => True
  | .long _ => True

theorem isWritten_readCommon {letters : List Char} {host : Host}
    (reads : Host.readCommon letters = .ok host) : IsWritten host := by
  unfold Host.readCommon at reads
  split at reads
  · unfold Host.readBracketed at reads
    split at reads
    · split at reads
      · obtain rfl := Except.ok.inj reads
        trivial
      · cases reads
    · cases reads
  · split at reads
    · cases reads
    · cases reads
    · rename_i domain filled domainEq
      split at reads
      · unfold Host.readShort at reads
        dsimp only at reads
        split at reads
        · split at reads
          · cases reads
          · obtain rfl := Except.ok.inj reads
            trivial
        · cases reads
      · obtain rfl := Except.ok.inj reads
        obtain ⟨name, -, writes⟩ := Option.bind_eq_some_iff.mp domainEq
        refine ⟨?_, hostLetters_toAscii? writes⟩
        rintro rfl
        exact filled rfl

theorem unmarked_long (address : IpV6) : Unmarked (Host.long address).letters := by
  rw [Host.letters, unmarked_append, unmarked_cons]
  exact ⟨⟨by decide, forall_mem_longText (by decide) (by decide) address⟩, by decide⟩

theorem IsWritten.unmarked {host : Host} (written : IsWritten host) :
    Unmarked host.letters := by
  cases host with
  | name letters => exact written.2.unmarked
  | short address => exact forall_mem_shortText (by decide) (by decide) address
  | long address => exact unmarked_long address

theorem unmarked_readCommon {letters : List Char} {host : Host}
    (reads : Host.readCommon letters = .ok host) : Unmarked host.letters :=
  (isWritten_readCommon reads).unmarked

theorem unmarked_readOther {letters : List Char} {host : Host}
    (reads : Host.readOther letters = .ok host) : Unmarked host.letters := by
  unfold Host.readOther at reads
  split at reads
  · unfold Host.readBracketed at reads
    split at reads
    · split at reads
      · obtain rfl := Except.ok.inj reads
        exact unmarked_long _
      · cases reads
    · cases reads
  · split at reads
    · cases reads
    · rename_i allowed
      obtain rfl := Except.ok.inj reads
      refine unmarked_encode ?_
      intro letter member _
      simp only [List.any_eq_true, not_exists, not_and, Bool.not_eq_true] at allowed
      exact passes_of_excluded (by decide) (by decide) (allowed letter member)

end Url

end EditorLaunch
