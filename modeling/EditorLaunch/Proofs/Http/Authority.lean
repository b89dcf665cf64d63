import EditorLaunch.Proofs.Address.Text
import EditorLaunch.Proofs.Http.Target
import EditorLaunch.Proofs.Url.Appending

/-!
# Authorities that requests can carry

Whatever authority is read from an address of a common scheme, a request can carry it
unless its host has one of the four letters that names may have and requests may not.
Its parts are passed one after the other: a user, whose special signs are escaped, up to
the at sign; a host, of which only the long numeric ones have brackets and colons, at
most eight; and a port with one colon more.
-/

namespace EditorLaunch

namespace IpV6

theorem count_joinGroups_le (groups : List UInt16) :
    (joinGroups groups).count ':' ≤ groups.length := by
  have noColon (group : UInt16) : (groupText group).count ':' = 0 :=
    List.count_eq_zero.mpr (sign_notMem_groupText (by decide) group)
  induction groups with
  | nil => exact Nat.le_refl 0
  | cons group rest ih =>
      cases rest with
      | nil =>
          rw [joinGroups, List.map_singleton, List.intercalate_singleton, noColon]
          exact Nat.zero_le _
      | cons next others =>
          rw [joinGroups_cons_cons, List.count_append, List.count_cons_self, noColon,
            List.length_cons]
          omega

theorem count_text_le (address : IpV6) : address.text.toList.count ':' ≤ 8 := by
  have complete := address.complete
  rcases toList_text_cases address with written | ⟨run, -, long, within, written⟩
  · rw [written]
    exact complete ▸ count_joinGroups_le _
  · have before := count_joinGroups_le (address.groups.take run.start)
    have behind := count_joinGroups_le (address.groups.drop (run.start + run.length))
    rw [List.length_take] at before
    rw [List.length_drop] at behind
    rw [written, List.count_append, List.count_cons_self, List.count_cons_self]
    omega

end IpV6

/-- The letters that the name of a host may have, but no request can carry: a quotation
mark, a backtick and the braces. -/
def strayLetters : List Char := "\"\x60\x7b\x7d".toList

/-- A host without such letters. -/
def Host.FitsRequest (host : Host) : Prop :=
  ∀ letter ∈ host.letters, letter ∉ strayLetters

instance (host : Host) : Decidable host.FitsRequest :=
  decidable_of_iff (host.letters.all fun letter => !strayLetters.contains letter)
    (by simp [Host.FitsRequest])

namespace Http.Target

/-- A letter without a meaning in an authority. -/
def IsPlainLetter (letter : Char) : Prop :=
  fitsAuthority letter = true ∧ letter ∉ [':', '[', ']', '@', '%']

instance (letter : Char) : Decidable (IsPlainLetter letter) :=
  inferInstanceAs (Decidable (_ ∧ _))

theorem passAuthority_plain {letter : Char} (plain : IsPlainLetter letter)
    (sight : AuthoritySight) : passAuthority sight letter = some sight := by
  obtain ⟨fits, noSign⟩ := plain
  simp only [List.mem_cons, List.not_mem_nil, or_false, not_or] at noSign
  simp [passAuthority, fits, noSign]

theorem isPlainLetter_of_isHostLetter {letter : Char} (hostLetter : Url.IsHostLetter letter)
    (fits : letter ∉ strayLetters) : IsPlainLetter letter :=
  holds_of_codes
    (fun letter => Url.IsHostLetter letter → letter ∉ strayLetters → IsPlainLetter letter)
    (by decide) hostLetter.1 hostLetter fits

theorem isPlainLetter_digitChar {digit : Nat} (isDigit : digit < 16) :
    IsPlainLetter (Nat.digitChar digit) := by
  revert digit
  decide

/-- Letters of which some may be colons: each is counted. -/
theorem foldlM_colons {letters : List Char} (sight : AuthoritySight)
    (plain : ∀ letter ∈ letters, letter = ':' ∨ IsPlainLetter letter)
    (few : sight.colons + letters.count ':' ≤ 8) :
    letters.foldlM passAuthority sight =
      some { sight with colons := sight.colons + letters.count ':' } := by
  induction letters generalizing sight with
  | nil => rfl
  | cons letter rest ih =>
      obtain ⟨isPlain, restPlain⟩ := List.forall_mem_cons.mp plain
      rw [List.foldlM_cons]
      rcases isPlain with rfl | isPlain
      · rw [List.count_cons_self] at few ⊢
        have room : ¬ 8 ≤ sight.colons := by omega
        have passed : passAuthority sight ':' =
            some { sight with colons := sight.colons + 1 } := by
          simp [passAuthority, room, show fitsAuthority ':' = true by decide]
        rw [passed]
        refine (ih _ restPlain (by dsimp only; omega)).trans ?_
        simp only [Nat.add_assoc, Nat.add_comm 1]
      · have noColon : letter ≠ ':' := by
          rintro rfl
          exact absurd isPlain (by decide)
        rw [List.count_cons_of_ne noColon] at few ⊢
        rw [passAuthority_plain isPlain]
        exact ih _ restPlain few

theorem foldlM_plain {letters : List Char} (plain : ∀ letter ∈ letters, IsPlainLetter letter)
    (sight : AuthoritySight) : letters.foldlM passAuthority sight = some sight := by
  induction letters with
  | nil => rfl
  | cons letter rest ih =>
      obtain ⟨isPlain, restPlain⟩ := List.forall_mem_cons.mp plain
      rw [List.foldlM_cons, passAuthority_plain isPlain]
      exact ih restPlain

/-- A letter of a user: it may begin an escape. -/
def IsUserLetter (letter : Char) : Prop :=
  letter = '%' ∨ IsPlainLetter letter

instance (letter : Char) : Decidable (IsUserLetter letter) :=
  inferInstanceAs (Decidable (_ ∨ _))

theorem isUserLetter_of_mem_encode {letters : List Char} {letter : Char}
    (member : letter ∈ Percent.encode Percent.escapedInUserinfo letters) :
    IsUserLetter letter := by
  obtain ⟨original, -, inChar⟩ := List.mem_flatMap.mp member
  unfold Percent.encodeChar at inChar
  split at inChar
  · rcases Percent.isEscaping_of_mem_escapes inChar with rfl | ⟨value, isDigit, rfl⟩
    · exact .inl rfl
    · clear inChar member
      revert value
      decide
  · rename_i bare
    obtain rfl := List.mem_singleton.mp inChar
    rw [Bool.or_eq_true, decide_eq_true_eq, not_or, Bool.not_eq_true] at bare
    have ascii : letter.toNat < 0x80 := Nat.not_le.mp bare.1
    exact holds_of_codes (fun letter => Percent.escapedInUserinfo letter = false →
      IsUserLetter letter) (by decide) ascii bare.2

theorem foldlM_user {letters : List Char} (user : ∀ letter ∈ letters, IsUserLetter letter)
    (sight : AuthoritySight) :
    ∃ percent, letters.foldlM passAuthority sight = some { sight with percent } := by
  induction letters generalizing sight with
  | nil => exact ⟨sight.percent, rfl⟩
  | cons letter rest ih =>
      obtain ⟨isUser, restUser⟩ := List.forall_mem_cons.mp user
      rw [List.foldlM_cons]
      rcases isUser with rfl | isPlain
      · exact ih restUser _
      · rw [passAuthority_plain isPlain]
        exact ih restUser _

end Http.Target

/-- An authority as it is read: the user is written with escapes, and the host as hosts of
common schemes are. -/
structure Authority.IsWritten (authority : Authority) : Prop where
  username : ∃ name, authority.username = Percent.encode Percent.escapedInUserinfo name
  password : ∃ word, authority.password = Percent.encode Percent.escapedInUserinfo word
  host : Url.IsWritten authority.host

namespace Http.Target

variable {authority : Authority}

/-- The sight at the start of an authority. -/
def unseen : AuthoritySight := ⟨0, false, false, false⟩

/-- Behind its sign nothing is left of a user. -/
theorem foldlM_userLetters (written : authority.IsWritten) :
    authority.userLetters.foldlM passAuthority unseen = some unseen := by
  obtain ⟨name, usernameEq⟩ := written.username
  obtain ⟨word, passwordEq⟩ := written.password
  have username : ∀ letter ∈ authority.username, IsUserLetter letter := by
    rw [usernameEq]
    exact fun letter => isUserLetter_of_mem_encode
  have password : ∀ letter ∈ authority.password, IsUserLetter letter := by
    rw [passwordEq]
    exact fun letter => isUserLetter_of_mem_encode
  have signed (sight : AuthoritySight) : ['@'].foldlM passAuthority sight =
      some { sight with colons := 0, percent := false } := rfl
  obtain ⟨percent, passed⟩ := foldlM_user username unseen
  unfold Authority.userLetters
  split
  · rfl
  · split
    · rw [List.foldlM_append, passed]
      exact signed _
    · rw [List.append_assoc, List.foldlM_append, passed]
      obtain ⟨other, passedToo⟩ := foldlM_user password { unseen with percent, colons := 1 }
      change (authority.password ++ ['@']).foldlM passAuthority
        { unseen with percent, colons := 1 } = some unseen
      rw [List.foldlM_append, passedToo]
      exact signed _

theorem plain_shortText (address : IpV4) :
    ∀ letter ∈ address.text.toList, IsPlainLetter letter :=
  Url.forall_mem_shortText (fun _ isDigit => isPlainLetter_digitChar (by omega)) (by decide)
    address

theorem plain_longText (address : IpV6) :
    ∀ letter ∈ address.text.toList, letter = ':' ∨ IsPlainLetter letter :=
  Url.forall_mem_longText (fun _ isDigit => .inr (isPlainLetter_digitChar isDigit)) (.inl rfl)
    address

theorem plain_portDigits (port : UInt16) :
    ∀ letter ∈ Nat.toDigits 10 port.toNat, IsPlainLetter letter :=
  Url.forall_mem_toDigits (by omega) (fun _ isDigit => isPlainLetter_digitChar (by omega)) _

/-- Behind a host its brackets are closed and its colons are forgotten. -/
theorem foldlM_host {host : Host} (written : Url.IsWritten host) (fits : host.FitsRequest) :
    ∃ long, host.letters.foldlM passAuthority unseen = some ⟨0, long, long, false⟩ := by
  cases host with
  | name letters =>
      have plain (letter : Char) (member : letter ∈ letters) : IsPlainLetter letter :=
        isPlainLetter_of_isHostLetter (written.2 letter member) (fits letter member)
      exact ⟨false, foldlM_plain plain unseen⟩
  | short address => exact ⟨false, foldlM_plain (plain_shortText address) unseen⟩
  | long address =>
      have few := IpV6.count_text_le address
      have inside := foldlM_colons ⟨0, true, false, false⟩ (plain_longText address)
        (by simpa using few)
      refine ⟨true, ?_⟩
      change (address.text.toList ++ [']']).foldlM passAuthority ⟨0, true, false, false⟩ = _
      rw [List.foldlM_append, inside]
      rfl

theorem plain_portLetters (authority : Authority) :
    ∀ letter ∈ authority.portLetters, letter = ':' ∨ IsPlainLetter letter := by
  unfold Authority.portLetters
  split
  · rw [List.forall_mem_cons]
    exact ⟨.inl rfl, fun letter member => .inr (plain_portDigits _ letter member)⟩
  · exact List.forall_mem_nil _

theorem foldlM_portLetters (authority : Authority) (long : Bool) :
    ∃ colons ≤ 1, authority.portLetters.foldlM passAuthority ⟨0, long, long, false⟩ =
      some ⟨colons, long, long, false⟩ := by
  unfold Authority.portLetters
  split
  · exact ⟨1, Nat.le_refl 1, foldlM_plain (plain_portDigits _) ⟨1, long, long, false⟩⟩
  · exact ⟨0, Nat.zero_le 1, rfl⟩

theorem letters_ne_nil {host : Host} (written : Url.IsWritten host) : host.letters ≠ [] := by
  cases host with
  | name letters => exact written.1
  | short address => simp [Host.letters, IpV4.text]
  | long address => simp [Host.letters]

theorem signAt_not_mem {letters : List Char}
    (plain : ∀ letter ∈ letters, letter = ':' ∨ IsPlainLetter letter) : '@' ∉ letters :=
  fun member => absurd (plain '@' member) (by decide)

theorem signAt_not_mem_host {host : Host} (written : Url.IsWritten host) :
    '@' ∉ host.letters := by
  cases host with
  | name letters => exact fun member => absurd (written.2 '@' member) (by decide)
  | short address =>
      exact signAt_not_mem fun letter member => .inr (plain_shortText address letter member)
  | long address =>
      have inside := signAt_not_mem (plain_longText address)
      simpa [Host.letters] using inside

theorem fitsAuthority_of_foldlM {letters : List Char} {sight behind : AuthoritySight}
    (passed : letters.foldlM passAuthority sight = some behind) :
    ∀ letter ∈ letters, fitsAuthority letter = true := by
  induction letters generalizing sight with
  | nil => exact List.forall_mem_nil _
  | cons letter rest ih =>
      rw [List.foldlM_cons, Option.bind_eq_bind, Option.bind_eq_some_iff] at passed
      obtain ⟨next, first, later⟩ := passed
      refine List.forall_mem_cons.mpr ⟨?_, ih later⟩
      by_contra unfit
      simp [passAuthority, unfit] at first

theorem endsAuthority_of_fits {letter : Char} (fits : fitsAuthority letter = true) :
    endsAuthority letter = false := by
  by_contra ends
  simp only [endsAuthority, Bool.or_eq_true, beq_iff_eq, Bool.not_eq_false] at ends
  rcases ends with (rfl | rfl) | rfl <;> exact absurd fits (by decide)

/-- No letter of a host ends its authority, even if no request can carry it. -/
theorem endsAuthority_of_mem_host {host : Host} (written : Url.IsWritten host) :
    ∀ letter ∈ host.letters, endsAuthority letter = false := by
  have plainColons {letter : Char} (plain : letter = ':' ∨ IsPlainLetter letter) :
      endsAuthority letter = false := by
    rcases plain with rfl | isPlain
    · rfl
    · exact endsAuthority_of_fits isPlain.1
  cases host with
  | name letters =>
      intro letter member
      have hostLetter := written.2 letter member
      exact holds_of_codes
        (fun letter => Url.IsHostLetter letter → endsAuthority letter = false) (by decide)
        hostLetter.1 hostLetter
  | short address =>
      exact fun letter member => plainColons (.inr (plain_shortText address letter member))
  | long address =>
      have inside (letter : Char) (member : letter ∈ address.text.toList) :
          endsAuthority letter = false := plainColons (plain_longText address letter member)
      rw [Host.letters, List.forall_mem_append, List.forall_mem_cons]
      exact ⟨⟨rfl, inside⟩, List.forall_mem_singleton.mpr rfl⟩

theorem endsAuthority_of_mem_letters (written : authority.IsWritten) :
    ∀ letter ∈ authority.letters, endsAuthority letter = false := by
  have user := fitsAuthority_of_foldlM (foldlM_userLetters written)
  obtain ⟨colons, -, portPassed⟩ := foldlM_portLetters authority false
  have port := fitsAuthority_of_foldlM portPassed
  rw [Authority.letters, List.forall_mem_append, List.forall_mem_append]
  exact ⟨⟨fun letter member => endsAuthority_of_fits (user letter member),
    endsAuthority_of_mem_host written.host⟩,
    fun letter member => endsAuthority_of_fits (port letter member)⟩

theorem isAuthority_letters (written : authority.IsWritten)
    (fits : authority.host.FitsRequest) : isAuthority authority.letters = true := by
  obtain ⟨long, hostPassed⟩ := foldlM_host written.host fits
  obtain ⟨colons, atMostOne, portPassed⟩ := foldlM_portLetters authority long
  have passed : authority.letters.foldlM passAuthority unseen =
      some ⟨colons, long, long, false⟩ := by
    rw [Authority.letters, List.foldlM_append, List.foldlM_append, foldlM_userLetters written]
    simp only [Option.bind_eq_bind, Option.bind_some, hostPassed, portPassed]
  have hasHost : authority.host.letters ++ authority.portLetters ≠ [] :=
    List.append_ne_nil_of_left_ne_nil (letters_ne_nil written.host) _
  have lastLetter : authority.letters.getLast? ≠ some '@' := by
    rw [Authority.letters, List.append_assoc, List.getLast?_append_of_ne_nil _ hasHost]
    intro last
    rcases List.mem_append.mp (List.mem_of_getLast? last) with inHost | inPort
    · exact signAt_not_mem_host written.host inHost
    · exact signAt_not_mem (plain_portLetters authority) inPort
  rw [isAuthority, ← unseen, passed]
  simp [atMostOne, lastLetter]

theorem fitsRequest_of_isAuthority (carried : isAuthority authority.letters = true) :
    authority.host.FitsRequest := by
  have fits : ∀ letter ∈ authority.letters, fitsAuthority letter = true := by
    unfold isAuthority at carried
    split at carried
    · cases carried
    · rename_i sight passed
      exact fitsAuthority_of_foldlM passed
  intro letter member stray
  have inLetters : letter ∈ authority.letters :=
    List.mem_append_left _ (List.mem_append_right _ member)
  have noneFit : strayLetters.all (!fitsAuthority ·) = true := by decide
  have unfit := List.all_eq_true.mp noneFit letter stray
  rw [fits letter inLetters] at unfit
  cases unfit

/-- An authority that was read can be carried exactly if its host can. -/
theorem fitsAuthority_letters_iff (written : authority.IsWritten) :
    FitsAuthority authority.letters ↔ authority.host.FitsRequest := by
  have noEnd : ∀ letter ∈ authority.letters, (!endsAuthority letter) = true := by
    intro letter member
    rw [endsAuthority_of_mem_letters written letter member]
    rfl
  have whole := List.takeWhile_eq_self_iff.mpr noEnd
  constructor
  · rintro ⟨carried, -, -⟩
    rw [whole] at carried
    exact fitsRequest_of_isAuthority carried
  · intro fits
    refine ⟨?_, ?_, ?_⟩
    · rw [whole]
      exact isAuthority_letters written fits
    · rw [whole, Authority.letters]
      exact List.append_ne_nil_of_left_ne_nil
        (List.append_ne_nil_of_right_ne_nil _ (letters_ne_nil written.host)) _
    · rw [List.dropWhile_eq_nil_iff.mpr noEnd]
      exact List.forall_mem_nil _

end Http.Target

namespace Url

theorem isWritten_readAuthority {scheme letters rest : List Char} {authority : Authority}
    (reads : readAuthority scheme .common letters = .ok (authority, rest)) :
    authority.IsWritten := by
  unfold readAuthority at reads
  simp only [bind_eq_ok_iff] at reads
  obtain ⟨⟨⟨username, password⟩, afterUser⟩, user, ⟨⟩, -, host, hostEq, ⟨⟩, -,
    ⟨port, behind⟩, -, ⟨⟩, -, reads⟩ := reads
  obtain ⟨rfl, rfl⟩ := Prod.mk.inj (Except.ok.inj reads)
  obtain ⟨name, word, usernameEq, passwordEq⟩ := exists_pieces_of_splitUser user
  exact ⟨⟨name, usernameEq⟩, ⟨word, passwordEq⟩, isWritten_readCommon hostEq⟩

theorem isWritten_of_parse {content : String} {url : Url} (reads : parse content = .ok url)
    (common : SchemeKind.ofScheme url.scheme = .common) {authority : Authority}
    (authorityEq : url.authority = some authority) : authority.IsWritten := by
  obtain ⟨rest, found, behind, -, foundEq, urlEq⟩ := exists_finish_of_parse reads common
  rw [urlEq] at authorityEq
  obtain rfl := Option.some.inj authorityEq
  exact isWritten_readAuthority foundEq

end Url

theorem Authority.IsWritten.withoutUser {authority : Authority} (written : authority.IsWritten) :
    ({ authority with username := [], password := [] } : Authority).IsWritten :=
  ⟨⟨[], rfl⟩, ⟨[], rfl⟩, written.host⟩

end EditorLaunch
