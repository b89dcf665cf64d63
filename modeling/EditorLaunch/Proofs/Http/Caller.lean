import EditorLaunch.Proofs.Http.Identity

/-!
# What is known of a caller

Everything that is known of a caller comes from the first values of three headers, and only
as a clean text: printable, with something in it and without blanks around it.  A later
value of a header is never looked at, not even when the first one is of no use, and each
text comes from its own header, except that the identifier stands in for a missing name.
-/

namespace EditorLaunch

namespace Http

variable {headers others : Headers} {auth : AuthSettings} {name content : String}

/-- A character of visible text: a printable one of ASCII or a tab. -/
def IsTextCharacter (character : Char) : Prop :=
  0x20 ≤ character.toNat ∧ character.toNat ≤ 0x7E ∨ character = '\t'

/-- A text with something in it, without blanks around it, that is visible throughout. -/
structure IsClean (content : String) : Prop where
  filled : content ≠ ""
  begins : ∀ first ∈ content.toList.head?, isBlank first = false
  ends : ∀ last ∈ content.toList.getLast?, isBlank last = false
  visible : ∀ character ∈ content.toList, IsTextCharacter character

theorem isTextCharacter_ofNat {octet : UInt8} (text : IsText octet) :
    IsTextCharacter (Char.ofNat octet.toNat) := by
  have checked : ∀ value < 256, isVisible (.ofNat value) = true →
      IsTextCharacter (Char.ofNat value) := by
    unfold IsTextCharacter
    decide +kernel
  refine checked octet.toNat octet.toNat_lt ?_
  rwa [UInt8.ofNat_toNat, isVisible_iff]

theorem isClean_of_carries (carries : headers.Carries name content) : IsClean content := by
  obtain ⟨value, -, text, rfl, filled⟩ := carries
  rw [trimmed, String.toList_ofList] at filled ⊢
  refine ⟨filled, ?_, ?_, ?_⟩
  all_goals rw [String.toList_ofList]
  · exact fun first => isBlank_of_mem_head?_trimBlanks
  · exact fun last => isBlank_of_mem_getLast?_trimBlanks
  · intro character member
    obtain ⟨octet, inValue, rfl⟩ :=
      List.mem_map.mp ((isInfix_trimBlanks _).subset member)
    exact isTextCharacter_ofNat (text octet inValue)

/-- A later value of a name is not looked at, whatever the first one is. -/
theorem Headers.first?_of_repeated {before behind : Headers} {later : Header}
    (earlier : ∃ header ∈ before, foldName header.name = foldName later.name) :
    (before ++ later :: behind).first? name = Headers.first? (before ++ behind) name := by
  unfold first?
  rw [List.find?_append, List.find?_append]
  by_cases named : foldName later.name = foldName name
  · obtain ⟨header, member, same⟩ := earlier
    have found : (before.find? fun header => foldName header.name == foldName name).isSome := by
      rw [List.find?_isSome]
      exact ⟨header, member, by rw [same, named, beq_self_eq_true]⟩
    obtain ⟨first, firstEq⟩ := Option.isSome_iff_exists.mp found
    rw [firstEq, Option.some_or, Option.some_or]
  · rw [List.find?_cons_of_neg (by simpa using named)]

theorem Headers.text?_congr (agree : headers.first? name = others.first? name) :
    headers.text? name = others.text? name := by
  rw [text?, agree, text?]

theorem callerOf_congr (userId : headers.first? auth.userIdHeader = others.first? auth.userIdHeader)
    (displayName : headers.first? auth.displayNameHeader = others.first? auth.displayNameHeader)
    (token : headers.first? auth.tokenHeader = others.first? auth.tokenHeader) :
    callerOf headers auth = callerOf others auth := by
  rw [callerOf, Headers.text?_congr userId, Headers.text?_congr displayName,
    Headers.text?_congr token, callerOf]

theorem userId_callerOf_congr
    (agree : headers.first? auth.userIdHeader = others.first? auth.userIdHeader) :
    (callerOf headers auth).map (·.principal.userId) =
      (callerOf others auth).map (·.principal.userId) := by
  rw [callerOf, Headers.text?_congr agree, callerOf]
  cases others.text? auth.userIdHeader with
  | none => rfl
  | some userId => rfl

/-- What headers tell about a caller. -/
structure Describes (headers : Headers) (auth : AuthSettings) (caller : Caller) : Prop where
  userId : headers.Carries auth.userIdHeader caller.principal.userId
  displayName : headers.Carries auth.displayNameHeader caller.principal.displayName ∨
    ¬ headers.HasText auth.displayNameHeader ∧
      caller.principal.displayName = caller.principal.userId
  token : ∀ token, caller.forwardedToken? = some token ↔ headers.Carries auth.tokenHeader token

variable {caller other : Caller}

theorem describes_of_callerOf (known : callerOf headers auth = .ok caller) :
    Describes headers auth caller := by
  have identifies := identifies_of_callerOf known
  refine ⟨identifies.userId, ?_, fun token => ?_⟩
  · rw [Headers.hasText_iff_exists_carries, not_exists]
    exact identifies.displayName
  · rw [forwardedToken?_of_callerOf known, Headers.text?_eq_some_iff]

namespace Describes

theorem isClean_displayName (describes : Describes headers auth caller) :
    IsClean caller.principal.displayName := by
  rcases describes.displayName with carries | ⟨-, same⟩
  · exact isClean_of_carries carries
  · exact same ▸ isClean_of_carries describes.userId

theorem displayName_eq (describes : Describes headers auth caller)
    (describesOther : Describes others auth other)
    (agree : headers.first? auth.displayNameHeader = others.first? auth.displayNameHeader)
    (settled : headers.HasText auth.displayNameHeader ∨
      caller.principal.userId = other.principal.userId) :
    caller.principal.displayName = other.principal.displayName := by
  have alike {text : String} : headers.Carries auth.displayNameHeader text ↔
      others.Carries auth.displayNameHeader text := by
    rw [Headers.Carries, agree, Headers.Carries]
  rcases describes.displayName with carries | ⟨missing, same⟩
  · rcases describesOther.displayName with carriesOther | ⟨missing, -⟩
    · have found := Headers.text?_eq_some_iff.mpr (alike.mp carries)
      exact Option.some.inj (found.symm.trans (Headers.text?_eq_some_iff.mpr carriesOther))
    · exact absurd (Headers.hasText_iff_exists_carries.mpr ⟨_, alike.mp carries⟩) missing
  · rcases describesOther.displayName with carriesOther | ⟨-, sameOther⟩
    · exact absurd (Headers.hasText_iff_exists_carries.mpr ⟨_, alike.mpr carriesOther⟩) missing
    · rw [same, sameOther]
      exact settled.resolve_left missing

theorem forwardedToken?_eq (describes : Describes headers auth caller)
    (describesOther : Describes others auth other)
    (agree : headers.first? auth.tokenHeader = others.first? auth.tokenHeader) :
    caller.forwardedToken? = other.forwardedToken? := by
  apply Option.ext
  intro token
  rw [describes.token, describesOther.token, Headers.Carries, agree, Headers.Carries]

end Describes

/-- A caller is known exactly if the first value of one header is visible and not blank.
Then all that is known are clean texts, each the trimmed first value of its own header, but
for the identifier in place of a missing name.  Nothing else in the headers matters: they
may differ in anything but the first value that a text comes from, and in particular in
all later values of a header. -/
theorem callerOf_takes_clean_first_values (headers : Headers) (auth : AuthSettings) :
    ((∃ caller, callerOf headers auth = .ok caller) ↔ headers.HasText auth.userIdHeader) ∧
    (∀ caller, callerOf headers auth = .ok caller → Describes headers auth caller ∧
      IsClean caller.principal.userId ∧ IsClean caller.principal.displayName ∧
      ∀ token ∈ caller.forwardedToken?, IsClean token) ∧
    (∀ others : Headers,
      headers.first? auth.userIdHeader = others.first? auth.userIdHeader →
        (callerOf headers auth).map (·.principal.userId) =
          (callerOf others auth).map (·.principal.userId)) ∧
    (∀ others caller other, callerOf headers auth = .ok caller →
      callerOf others auth = .ok other →
      (headers.first? auth.displayNameHeader = others.first? auth.displayNameHeader →
        headers.HasText auth.displayNameHeader ∨
          caller.principal.userId = other.principal.userId →
        caller.principal.displayName = other.principal.displayName) ∧
      (headers.first? auth.tokenHeader = others.first? auth.tokenHeader →
        caller.forwardedToken? = other.forwardedToken?)) ∧
    ∀ before later behind, headers = before ++ later :: behind →
      (∃ header ∈ before, foldName header.name = foldName later.name) →
      callerOf headers auth = callerOf (before ++ behind) auth := by
  refine ⟨⟨fun ⟨caller, known⟩ => ?_, exists_callerOf⟩, fun caller known => ?_,
    fun others => userId_callerOf_congr, fun others caller other known knownOther => ?_,
    fun before later behind divided earlier => ?_⟩
  · exact Headers.hasText_iff_exists_carries.mpr ⟨_, (describes_of_callerOf known).userId⟩
  · have describes := describes_of_callerOf known
    exact ⟨describes, isClean_of_carries describes.userId, describes.isClean_displayName,
      fun token found => isClean_of_carries ((describes.token token).mp found)⟩
  · have describes := describes_of_callerOf known
    have describesOther := describes_of_callerOf knownOther
    exact ⟨describes.displayName_eq describesOther, describes.forwardedToken?_eq describesOther⟩
  · subst divided
    exact callerOf_congr (Headers.first?_of_repeated earlier) (Headers.first?_of_repeated earlier)
      (Headers.first?_of_repeated earlier)

end Http

end EditorLaunch
