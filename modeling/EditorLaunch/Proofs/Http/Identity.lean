import EditorLaunch.Http.Identity
import EditorLaunch.Proofs.Readers
import EditorLaunch.Proofs.Unicode.Blank

/-!
# Who is identified

A caller is known exactly if the first value of one header is visible and not
blank.  Later values of that header make no difference, and neither does anything
else in the request.  Who it is depends on two headers and on no others.
-/

namespace EditorLaunch

namespace Http

/-- An octet of visible text: a printable character of ASCII or a tab. -/
def IsText (octet : UInt8) : Prop :=
  0x20 ≤ octet ∧ octet ≤ 0x7E ∨ octet = 0x09

theorem isVisible_iff {octet : UInt8} : isVisible octet = true ↔ IsText octet := by
  simp [isVisible, IsText]

theorem isBlank_ofNat_iff {octet : UInt8} (text : IsText octet) :
    isBlank (Char.ofNat octet.toNat) = true ↔ octet = 0x20 ∨ octet = 0x09 := by
  have checked : ∀ value < 256, isVisible (.ofNat value) = true →
      (isBlank (Char.ofNat value) = true ↔
        UInt8.ofNat value = 0x20 ∨ UInt8.ofNat value = 0x09) := by
    decide +kernel
  have same := checked octet.toNat octet.toNat_lt
  rw [UInt8.ofNat_toNat] at same
  exact same (isVisible_iff.mpr text)

/-- The first value of a name is a text that is not blank. -/
def Headers.HasText (headers : Headers) (name : String) : Prop :=
  ∃ value, headers.first? name = some value ∧ (∀ octet ∈ value, IsText octet) ∧
    ∃ octet ∈ value, octet ≠ 0x20 ∧ octet ≠ 0x09

theorem trimmed_isEmpty_iff {value : List UInt8} (text : ∀ octet ∈ value, IsText octet) :
    (trimmed (String.ofList (value.map fun octet => Char.ofNat octet.toNat))).isEmpty = true ↔
      ∀ octet ∈ value, octet = 0x20 ∨ octet = 0x09 := by
  rw [String.isEmpty_iff, trimmed, String.ofList_eq_empty_iff, String.toList_ofList,
    trimBlanks_eq_nil_iff, List.forall_mem_map]
  constructor
  · intro blank octet member
    exact (isBlank_ofNat_iff (text octet member)).mp (blank octet member)
  · intro blank octet member
    exact (isBlank_ofNat_iff (text octet member)).mpr (blank octet member)

/-- The first value of a name is a text that is not blank, and this is what is left
of it without the blanks around it. -/
def Headers.Carries (headers : Headers) (name content : String) : Prop :=
  ∃ value, headers.first? name = some value ∧ (∀ octet ∈ value, IsText octet) ∧
    content = trimmed (String.ofList (value.map fun octet => Char.ofNat octet.toNat)) ∧
    content ≠ ""

namespace Headers

variable {headers : Headers} {name content : String}

theorem text?_eq_some_iff : headers.text? name = some content ↔ headers.Carries name content := by
  have visible (value : List UInt8) :
      value.all isVisible = true ↔ ∀ octet ∈ value, IsText octet := by
    simp only [List.all_eq_true, isVisible_iff]
  unfold text? Carries visibleText?
  simp only [Option.filter_eq_some_iff, Option.map_eq_some_iff, Option.bind_eq_some_iff,
    Option.ite_none_right_eq_some, visible, Option.some.injEq, Bool.not_eq_true',
    String.isEmpty_eq_false_iff]
  constructor
  · rintro ⟨⟨-, ⟨value, first, text, rfl⟩, rfl⟩, filled⟩
    exact ⟨value, first, text, rfl, filled⟩
  · rintro ⟨value, first, text, rfl, filled⟩
    exact ⟨⟨_, ⟨value, first, text, rfl⟩, rfl⟩, filled⟩

theorem text?_eq_none_iff :
    headers.text? name = none ↔ ∀ content, ¬ headers.Carries name content := by
  simp only [Option.eq_none_iff_forall_ne_some, ne_eq, text?_eq_some_iff]

theorem hasText_iff_exists_carries :
    headers.HasText name ↔ ∃ content, headers.Carries name content := by
  constructor
  · rintro ⟨value, first, text, octet, member, notSpace, notTab⟩
    refine ⟨_, value, first, text, rfl, ?_⟩
    rw [ne_eq, ← String.isEmpty_iff, trimmed_isEmpty_iff text]
    intro blank
    rcases blank octet member with isSpace | isTab
    · exact notSpace isSpace
    · exact notTab isTab
  · rintro ⟨content, value, first, text, rfl, filled⟩
    rw [ne_eq, ← String.isEmpty_iff, trimmed_isEmpty_iff text] at filled
    simp only [not_forall, not_or] at filled
    obtain ⟨octet, member, notSpace, notTab⟩ := filled
    exact ⟨value, first, text, octet, member, notSpace, notTab⟩

theorem isSome_text?_iff :
    (headers.text? name).isSome = true ↔ headers.HasText name := by
  simp only [hasText_iff_exists_carries, Option.isSome_iff_exists, text?_eq_some_iff]

end Headers

/-- The headers without those of a name. -/
def Headers.without (headers : Headers) (name : String) : Headers :=
  headers.filter fun header => foldName header.name != foldName name

namespace Headers

variable {headers : Headers} {name : String}

/-- Other headers do not matter for the first value of a name. -/
theorem first?_without {other : String} (differ : foldName name ≠ foldName other) :
    (headers.without other).first? name = headers.first? name := by
  unfold first? without
  congr 1
  induction headers with
  | nil => rfl
  | cons header rest ih =>
      by_cases isOther : foldName header.name = foldName other
      · have notNamed : ¬ foldName header.name = foldName name :=
          fun named => differ (named.symm.trans isOther)
        rw [List.filter_cons_of_neg (by simp [isOther]),
          List.find?_cons_of_neg (by simp [notNamed]), ih]
      · rw [List.filter_cons_of_pos (by simp [isOther]), List.find?_cons, List.find?_cons, ih]

theorem text?_without {other : String} (differ : foldName name ≠ foldName other) :
    (headers.without other).text? name = headers.text? name := by
  rw [text?, first?_without differ, text?]

end Headers

theorem callerOf_of_not_hasText {auth : AuthSettings} {headers : Headers}
    (unknown : ¬ headers.HasText auth.userIdHeader) :
    callerOf headers auth =
      .error (.unauthenticated s!"missing {auth.userIdHeader} header") := by
  rw [← Headers.isSome_text?_iff, Bool.not_eq_true, Option.isSome_eq_false_iff,
    Option.isNone_iff_eq_none] at unknown
  rw [callerOf, unknown]

theorem exists_callerOf {auth : AuthSettings} {headers : Headers}
    (identified : headers.HasText auth.userIdHeader) :
    ∃ caller, callerOf headers auth = .ok caller := by
  rw [← Headers.isSome_text?_iff, Option.isSome_iff_exists] at identified
  obtain ⟨userId, found⟩ := identified
  exact ⟨_, by rw [callerOf, found]⟩

/-- The user behind a request, as headers tell: without a name to display, the
identifier serves as one. -/
structure Identifies (headers : Headers) (auth : AuthSettings) (principal : Principal) :
    Prop where
  userId : headers.Carries auth.userIdHeader principal.userId
  displayName : headers.Carries auth.displayNameHeader principal.displayName ∨
    (∀ content, ¬ headers.Carries auth.displayNameHeader content) ∧
      principal.displayName = principal.userId

section Caller

variable {headers : Headers} {auth : AuthSettings} {caller : Caller}

theorem exists_text?_of_callerOf (known : callerOf headers auth = .ok caller) :
    ∃ userId, headers.text? auth.userIdHeader = some userId ∧
      caller = ⟨⟨userId, (headers.text? auth.displayNameHeader).getD userId⟩,
        headers.text? auth.tokenHeader⟩ := by
  unfold callerOf at known
  split at known
  · exact absurd known nofun
  · rename_i userId found
    exact ⟨userId, found, (Except.ok.inj known).symm⟩

theorem identifies_of_callerOf (known : callerOf headers auth = .ok caller) :
    Identifies headers auth caller.principal := by
  obtain ⟨userId, found, rfl⟩ := exists_text?_of_callerOf known
  refine ⟨Headers.text?_eq_some_iff.mp found, ?_⟩
  cases display : headers.text? auth.displayNameHeader with
  | none => exact .inr ⟨Headers.text?_eq_none_iff.mp display, rfl⟩
  | some displayName => exact .inl (Headers.text?_eq_some_iff.mp display)

theorem forwardedToken?_of_callerOf (known : callerOf headers auth = .ok caller) :
    caller.forwardedToken? = headers.text? auth.tokenHeader := by
  obtain ⟨userId, -, rfl⟩ := exists_text?_of_callerOf known
  rfl

/-- Without the header of the token, the same user is found. -/
theorem callerOf_without (apartFromId : foldName auth.userIdHeader ≠ foldName auth.tokenHeader)
    (apartFromName : foldName auth.displayNameHeader ≠ foldName auth.tokenHeader) :
    (callerOf (headers.without auth.tokenHeader) auth).map (·.principal) =
      (callerOf headers auth).map (·.principal) := by
  unfold callerOf
  rw [Headers.text?_without apartFromId, Headers.text?_without apartFromName]
  cases headers.text? auth.userIdHeader with
  | none => rfl
  | some userId => rfl

end Caller

end Http

end EditorLaunch
