import EditorLaunch.Proofs.Number.Comparison
import EditorLaunch.Proofs.Settings.Budget
import Mathlib.Tactic.Ring

/-!
# Settings that the service can work with

Validation looks for nine problems, one after the other, and reports the first that is
there.  None is there exactly if the settings meet eight conditions, whose sums are exact,
and the factor of pauses is not below one.  The last is less than what is asked for when a
factor is refused: what is no number is not below one, and it is not at least one either.
-/

namespace EditorLaunch

theorem isAddress_iff {content : String} :
    isAddress content = true ↔ ∃ url, Url.parse content = .ok url := by
  unfold isAddress
  cases Url.parse content <;> simp [Except.isOk, Except.toBool]

namespace Settings

variable {settings : Settings}

/-- The problems that validation looks for, in their order. -/
def problems (settings : Settings) : List SettingsProblem :=
  [.blankBridgeHost, .badBridgeHost settings.bridge.host,
    .badGatewayAddress settings.gateway.address, .emptyBridgeSecret, .emptyTokenSecret,
    .noLifetime, .noAttempts, .shrinkingPauses,
    .slowRequests settings.web.requestTimeout settings.outboundBudget]

/-- Whether validation takes a problem to be there. -/
def shows (settings : Settings) : SettingsProblem → Bool
  | .blankBridgeHost => isBlankText settings.bridge.host
  | .badBridgeHost host => !isAddress host
  | .badGatewayAddress address => !isAddress address
  | .emptyBridgeSecret => settings.bridge.secret.isEmpty
  | .emptyTokenSecret => settings.auth.mode == .mint && settings.token.secret.isEmpty
  | .noLifetime => settings.token.lifetime == .zero
  | .noAttempts => settings.retry.maxAttempts == 0
  | .shrinkingPauses => settings.retry.multiplier < 1.0
  | .slowRequests given needed => given.nanoseconds ≤ needed.nanoseconds

/-- A problem is there. -/
def Has (settings : Settings) : SettingsProblem → Prop
  | .blankBridgeHost => ∀ letter ∈ settings.bridge.host.toList, isBlank letter = true
  | .badBridgeHost host => ∀ url, Url.parse host ≠ .ok url
  | .badGatewayAddress address => ∀ url, Url.parse address ≠ .ok url
  | .emptyBridgeSecret => settings.bridge.secret = ""
  | .emptyTokenSecret => settings.auth.mode = .mint ∧ settings.token.secret = ""
  | .noLifetime => settings.token.lifetime.nanoseconds = 0
  | .noAttempts => settings.retry.maxAttempts.toNat = 0
  | .shrinkingPauses => settings.retry.multiplier < 1.0
  | .slowRequests given _ => given.nanoseconds ≤ settings.exactBudget

/-- Looking for problems one after the other finds the first one. -/
theorem foldr_refuse (shows : SettingsProblem → Bool) (problems : List SettingsProblem) :
    problems.foldr (fun problem rest => refuse problem (shows problem) >>= fun _ => rest)
        (.ok ()) =
      match problems.find? shows with
      | some problem => .error problem
      | none => .ok () := by
  induction problems with
  | nil => rfl
  | cons problem rest ih =>
      rw [List.foldr_cons, ih, List.find?_cons]
      cases shows problem <;> rfl

theorem validate_eq_find? (settings : Settings) :
    settings.validate =
      match settings.problems.find? settings.shows with
      | some problem => .error problem
      | none => .ok () := by
  have last (problem : SettingsProblem) (found : Bool) :
      refuse problem found = refuse problem found >>= fun _ => .ok () := by
    cases found <;> rfl
  rw [← foldr_refuse, validate, last (.slowRequests _ _)]
  rfl

theorem lifetime_eq_zero_iff {lifetime : Duration} :
    lifetime = .zero ↔ lifetime.nanoseconds = 0 := by
  obtain ⟨nanoseconds, fits⟩ := lifetime
  simp [Duration.zero]

theorem shows_iff {problem : SettingsProblem} (member : problem ∈ settings.problems) :
    settings.shows problem = true ↔ settings.Has problem := by
  cases problem with
  | blankBridgeHost => simp [shows, Has, isBlankText]
  | badBridgeHost host => simp [shows, Has, ← Bool.not_eq_true, isAddress_iff]
  | badGatewayAddress address => simp [shows, Has, ← Bool.not_eq_true, isAddress_iff]
  | emptyBridgeSecret => simp [shows, Has]
  | emptyTokenSecret => simp [shows, Has]
  | noLifetime => simp [shows, Has, lifetime_eq_zero_iff]
  | noAttempts => simp [shows, Has, ← UInt32.toNat_inj]
  | shrinkingPauses => simp [shows, Has]
  | slowRequests given needed =>
      obtain ⟨rfl, rfl⟩ : given = settings.web.requestTimeout ∧
          needed = settings.outboundBudget := by
        simpa [problems] using member
      have same : settings.outboundBudget.nanoseconds < settings.web.requestTimeout.nanoseconds ↔
          settings.exactBudget < settings.web.requestTimeout.nanoseconds :=
        settings.outboundBudget_saturates.lt_iff
      rw [shows, decide_eq_true_iff, Has, ← Nat.not_lt, ← Nat.not_lt, same]

/-- The first problem that is there is reported. -/
theorem validate_eq_error_iff {problem : SettingsProblem} :
    settings.validate = .error problem ↔
      ∃ before behind, settings.problems = before ++ problem :: behind ∧
        settings.Has problem ∧ ∀ other ∈ before, ¬ settings.Has other := by
  have found : settings.validate = .error problem ↔
      settings.problems.find? settings.shows = some problem := by
    rw [validate_eq_find?]
    cases settings.problems.find? settings.shows <;> simp
  rw [found, List.find?_eq_some_iff_append]
  constructor
  · rintro ⟨shown, before, behind, divided, unshown⟩
    have among {other : SettingsProblem} (member : other ∈ before ++ problem :: behind) :
        settings.shows other = true ↔ settings.Has other :=
      shows_iff (divided ▸ member)
    refine ⟨before, behind, divided, (among (by simp)).mp shown, fun other member has => ?_⟩
    have shownToo := (among (List.mem_append_left _ member)).mpr has
    simpa [shownToo] using unshown other member
  · rintro ⟨before, behind, divided, has, others⟩
    have among {other : SettingsProblem} (member : other ∈ before ++ problem :: behind) :
        settings.shows other = true ↔ settings.Has other :=
      shows_iff (divided ▸ member)
    refine ⟨(among (by simp)).mpr has, before, behind, divided, fun other member => ?_⟩
    rw [Bool.not_eq_true', ← Bool.not_eq_true]
    exact fun shown => others other member ((among (List.mem_append_left _ member)).mp shown)

theorem validate_eq_ok_iff :
    settings.validate = .ok () ↔ ∀ problem ∈ settings.problems, ¬ settings.Has problem := by
  have none : settings.validate = .ok () ↔
      settings.problems.find? settings.shows = none := by
    rw [validate_eq_find?]
    cases settings.problems.find? settings.shows <;> simp
  rw [none, List.find?_eq_none]
  exact forall₂_congr fun problem member => not_congr (shows_iff member)

/-- The nanoseconds that the requests for one file take if every attempt runs into its
timeout and every pause is the longest one: the attempts of one look-up, those of a
catalogue and a session, and the pauses between the attempts of each. -/
def neededTime (settings : Settings) : Nat :=
  let attempts := settings.retry.maxAttempts.toNat
  attempts * settings.gateway.requestTimeout.nanoseconds +
    2 * attempts * settings.bridge.requestTimeout.nanoseconds +
    3 * (attempts - 1) * settings.retry.exactPause

/-- Everything is in order but, maybe, the factor of pauses. -/
structure Workable (settings : Settings) : Prop where
  bridgeHost : ∃ letter ∈ settings.bridge.host.toList, isBlank letter = false
  bridgeAddress : ∃ url, Url.parse settings.bridge.host = .ok url
  gatewayAddress : ∃ url, Url.parse settings.gateway.address = .ok url
  bridgeSecret : settings.bridge.secret ≠ ""
  tokenSecret : settings.token.secret ≠ "" ∨ settings.auth.mode = .forward
  lifetime : 0 < settings.token.lifetime.nanoseconds
  attempts : 1 ≤ settings.retry.maxAttempts.toNat
  roomy : settings.neededTime < settings.web.requestTimeout.nanoseconds

/-- Everything is in order. -/
structure Sound (settings : Settings) : Prop extends Workable settings where
  factor : 1.0 ≤ settings.retry.multiplier

theorem exactBudget_eq_neededTime (attempted : 1 ≤ settings.retry.maxAttempts.toNat) :
    settings.exactBudget = settings.neededTime := by
  have attemptsEq : settings.retry.attempts = settings.retry.maxAttempts.toNat :=
    Nat.max_eq_left attempted
  simp only [exactBudget, neededTime, RetrySettings.exactWorstCase, attemptsEq]
  ring

/-- Settings are accepted if they are workable and their factor is not below one. -/
theorem validate_eq_ok_iff_workable :
    settings.validate = .ok () ↔ settings.Workable ∧ ¬ settings.retry.multiplier < 1.0 := by
  rw [validate_eq_ok_iff]
  simp only [problems, List.forall_mem_cons, Has]
  constructor
  · rintro ⟨host, bridge, gateway, bridgeSecret, tokenSecret, lifetime, attempts, steady,
      slow, -⟩
    have attempted := Nat.one_le_iff_ne_zero.mpr attempts
    rw [exactBudget_eq_neededTime attempted] at slow
    refine ⟨⟨by simpa using host, by simpa using bridge, by simpa using gateway,
      bridgeSecret, ?_, Nat.pos_of_ne_zero lifetime, attempted, Nat.not_le.mp slow⟩, steady⟩
    by_cases secret : settings.token.secret = ""
    · right
      cases mode : settings.auth.mode with
      | mint => exact absurd ⟨mode, secret⟩ tokenSecret
      | forward => rfl
    · exact .inl secret
  · rintro ⟨workable, steady⟩
    have slow := Nat.not_le.mpr workable.roomy
    rw [← exactBudget_eq_neededTime workable.attempts] at slow
    refine ⟨by simpa using workable.bridgeHost, by simpa using workable.bridgeAddress,
      by simpa using workable.gatewayAddress, workable.bridgeSecret, ?_,
      Nat.ne_of_gt workable.lifetime, Nat.one_le_iff_ne_zero.mp workable.attempts, steady,
      slow, by simp⟩
    rintro ⟨mints, empty⟩
    rcases workable.tokenSecret with filled | forwards
    · exact filled empty
    · rw [mints] at forwards
      cases forwards

theorem workable_of_validate (valid : settings.validate = .ok ()) : settings.Workable :=
  (validate_eq_ok_iff_workable.mp valid).1

/-- Nothing is hidden by sums that stop at the longest duration. -/
theorem exactBudget_lt_of_validate (valid : settings.validate = .ok ()) :
    settings.exactBudget < settings.web.requestTimeout.nanoseconds := by
  have workable := workable_of_validate valid
  rw [exactBudget_eq_neededTime workable.attempts]
  exact workable.roomy

theorem isNaN_one : (1.0 : Float).isNaN = false := by
  decide

/-- Validation accepts settings exactly if everything is in order, or would be but for a
factor of pauses that is no number.  Otherwise it reports the first problem that is there,
as a failure of the configuration. -/
theorem validate_decides (settings : Settings) :
    (settings.validate = .ok () ↔
      settings.Sound ∨ settings.Workable ∧ settings.retry.multiplier.isNaN = true) ∧
    (settings.validate ≠ .ok () → ∃ problem before behind detail,
      settings.validate = .error problem ∧ problem.failure = .configuration detail ∧
      settings.problems = before ++ problem :: behind ∧ settings.Has problem ∧
      ∀ other ∈ before, ¬ settings.Has other) := by
  constructor
  · rw [validate_eq_ok_iff_workable, not_lt_iff_le_or_isNaN, isNaN_one]
    constructor
    · rintro ⟨workable, steady | noNumber | ⟨⟨⟩⟩⟩
      · exact .inl ⟨workable, steady⟩
      · exact .inr ⟨workable, noNumber⟩
    · rintro (sound | ⟨workable, noNumber⟩)
      · exact ⟨sound.toWorkable, .inl sound.factor⟩
      · exact ⟨workable, .inr (.inl noNumber)⟩
  · intro refused
    cases outcome : settings.validate with
    | ok _ => exact absurd outcome refused
    | error problem =>
        obtain ⟨before, behind, divided, has, others⟩ := validate_eq_error_iff.mp outcome
        exact ⟨problem, before, behind, problem.message, rfl, rfl, divided, has, others⟩

/-- Settings with a factor of pauses that is no number. -/
def unfactored : Settings where
  bridge := { host := "http://[::1]:8880" }
  gateway := { address := "http://[::1]:9142" }
  retry := { multiplier := 0.0 / 0.0 }

/-- A factor that is not at least one need not be refused. -/
theorem accepted_without_factor :
    unfactored.validate = .ok () ∧ ¬ 1.0 ≤ unfactored.retry.multiplier ∧
      ¬ unfactored.Sound := by
  have noFactor : ¬ 1.0 ≤ unfactored.retry.multiplier := by decide
  have workable : unfactored.Workable := {
    bridgeHost := ⟨'h', by decide, by decide⟩
    bridgeAddress := isAddress_iff.mp (by decide +kernel)
    gatewayAddress := isAddress_iff.mp (by decide +kernel)
    bridgeSecret := by decide
    tokenSecret := .inl (by decide)
    lifetime := by decide
    attempts := by decide
    roomy := by decide }
  exact ⟨validate_eq_ok_iff_workable.mpr ⟨workable, by decide⟩, noFactor,
    fun sound => noFactor sound.factor⟩

end Settings

end EditorLaunch
